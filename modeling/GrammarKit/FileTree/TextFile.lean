import GrammarKit.Encoding.Codec
import GrammarKit.FileTree.Basic

/-!
# Text files

Reading and writing files as text. A file is opened before it matters how its text is encoded: what
is wrong with the path comes first, and a file that cannot be written in its encoding is left empty.
Only a null character in the name of the encoding is found before.
-/

namespace GrammarKit

inductive ReadError where
  | file (cause : FileError)
  | nullInEncoding
  /-- There is no such encoding. -/
  | unknownEncoding (name : Text)
  /-- The bytes are no text. -/
  | undecodable (path : Path) (encoding : Text) (reason : Encoding.DecodeReason) (start : Nat)
  /-- The bytes do not start with the mark that the encoding asks for. -/
  | noMark
  deriving DecidableEq, Repr

/-- Says that an encoding is not known. -/
def unknownEncodingMessage (name : Text) : Text := "unknown encoding: ".toList ++ name

/-- Says that the name of an encoding has a null character in it. -/
def nullInEncodingMessage : Text := "embedded null character".toList

def ReadError.message : ReadError → Text
  | .file cause => cause.message
  | .nullInEncoding => nullInEncodingMessage
  | .unknownEncoding name => unknownEncodingMessage name
  | .undecodable path encoding reason start =>
    path.text ++ ": cannot decode as ".toList ++ encoding ++ ": ".toList ++ reason.message ++
      " at byte ".toList ++ Text.ofNat start
  | .noMark => Encoding.DecodeError.noMark.message []

inductive WriteError where
  | file (cause : FileError)
  | nullInEncoding
  /-- There is no such encoding. -/
  | unknownEncoding (name : Text)
  | unencodable (cause : Encoding.EncodeError)
  deriving DecidableEq, Repr

def WriteError.message : WriteError → Text
  | .file cause => cause.message
  | .nullInEncoding => nullInEncodingMessage
  | .unknownEncoding name => unknownEncodingMessage name
  | .unencodable cause => cause.message

/-- The bytes of a text in the encoding of the given name. -/
def encodeAs (encoding t : Text) : Except WriteError Bytes :=
  match Encoding.ofName? encoding with
  | none => .error (.unknownEncoding encoding)
  | some e => (e.encode t).mapError .unencodable

namespace FileTree

/-- The text of a file in the encoding of the given name. -/
def readText (t : FileTree) (p : Path) (encoding : Text) : Except ReadError Text :=
  if encoding.contains '\x00' then .error .nullInEncoding
  else match t.readFile p with
  | .error cause => .error (.file cause)
  | .ok bytes =>
    match Encoding.ofName? encoding with
    | none => .error (.unknownEncoding encoding)
    | some e =>
      match e.readText bytes with
      | .ok text => .ok text
      | .error (.badBytes reason start _) => .error (.undecodable p encoding reason start)
      | .error .noMark => .error .noMark

/-- Gives a file a text in the encoding of the given name. -/
def writeText (t : FileTree) (p : Path) (encoding text : Text) :
    FileTree × Except WriteError Unit :=
  if encoding.contains '\x00' then (t, .error .nullInEncoding)
  else match t.writeFile p [] with
  | .error cause => (t, .error (.file cause))
  | .ok cleared =>
    match encodeAs encoding text with
    | .error e => (cleared, .error e)
    | .ok bytes =>
      match t.writeFile p bytes with
      | .error cause => (t, .error (.file cause))
      | .ok later => (later, .ok ())

end FileTree
end GrammarKit
