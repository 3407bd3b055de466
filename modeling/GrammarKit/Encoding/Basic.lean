import GrammarKit.Text.Basic

/-!
# Encodings

The ways in which files hold text, the names by which they are known, and what can be wrong with
the bytes of a text or with the text for an encoding.
-/

namespace GrammarKit

abbrev Bytes := List UInt8

inductive Encoding where
  | utf8
  /-- The same, with a mark at the start. -/
  | utf8Marked
  | ascii
  | latin1
  | cp1251
  | cp1252
  | koi8r
  /-- Two or four bytes for a character, in an order that a mark at the start gives. -/
  | utf16
  /-- Two or four bytes for a character, low bytes first. -/
  | utf16le
  deriving DecidableEq, Repr

namespace Encoding

def ownName : Encoding → String
  | .utf8 => "utf_8"
  | .utf8Marked => "utf_8_sig"
  | .ascii => "ascii"
  | .latin1 => "latin_1"
  | .cp1251 => "cp1251"
  | .cp1252 => "cp1252"
  | .koi8r => "koi8_r"
  | .utf16 => "utf_16"
  | .utf16le => "utf_16_le"

def otherNames : Encoding → List String
  | .utf8 => ["utf8", "u8", "utf", "utf8_ucs2", "utf8_ucs4", "cp65001"]
  | .utf8Marked => []
  | .ascii => ["us_ascii", "us", "646", "ansi_x3.4_1968", "ansi_x3_4_1968", "ansi_x3.4_1986",
      "cp367", "csascii", "ibm367", "iso646_us", "iso_646.irv_1991", "iso_ir_6"]
  | .latin1 => ["latin1", "latin", "l1", "8859", "cp819", "csisolatin1", "ibm819", "iso8859",
      "iso8859_1", "iso_8859_1", "iso_8859_1_1987", "iso_ir_100"]
  | .cp1251 => ["1251", "windows_1251"]
  | .cp1252 => ["1252", "windows_1252"]
  | .koi8r => ["cskoi8r"]
  | .utf16 => ["utf16", "u16"]
  | .utf16le => ["utf_16le", "unicodelittleunmarked"]

def all : List Encoding :=
  [.utf8, .utf8Marked, .ascii, .latin1, .cp1251, .cp1252, .koi8r, .utf16, .utf16le]

/-- An ASCII letter in lower case. -/
def asciiLower (c : Char) : Char := if 'A' ≤ c ∧ c ≤ 'Z' then Char.ofNat (c.toNat + 32) else c

/-- Letters and digits of ASCII, and the point. -/
def isNameChar (c : Char) : Bool := c.isAlphanum || c = '.'

/-- The rest of the plain form of a name, given whether it has started and whether there is a gap
before it. -/
def plainNameFrom (started gap : Bool) : Text → Text
  | [] => []
  | c :: rest =>
    if isNameChar c then
      (if gap && started then ['_'] else []) ++ asciiLower c :: plainNameFrom true false rest
    else plainNameFrom started true rest

/-- The plain form of a name: small letters, and one underscore for whatever stands between letters,
digits and points. -/
def plainName (name : Text) : Text := plainNameFrom false false name

def withoutPoints (plain : Text) : Text := plain.map fun c => if c = '.' then '_' else c

/-- Whether an encoding is known by a plain name. Points count as underscores only in those names
that are not its own. -/
def isKnownAs (plain : Text) (e : Encoding) : Bool :=
  e.ownName.toList = plain || e.otherNames.any fun name =>
    name.toList = plain || name.toList = withoutPoints plain

/-- The encoding of a name. There are other codecs with other names, which are left out; their names are
taken for those of no encoding, like any other text. -/
def ofName? (name : Text) : Option Encoding := all.find? (isKnownAs (plainName name))

inductive DecodeReason where
  | invalidStart
  /-- A byte inside of a character is none that may stand there. -/
  | invalidContinuation
  | unexpectedEnd
  | beyondAscii
  | undefined
  | truncated
  /-- A second half of a pair without the first. -/
  | illegalEncoding
  /-- A first half of a pair without the second. -/
  | illegalSurrogate
  deriving DecidableEq, Repr

def DecodeReason.message : DecodeReason → Text
  | .invalidStart => "invalid start byte".toList
  | .invalidContinuation => "invalid continuation byte".toList
  | .unexpectedEnd => "unexpected end of data".toList
  | .beyondAscii => "ordinal not in range(128)".toList
  | .undefined => "character maps to <undefined>".toList
  | .truncated => "truncated data".toList
  | .illegalEncoding => "illegal encoding".toList
  | .illegalSurrogate => "illegal UTF-16 surrogate".toList

/-- Why bytes are no text. -/
inductive DecodeError where
  /-- What is wrong, the place of the first byte concerned, and the bytes concerned. -/
  | badBytes (reason : DecodeReason) (start : Nat) (bytes : Bytes)
  /-- There is no mark that gives the order of the bytes. -/
  | noMark
  deriving DecidableEq, Repr

structure EncodeError where
  codec : Text
  /-- The place of the first character that cannot be written. -/
  start : Nat
  /-- That character and those behind it that cannot be written either. -/
  characters : Text
  reason : Text
  deriving DecidableEq, Repr

end Encoding
end GrammarKit
