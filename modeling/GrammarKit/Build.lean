import GrammarKit.Abbreviation.Standard
import GrammarKit.Substitution.Rule
import GrammarKit.Selection.Collect

/-!
# Builds

A build collects the grammar files, keeps those that are asked for, shortens them and writes each
one under its base name into one directory. All files are read and their base names compared before
anything is written.
-/

namespace GrammarKit

open Text

structure BuildOptions where
  strip : Bool := true
  shorten : Bool := false
  table : AbbreviationTable := .standard

structure BuiltFile where
  source : Text
  output : Text
  /-- The size of what was read, in bytes. -/
  bytesIn : Nat
  /-- The size of what was written, in bytes. -/
  bytesOut : Nat
  deriving DecidableEq, Repr

structure BuildReport where
  qualifiers : List Text
  accepted : List Text
  rejected : List Text
  files : List BuiltFile
  deriving DecidableEq, Repr

namespace BuildReport

def bytesIn (r : BuildReport) : Nat := (r.files.map (·.bytesIn)).foldr (· + ·) 0

def bytesOut (r : BuildReport) : Nat := (r.files.map (·.bytesOut)).foldr (· + ·) 0

end BuildReport

inductive BuildError where
  | collect (cause : CollectError)
  | clash (names : List Text)
  | directory (cause : FileError)
  | substitution (cause : SubstitutionError)
  | write (cause : WriteError)
  deriving DecidableEq, Repr

def clashMessage (names : List Text) : Text :=
  "Several selected descriptor files share an output name: ".toList ++ join ", ".toList names ++
    " (check entry_point and languages_dir)".toList

def BuildError.message : BuildError → Text
  | .collect cause => cause.message
  | .clash names => clashMessage names
  | .directory cause => cause.message
  | .substitution cause => cause.message
  | .write cause => cause.message

namespace Build

def outputName (b : Blob) : Text := Path.baseName b.name

/-- The names under which more than one file would be written, sorted. -/
def clashes (bs : List Blob) : List Text :=
  let names := bs.map outputName
  distinct (names.filter fun name => 1 < names.count name)

def describe (target : Path) (encoding : Text) (b : Blob) (text : Text) :
    Except WriteError BuiltFile := do
  let bytesIn ← encodeAs encoding b.content
  let bytesOut ← encodeAs encoding text
  return ⟨b.name, target.text, bytesIn.length, bytesOut.length⟩

/-- Writes a file, shortened, into a directory. -/
def writeBlob (t : FileTree) (out : Path) (encoding : Text) (o : BuildOptions) (b : Blob) :
    FileTree × Except BuildError BuiltFile :=
  match transform o.strip o.shorten o.table b.content with
  | .error cause => (t, .error (.substitution cause))
  | .ok text =>
    let target := out.child (outputName b)
    match t.writeText target encoding text with
    | (later, .error cause) => (later, .error (.write cause))
    | (later, .ok ()) => (later, (describe target encoding b text).mapError .write)

/-- Writes files, shortened, into a directory, one after the other, up to the first that fails. -/
def writeAll (t : FileTree) (out : Path) (encoding : Text) (o : BuildOptions) :
    List Blob → FileTree × Except BuildError (List BuiltFile)
  | [] => (t, .ok [])
  | b :: bs =>
    match writeBlob t out encoding o b with
    | (later, .error e) => (later, .error e)
    | (later, .ok file) =>
      match writeAll later out encoding o bs with
      | (last, .error e) => (last, .error e)
      | (last, .ok files) => (last, .ok (file :: files))

def write (t : FileTree) (out : Path) (encoding : Text) (o : BuildOptions) (bs : List Blob) :
    FileTree × Except BuildError (List BuiltFile) :=
  match t.makeDirectories out with
  | (later, .error cause) => (later, .error (.directory cause))
  | (later, .ok ()) => writeAll later out encoding o bs

def skipped (b : Blob) : LogLine :=
  ⟨.debug, "skip ".toList ++ b.name ++ ": no qualifier matched".toList⟩

def done (r : BuildReport) (collected : Nat) (out : Path) : LogLine :=
  ⟨.info, "built ".toList ++ ofNat r.files.length ++ " of ".toList ++ ofNat collected ++
    " descriptor file(s) into ".toList ++ out.text ++ " (".toList ++ ofNat r.bytesIn ++
    " → ".toList ++ ofNat r.bytesOut ++ " bytes)".toList⟩

def runOn (t : FileTree) (s : Settings) (qualifiers : List Text) (out : Path) (o : BuildOptions)
    (collected : List Blob) : FileTree × Logged BuildError BuildReport :=
  let chooses := (Qualifiers.ofList qualifiers).chooses s.naming
  let chosen := collected.filter chooses
  let others := collected.filter fun b => !chooses b
  let log := others.map skipped
  if clashes chosen = [] then
    match write t out s.encoding o chosen with
    | (later, .error e) => (later, ⟨log, .error e⟩)
    | (later, .ok files) =>
      let report := ⟨qualifiers, chosen.map (·.name), others.map (·.name), files⟩
      (later, ⟨log ++ [done report collected.length out], .ok report⟩)
  else (t, ⟨log, .error (.clash (clashes chosen))⟩)

/-- Builds the grammars below a root into a directory: the tree afterwards, what was reported on the
way, and the final report. -/
def run (t : FileTree) (root : Path) (s : Settings) (qualifiers : List Text) (out : Path)
    (o : BuildOptions) : FileTree × Logged BuildError BuildReport :=
  let collected := t.collect root s
  match collected.result with
  | .error cause => (t, ⟨collected.log, .error (.collect cause)⟩)
  | .ok blobs =>
    let (later, written) := runOn t s qualifiers out o blobs
    (later, written.after collected.log)

end Build
end GrammarKit
