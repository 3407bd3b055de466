import GrammarKit.About
import GrammarKit.CommandLine.Command
import GrammarKit.CommandLine.Report
import GrammarKit.CommandLine.Session
import GrammarKit.Text.LineBreak

/-!
# Carrying out commands

What a command does step by step, and how it ends. Errors that whoever gave the command can mend are
reported; all others end the program.
-/

namespace GrammarKit.CommandLine

/-! ### Errors -/

def CommandError.message : CommandError → Text
  | .load cause => cause.message
  | .read cause => cause.message
  | .collect cause => cause.message
  | .build cause => cause.message
  | .listing cause => cause.message
  | .substitution cause => cause.message
  | .registry cause => cause.message

/-- An error of the program's own, as it is reported. -/
def ownError (message : Text) : Text := Text.trimEnd message

/-- How an error in using a file is reported, if it is. -/
def fileMessage? (cause : FileError) : Option Text :=
  if cause.fault = .nullCharacter then none else some cause.message

/-- How an error in reading a file is reported, if it is. -/
def readMessage? : ReadError → Option Text
  | .file cause => fileMessage? cause
  | .undecodable path encoding reason start =>
    some (ownError (ReadError.undecodable path encoding reason start).message)
  | _ => none

/-- How an error in collecting files is reported, if it is. -/
def collectMessage? : CollectError → Option Text
  | .noDirectory path => some (CollectError.noDirectory path).message
  | .path cause => fileMessage? cause
  | .read cause => readMessage? cause
  | .glob _ => none

/-- How an error in a build is reported, if it is. -/
def buildMessage? : BuildError → Option Text
  | .collect cause => collectMessage? cause
  | .clash names => some (ownError (clashMessage names))
  | .directory cause => fileMessage? cause
  | .write (.file cause) => fileMessage? cause
  | _ => none

/-- How an error in the settings is reported, if it is. -/
def loadMessage? : LoadError → Option Text
  | .settings .unshowable | .settings .tooDeep => none
  | .settings cause => some (ownError cause.message)
  | .file cause => fileMessage? cause
  | .undecodable cause => some (LoadError.undecodable cause).message
  | .value _ => none

/-- How an error of the registry is reported, if it is. -/
def registryMessage? : RegistryError → Option Text
  | .noModule _ | .notInPackage _ _ | .beyondTop | .emptyName => none
  | .descriptor (.badPattern _) => none
  | cause => some (ownError cause.message)

/-- How an error is reported, if it is. -/
def CommandError.message? : CommandError → Option Text
  | .load cause => loadMessage? cause
  | .read cause => readMessage? cause
  | .collect cause => collectMessage? cause
  | .build cause => buildMessage? cause
  | .listing cause => fileMessage? cause
  | .substitution _ => none
  | .registry cause => registryMessage? cause

/-! ### Commands -/

open Step

def settings : Step Settings := look fun w => (Settings.load w.tree w.root).mapError .load

def headersOf (t : FileTree) (encoding : Text) :
    List Path → Except ReadError (OrderedMap Text (Option Header))
  | files => files.foldlM (fun headers file => do
      let text ← t.readText file encoding
      return headers.insert file.text (Header.read? text)) .empty

def runHeader (files : List Path) : Step Unit := do
  let s ← settings
  let headers ← look fun w => .of ((headersOf w.tree s.encoding files).mapError .read)
  print (headersReport headers).render

/-- The files below a root, those that are asked for and the others. -/
def filterFiles (t : FileTree) (root : Path) (s : Settings) (qualifiers : List Text) :
    Logged CollectError FilterReport := do
  let blobs ← t.collect root s
  return .ofBlobs s.naming qualifiers blobs

def runFilter (qualifiers : List Text) : Step Unit := do
  let s ← settings
  let report ← look fun w => (filterFiles w.tree w.root s qualifiers).mapError .collect
  print report.data.render

/-- The text that a command reads: that of a file, or what is put in. -/
def inputText (w : World) (file? : Option Path) (encoding : Text) : Except ReadError Text :=
  match file? with
  | some file => w.tree.readText file encoding
  | none => .ok (Text.unifyNewlines w.input)

def runShorten (file? : Option Path) (strip : Bool) : Step Unit := do
  let s ← settings
  let text ← look fun w => .of ((inputText w file? s.encoding).mapError .read)
  let shortened ← look fun _ => .of ((transform strip true .standard text).mapError .substitution)
  print shortened

def runStyles (sorted : Bool) : Step Unit := do
  let s ← settings
  let dir ← look fun w => .of ((s.stylesPath w.root).mapError .listing)
  let entries ← look fun w => (Style.list w.tree dir
    { suffix := s.stylesheetSuffix, default := s.defaultStyle, sorted }).mapError .listing
  print (stylesReport entries).render

def runLanguages : Step Unit := do
  let names ← look fun w => pure w.registry.list
  print (languagesReport names).render

/-- A registered language as the source of a grammar or as data, and the registry afterwards. -/
def runExport (r : Registry) (language : Text) (shorten asData : Bool) :
    Registry × Except RegistryError Text :=
  match r.descriptor language with
  | (.error e, r) => (r, .error e)
  | (.ok d, r) =>
    match r.header language with
    | (.error e, r) => (r, .error e)
    | (.ok header, r) =>
      let table := if shorten then some AbbreviationTable.standard else none
      (r, .ok (if asData then (exportReport language header d).render
        else d.renderSource header table))

def runBuild (qualifiers : List Text) (out : Path) (strip shorten : Bool) : Step Unit := do
  let s ← settings
  let report ← onTree fun w =>
    let (tree, built) := Build.run w.tree w.root s qualifiers out { strip, shorten }
    (tree, built.mapError .build)
  print (buildReport report).render

def Command.perform : Command → Step Unit
  | .header files => runHeader files
  | .filter qualifiers => runFilter qualifiers
  | .shorten file? strip => runShorten file? strip
  | .styles sorted => runStyles sorted
  | .languages => runLanguages
  | .export language short asData => do
    let text ← onRegistry fun r =>
      let (registry, text) := runExport r language short asData
      (registry, text.mapError .registry)
    print text
  | .build qualifiers out strip short => runBuild qualifiers out strip short

/-! ### Answers -/

structure Answer where
  code : Nat
  output : Text
  errors : Text
  deriving DecidableEq, Repr

def LogLine.shown (l : LogLine) : Text :=
  ['['] ++ l.level.name ++ "] ".toList ++ l.message ++ ['\n']

/-- The log lines that are reported: all, or warnings only. -/
def shownLog (everything : Bool) (log : Log) : Text :=
  (log.filter fun l => everything || l.level = .warning).flatMap LogLine.shown

/-- The answer to arguments that ask for nothing that can be carried out. -/
def stopAnswer : Stop SwitchName → Answer
  | .usage => ⟨2, [], "usage: ".toList ++ programName ++ " [-h] [--version] [-v] command ...\n".toList⟩
  | .final .version => ⟨0, programName ++ [' '] ++ programVersion true ++ ['\n'], []⟩
  | .final _ =>
    ⟨0, "usage: ".toList ++ programName ++ " [-h] [--version] [-v] command ...\n".toList, []⟩

/-- How a command ends: with a status or with an error that is not reported, and with what it has
printed, reported and changed by then. -/
structure Ending where
  status : Except CommandError Nat
  output : Text
  errors : Text
  world : World

def Invocation.perform (w : World) (i : Invocation) : Ending :=
  let (result, later) := i.command.perform.run.run { world := w }
  let shown := shownLog (i.verbose || w.debug) later.log
  match result with
  | .ok () => ⟨.ok 0, later.printed, shown, later.world⟩
  | .error e =>
    match e.message? with
    | some message => ⟨.ok 2, later.printed, shown ++ message ++ ['\n'], later.world⟩
    | none => ⟨.error e, later.printed, shown, later.world⟩

/-- The answer to a command, unless an error ends the program. -/
def Invocation.run (w : World) (i : Invocation) : World × Except CommandError Answer :=
  let ending := i.perform w
  (ending.world, ending.status.map fun code => ⟨code, ending.output, ending.errors⟩)

end GrammarKit.CommandLine
