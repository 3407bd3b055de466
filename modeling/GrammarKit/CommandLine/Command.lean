import GrammarKit.CommandLine.Arguments
import GrammarKit.FileTree.Path

/-!
# Commands

What the program can be asked to do on its command line.
-/

namespace GrammarKit.CommandLine

inductive SwitchName where
  | help
  | version
  | verbose
  | stripHeader
  | sort
  | shorten
  | json
  | out
  /-- Headers are not removed. -/
  | noStrip
  deriving DecidableEq, Repr

inductive Command where
  | header (files : List Path)
  | filter (qualifiers : List Text)
  /-- Shortens the names in a file or in what is put in. -/
  | shorten (file? : Option Path) (stripHeader : Bool)
  | styles (sorted : Bool)
  | languages
  | export (language : Text) (shorten asData : Bool)
  | build (qualifiers : List Text) (out : Path) (strip shorten : Bool)
  deriving DecidableEq, Repr

structure Invocation where
  verbose : Bool
  command : Command
  deriving DecidableEq, Repr

def helpSwitch : Switch SwitchName :=
  { id := .help, long := "--help".toList, short? := some 'h', final := true }

/-- A switch without a value. -/
def flag (id : SwitchName) (long : String) : Switch SwitchName := { id, long := long.toList }

def programGrammar : Grammar SwitchName where
  switches := [helpSwitch,
    { id := .version, long := "--version".toList, final := true },
    { id := .verbose, long := "--verbose".toList, short? := some 'v' }]
  arity := .command

def commandGrammars : List (String × Grammar SwitchName) := [
  ("header", { switches := [helpSwitch], arity := .some }),
  ("filter", { switches := [helpSwitch], arity := .any }),
  ("shorten", { switches := [helpSwitch, flag .stripHeader "--strip-header"], arity := .optional }),
  ("styles", { switches := [helpSwitch, flag .sort "--sort"], arity := .none }),
  ("languages", { switches := [helpSwitch], arity := .none }),
  ("export",
    { switches := [helpSwitch, flag .shorten "--shorten", flag .json "--json"], arity := .one }),
  ("build",
    { switches := [helpSwitch, { id := .out, long := "--out".toList, takesValue := true },
        flag .noStrip "--no-strip", flag .shorten "--shorten"]
      arity := .any
      required := [.out] })]

/-- The command of a name with what has been read for it. -/
def Command.ofReading? (name : String) (r : Reading SwitchName) : Option Command :=
  match name, r.words with
  | "header", files => some (.header (files.map Path.ofText))
  | "filter", qualifiers => some (.filter qualifiers)
  | "shorten", files => some (.shorten (files.head?.map Path.ofText) (r.has .stripHeader))
  | "styles", _ => some (.styles (r.has .sort))
  | "languages", _ => some .languages
  | "export", [language] => some (.export language (r.has .shorten) (r.has .json))
  | "build", qualifiers =>
    (r.value? .out).map fun out =>
      .build qualifiers (Path.ofText out) (!r.has .noStrip) (r.has .shorten)
  | _, _ => none

/-- The command that words ask for, the first of them its name. -/
def Command.ofWords : List Text → Except (Stop SwitchName) Command
  | [] => .error .usage
  | name :: args =>
    match commandGrammars.find? fun entry => entry.1.toList = name with
    | none => .error .usage
    | some (known, g) => do
      let r ← (← Reading.ofArguments g args).complete g
      match Command.ofReading? known r with
      | some command => return command
      | none => throw .usage

def Invocation.ofArguments (args : List Text) : Except (Stop SwitchName) Invocation := do
  let r ← Reading.ofArguments programGrammar args
  let command ← Command.ofWords r.words
  let r ← r.complete programGrammar
  return ⟨r.has .verbose, command⟩

end GrammarKit.CommandLine
