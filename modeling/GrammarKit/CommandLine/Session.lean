import GrammarKit.Build
import GrammarKit.Language.Registry
import GrammarKit.Settings.Reader

/-!
# Sessions

What a command works on: the world that it finds and changes, what it has printed, and what it has
reported. A step that fails ends the command, and what was printed or changed before it stays so.
-/

namespace GrammarKit.CommandLine

/-- What a command finds. -/
structure World where
  tree : FileTree
  registry : Registry
  /-- What is put in, as text: it is left out that there may be nothing to read from, or bytes that are
  no text. -/
  input : Text := []
  /-- Everything is reported, whatever the command line says. -/
  debug : Bool := false

def World.root (w : World) : Path := ⟨1, w.tree.here⟩

inductive CommandError where
  | load (cause : LoadError)
  | read (cause : ReadError)
  | collect (cause : CollectError)
  | build (cause : BuildError)
  | listing (cause : FileError)
  | substitution (cause : SubstitutionError)
  /-- The registry does not answer. -/
  | registry (cause : RegistryError)
  deriving Repr

structure Session where
  world : World
  printed : Text := []
  log : Log := []

/-- A step of a command, which fails or gives a value, and leaves a session in both cases. -/
abbrev Step := ExceptT CommandError (StateM Session)

namespace Step

variable {α : Type}

/-- Looks at the world, and reports on the way. -/
def look (f : World → Logged CommandError α) : Step α :=
  ExceptT.mk fun s =>
    let found := f s.world
    (found.result, { s with log := s.log ++ found.log })

/-- Works on the file tree, and reports on the way. -/
def onTree (f : World → FileTree × Logged CommandError α) : Step α :=
  ExceptT.mk fun s =>
    let (tree, done) := f s.world
    (done.result, { s with world := { s.world with tree }, log := s.log ++ done.log })

/-- Works on the registry. -/
def onRegistry (f : Registry → Registry × Except CommandError α) : Step α :=
  ExceptT.mk fun s =>
    let (registry, result) := f s.world.registry
    (result, { s with world := { s.world with registry } })

/-- Prints a text. It is left out that what is printed may be encoded, in an encoding in which the text
cannot be written. -/
def print (text : Text) : Step Unit := modify fun s => { s with printed := s.printed ++ text }

end Step
end GrammarKit.CommandLine
