import GrammarKit.CommandLine.Run

/-!
# The program

The command line: the arguments are read, the files that the command works on are fetched, the
command is carried out on them in memory, and what it changed is written back. The files of a project
are those named, one to a line, in the environment variable `LEXDESC_FILES`, the settings file, and
the files that the arguments name.
-/

namespace GrammarKit.CommandLine

def Command.files : Command → List Path
  | .header files => files
  | .shorten (some file) _ => [file]
  | _ => []

def Command.readsInput : Command → Bool
  | .shorten none _ => true
  | _ => false

/-- A file of a project, with the directories before it; what cannot be read is left out. -/
def fetchFile (t : FileTree) (path : Path) : IO FileTree := do
  try
    let content ← IO.FS.readBinFile (String.ofList path.text)
    match (t.makeDirectories path.parent).1.writeFile path content.toList with
    | .ok later => return later
    | .error _ => return t
  catch _ => return t

/-- What is put in, up to its end. -/
partial def readInput (input : IO.FS.Stream) : IO String := do
  let line ← input.getLine
  if line.isEmpty then return line else return line ++ (← readInput input)

def fetchWorld (c : Command) : IO World := do
  let here := (Path.ofText (toString (← IO.currentDir)).toList).parts
  let listed := ((← IO.getEnv "LEXDESC_FILES").getD "").toList
  let paths := Path.ofText settingsFile :: (Text.lines listed).map Path.ofText ++ c.files
  let start : FileTree := { (FileTree.empty.makeDirectories ⟨1, here⟩).1 with here }
  let input ← if c.readsInput then String.toList <$> readInput (← IO.getStdin) else pure []
  return {
    tree := ← paths.foldlM fetchFile start
    registry := .initial
    input
    debug := !((← IO.getEnv "LEXDESC_DEBUG").getD "").isEmpty }

def storeChanges (earlier later : FileTree) : IO Unit :=
  (later.changesSince earlier).forM fun (place, node) =>
    let path := String.ofList (Path.text ⟨1, place⟩)
    match node with
    | .directory => IO.FS.createDirAll path
    | .file content => IO.FS.writeBinFile path (ByteArray.mk content.toArray)

def give (a : Answer) : IO UInt32 := do
  IO.print (String.ofList a.output)
  IO.eprint (String.ofList a.errors)
  return a.code.toUInt32

end GrammarKit.CommandLine

open GrammarKit CommandLine

def main (args : List String) : IO UInt32 := do
  match Invocation.ofArguments (args.map String.toList) with
  | .error stop => give (stopAnswer stop)
  | .ok invocation =>
    let world ← fetchWorld invocation.command
    let ending := invocation.perform world
    storeChanges world.tree ending.world.tree
    match ending.status with
    | .ok code => give ⟨code, ending.output, ending.errors⟩
    | .error e => give ⟨1, ending.output, ending.errors ++ e.message ++ ['\n']⟩
