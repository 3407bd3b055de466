import GrammarKit.FileTree.TextFile
import GrammarKit.Glob.Basic
import GrammarKit.Settings.Basic

/-!
# Collecting grammar files

The files below a directory that globs choose, in the order of their paths, and from these the files
of a build: the engine's entry point, if there is one, and the grammars of the languages. Of all that
stands below the directory it is asked whether it is a file, also of what no glob chooses.
-/

namespace GrammarKit

open Text

inductive CollectError where
  /-- There is no such directory. -/
  | noDirectory (path : Path)
  | path (cause : FileError)
  | glob (cause : GlobError)
  | read (cause : ReadError)
  deriving DecidableEq, Repr

def CollectError.message : CollectError → Text
  | .noDirectory dir => "Directory not found: ".toList ++ dir.text
  | .path cause => cause.message
  | .glob cause => cause.message
  | .read cause => cause.message

namespace FileTree

/-- The paths of all files below a place, as seen from there, sorted. -/
def fileNames (t : FileTree) (place : Place) : List Text :=
  sorted ((t.filesBelow place).map (join ['/']))

/-- What is wrong with the first path below a directory for which it cannot be asked whether it leads to
a file: the path is too long. If there are more of them, it is the one that came first to the tree. -/
def walkFault? (t : FileTree) (dir : Path) (place : Place) : Option FileError :=
  (t.below place).findSome? fun entry =>
    match t.isFile? (dir.join ⟨0, entry.1⟩) with
    | .error cause => some cause
    | .ok _ => none

def readBlob (t : FileTree) (dir : Path) (encoding name : Text) : Except ReadError Blob :=
  (t.readText (dir.join (Path.ofText name)) encoding).map (⟨name, ·⟩)

/-- The files below a directory that globs choose, with their texts. The globs are read before the walk
below the directory, and the whole walk is done before the first text is read. How deep directories may
be nested is left open: there is no bound on the calls that follow them. -/
def readBlobs (t : FileTree) (dir : Path) (globs : List Text) (encoding : Text) :
    Except CollectError (List Blob) :=
  match t.locate dir with
  | .error fault => .error (if fault.isAbsence then .noDirectory dir else .path ⟨fault, dir⟩)
  | .ok place =>
    if t.isDirectoryAt place then
      match Glob.readAll globs with
      | .error cause => .error (.glob cause)
      | .ok read =>
        match t.walkFault? dir place with
        | some cause => .error (.path cause)
        | none =>
          (((t.fileNames place).filter (Glob.choose read)).mapM (t.readBlob dir encoding)).mapError
            .read
    else .error (.noDirectory dir)

def quotedList (ts : List Text) : Text := ['['] ++ join ", ".toList (ts.map quoted) ++ [']']

def readBlobsLogged (t : FileTree) (dir : Path) (globs : List Text) (encoding : Text) :
    Logged CollectError (List Blob) := do
  let blobs ← .of (t.readBlobs dir globs encoding)
  .report .debug ("read ".toList ++ ofNat blobs.length ++ " blob(s) from ".toList ++ dir.text ++
    " (patterns=".toList ++ quotedList globs ++ [')'])
  return blobs

def collect (t : FileTree) (root : Path) (s : Settings) : Logged CollectError (List Blob) := do
  let languagesDir ← .of ((s.languagesPath root).mapError .path)
  let languages ← t.readBlobsLogged languagesDir ["/*".toList ++ s.descriptorSuffix] s.encoding
  let srcDir ← .of ((s.srcPath root).mapError .path)
  if ← .of ((t.isFile? (srcDir.join (Path.ofText s.entryPoint))).mapError .path) then
    let entry ← t.readBlobsLogged srcDir ['/' :: s.entryPoint] s.encoding
    return entry ++ languages
  else return languages

end FileTree
end GrammarKit
