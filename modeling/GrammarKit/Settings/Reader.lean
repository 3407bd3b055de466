import GrammarKit.FileTree.TextFile
import GrammarKit.Settings.Basic
import GrammarKit.Yaml.Document

/-!
# Reading settings

The settings that the settings file below a root describes. Without the file, and where it says
nothing, the usual settings hold. Where settings are read more than once, a file that names no version
of its format is in the one that held before.
-/

namespace GrammarKit

/-- Why no settings can be read. -/
inductive LoadError where
  | settings (cause : SettingsError)
  | file (cause : FileError)
  /-- The settings file is no text. -/
  | undecodable (cause : Encoding.DecodeError)
  /-- A value in the settings file does not exist. -/
  | value (cause : Yaml.Error)
  deriving Repr

def LoadError.message : LoadError → Text
  | .settings cause => cause.message
  | .file cause => cause.message
  | .undecodable cause => cause.message "utf-8".toList
  | .value cause => cause.message

namespace Settings

def filePath (root : Path) : Path := (root.join (Path.ofText settingsFile)).resolve

def ofValue (path : Path) (v : Value) : Logged SettingsError Settings :=
  let loaded : LogLine := ⟨.debug, "loaded ".toList ++ path.text⟩
  if v.isVoid then (ofEntries []).after [loaded]
  else match v with
    | .map entries | .ordered entries => (ofEntries entries).after [loaded]
    | _ => .of (.error .notMapping)

/-- A fault of the format as a reason why no settings can be read. -/
def loadError : Yaml.Error → LoadError
  | .malformed => .settings .invalid
  | cause => .value cause

/-- The text of the settings file below a root, if there is the file. -/
def text? (t : FileTree) (root : Path) : Except LoadError (Option Text) := do
  let path := filePath root
  if ← (t.isFile? path).mapError .file then
    let bytes ← (t.readFile path).mapError .file
    return some (← (Encoding.utf8.readText bytes).mapError .undecodable)
  else return none

/-- The settings below a root, whose file is in the given version of its format unless it says
otherwise, and the version that holds behind it. -/
def loadIn (held : Yaml.Version) (t : FileTree) (root : Path) :
    Logged LoadError Settings × Yaml.Version :=
  match text? t root with
  | .error cause => (.of (.error cause), held)
  | .ok none => (.of (.ok {}), held)
  | .ok (some text) =>
    let reading := Yaml.read held text
    let settings := (Logged.of (reading.value.mapError loadError)).bind fun v =>
      (ofValue (filePath root) v).mapError .settings
    (settings, reading.version)

def load (t : FileTree) (root : Path) : Logged LoadError Settings := (loadIn .usual t root).1

end Settings
end GrammarKit
