import GrammarKit.Data.Value
import GrammarKit.FileTree.Basic
import GrammarKit.Log
import GrammarKit.Selection.Qualifiers

/-!
# Settings

Where the sources of the engine lie and how they are named. A settings file may change each of the
eight settings to another text that is not empty; keys that are no settings are reported and left
out. A key with too many digits is left out without a report, and one that is nested too deeply ends
the reading.
-/

namespace GrammarKit

open Text

inductive Setting where
  | srcDir
  | languagesDir
  | stylesDir
  | descriptorSuffix
  | entryPoint
  | stylesheetSuffix
  /-- The style that is not listed. -/
  | defaultStyle
  | encoding
  deriving DecidableEq, Repr

namespace Setting

/-- All settings, in the order in which they are listed. -/
def all : List Setting :=
  [.srcDir, .languagesDir, .stylesDir, .descriptorSuffix, .entryPoint, .stylesheetSuffix,
    .defaultStyle, .encoding]

def key : Setting → Text
  | .srcDir => "src_dir".toList
  | .languagesDir => "languages_dir".toList
  | .stylesDir => "styles_dir".toList
  | .descriptorSuffix => "descriptor_suffix".toList
  | .entryPoint => "entry_point".toList
  | .stylesheetSuffix => "stylesheet_suffix".toList
  | .defaultStyle => "default_style".toList
  | .encoding => "encoding".toList

def ofKey? (t : Text) : Option Setting := all.find? fun s => s.key = t

end Setting

structure Settings where
  srcDir : Text := "src".toList
  languagesDir : Text := "src/languages".toList
  stylesDir : Text := "src/styles".toList
  descriptorSuffix : Text := ".js".toList
  entryPoint : Text := "highlight.js".toList
  stylesheetSuffix : Text := ".css".toList
  /-- The style that is not listed. -/
  defaultStyle : Text := "default".toList
  encoding : Text := "utf-8".toList
  deriving DecidableEq, Repr

/-- Why there are no settings. -/
inductive SettingsError where
  /-- The settings file is not well formed. -/
  | invalid
  /-- The settings file is no map. -/
  | notMapping
  /-- A setting has a value that is no text, or an empty one. -/
  | badValue (key : Text) (value : Value)
  /-- A value that is to be shown has a number with too many digits. -/
  | unshowable
  /-- A key or a value that is to be shown is nested too deeply. -/
  | tooDeep
  deriving Repr

/-- How many calls may be nested in one another to show what is inside of a key in a report, and inside
of a value in an error. -/
structure Room where
  keys : Nat
  values : Nat

/-- About what is left of a thousand calls. A report takes more of them than an error. -/
def Room.usual : Room := ⟨985, 994⟩

def settingsFile : Text := "lexdesc.yaml".toList

def SettingsError.message : SettingsError → Text
  | .invalid => settingsFile ++ ": invalid YAML".toList
  | .notMapping => settingsFile ++ " must be a mapping".toList
  | .badValue key value =>
    settingsFile ++ ": '".toList ++ key ++ "' must be a non-empty string, got ".toList ++ value.shown
  | .unshowable => Numeral.limitText []
  | .tooDeep => "maximum recursion depth exceeded while getting the repr of an object".toList

namespace Settings

def get (s : Settings) : Setting → Text
  | .srcDir => s.srcDir
  | .languagesDir => s.languagesDir
  | .stylesDir => s.stylesDir
  | .descriptorSuffix => s.descriptorSuffix
  | .entryPoint => s.entryPoint
  | .stylesheetSuffix => s.stylesheetSuffix
  | .defaultStyle => s.defaultStyle
  | .encoding => s.encoding

def set (s : Settings) (setting : Setting) (value : Text) : Settings :=
  match setting with
  | .srcDir => { s with srcDir := value }
  | .languagesDir => { s with languagesDir := value }
  | .stylesDir => { s with stylesDir := value }
  | .descriptorSuffix => { s with descriptorSuffix := value }
  | .entryPoint => { s with entryPoint := value }
  | .stylesheetSuffix => { s with stylesheetSuffix := value }
  | .defaultStyle => { s with defaultStyle := value }
  | .encoding => { s with encoding := value }

theorem get_set (s : Settings) (a b : Setting) (value : Text) :
    (s.set a value).get b = if b = a then value else s.get b := by
  cases a <;> cases b <;> rfl

def settable? : Value → Option Text
  | .text [] => none
  | .text t => some t
  | _ => none

def settingOf? : Value → Option Setting
  | .text t => Setting.ofKey? t
  | _ => none

/-- Says that a key is no setting. -/
def unknownKey (key : Value) : LogLine :=
  ⟨.warning, settingsFile ++ ": unknown key '".toList ++ key.plain ++ "' ignored".toList⟩

/-- The error in which a value is refused, or the one that comes of it that the value cannot be shown. -/
def refusal (room : Room) (setting : Setting) (value : Value) : SettingsError :=
  match value.fault? room.values with
  | none => .badValue setting.key value
  | some .tooLong => .unshowable
  | some .tooDeep => .tooDeep

/-- What comes of a key that is no setting and of the entries behind it, given what comes of those. The
report of a key with too many digits fails, and nothing else; one that is nested too deeply ends it
all. -/
def passOver (room : Room) (key : Value) (later : Logged SettingsError Settings) :
    Logged SettingsError Settings :=
  match key.plainFault? room.keys with
  | none => later.after [unknownKey key]
  | some .tooLong => later
  | some .tooDeep => .of (.error .tooDeep)

/-- The settings changed by entries in their order, and what is reported up to the first entry that
cannot be taken. -/
def change (room : Room) (s : Settings) : List (Value × Value) → Logged SettingsError Settings
  | [] => pure s
  | (key, value) :: rest =>
    match settingOf? key with
    | none => passOver room key (change room s rest)
    | some setting =>
      match settable? value with
      | some t => change room (s.set setting t) rest
      | none => .of (.error (refusal room setting value))

def ofEntriesIn (room : Room) (entries : List (Value × Value)) : Logged SettingsError Settings :=
  change room {} entries

def ofEntries (entries : List (Value × Value)) : Logged SettingsError Settings :=
  ofEntriesIn .usual entries

def naming (s : Settings) : Naming := ⟨s.descriptorSuffix, s.entryPoint⟩

/-- A path given in the settings, seen from the root of the sources. -/
def pathBelow (root : Path) (written : Text) : Except FileError Path :=
  (root.join (Path.ofText written)).resolve?

def srcPath (s : Settings) (root : Path) : Except FileError Path := pathBelow root s.srcDir

def languagesPath (s : Settings) (root : Path) : Except FileError Path :=
  pathBelow root s.languagesDir

def stylesPath (s : Settings) (root : Path) : Except FileError Path := pathBelow root s.stylesDir

end Settings
end GrammarKit
