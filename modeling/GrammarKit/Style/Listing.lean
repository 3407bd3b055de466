import GrammarKit.FileTree.Basic
import GrammarKit.Log
import GrammarKit.Style.StartCase

/-!
# Listing style sheets

The style sheets of a directory: all names with the suffix of style sheets, without the style that
every page has anyway. A style is shown under its base name in start case.
-/

namespace GrammarKit

open Text

namespace Style

structure Entry where
  path : Text
  name : Text
  deriving DecidableEq, Repr

structure Options where
  suffix : Text := ".css".toList
  default : Text := "default".toList
  directory : Text := "styles".toList
  sorted : Bool := false
  deriving DecidableEq, Repr

def baseName? (suffix default name : Text) : Option Text :=
  if suffix = [] then none
  else match dropEnd? suffix name with
    | some base => if base = [] ∨ base = default then none else some base
    | none => none

/-- The entry of a name, if it is one of a style sheet that is listed. -/
def listed? (o : Options) (name : Text) : Option Entry :=
  (baseName? o.suffix o.default name).map fun base =>
    ⟨((Path.ofText o.directory).join (Path.ofText name)).text, startCase base⟩

/-- Entries come in the order of their names in lower case, then of their paths. -/
def comesBefore (a b : Entry) : Bool :=
  before (toLower a.name) (toLower b.name) ||
    (toLower a.name = toLower b.name && before a.path b.path)

def entries (o : Options) (names : List Text) : List Entry :=
  let found := names.filterMap (listed? o)
  if o.sorted then sortBy comesBefore found else found

def list (t : FileTree) (dir : Path) (o : Options) : Logged FileError (List Entry) :=
  match t.locate dir with
  | .error fault => .of (.error ⟨fault, dir⟩)
  | .ok place =>
    match t.node? place with
    | none => .of (.error ⟨.missing, dir⟩)
    | some (.file _) => .of (.error ⟨.notDirectory, dir⟩)
    | some .directory =>
      let found := entries o (t.namesIn place)
      ⟨[⟨.debug, "found ".toList ++ ofNat found.length ++ " style(s) in ".toList ++ dir.text⟩],
        .ok found⟩

end Style
end GrammarKit
