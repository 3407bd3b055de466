import GrammarKit.Proofs.Collecting
import GrammarKit.Settings.Reader

/-!
# What a settings file stands for

Without a settings file, or with an empty one, all settings are as usual, and a file with a map
changes them entry by entry. Other values are refused, except for those that count as nothing, such
as an empty list or a zero: they are taken for an empty file.
-/

namespace GrammarKit

/-- The entries of a map. -/
def Value.entries? : Value → Option (List (Value × Value))
  | .map entries => some entries
  | .ordered entries => some entries
  | _ => none

namespace Settings

/-- Says that a settings file has been read. -/
def fileLoaded (path : Path) : LogLine := ⟨.debug, "loaded ".toList ++ path.text⟩

/-- Counts as nothing, but is neither the value of an empty file nor a map. -/
structure TakenForEmpty (v : Value) : Prop where
  void : v.isVoid = true
  ne_null : v ≠ .null
  noMap : v.entries? = none

/-- What is loaded from a file with the value `v` is what the settings file is documented to mean:
the usual settings if the file is empty, the settings and reports of its entries if it is a map, and
else the error that it is no map. -/
structure AsDocumented (path : Path) (v : Value) (loaded : Logged LoadError Settings) : Prop where
  empty : v = .null → loaded.result = .ok {}
  map : ∀ entries, v.entries? = some entries →
    loaded = ((ofEntries entries).mapError .settings).after [fileLoaded path]
  other : v ≠ .null → v.entries? = none → loaded.result = .error (.settings .notMapping)

/-! ### Values of a settings file -/

section

variable (path : Path) {v : Value}

theorem ofValue_eq (v : Value) :
    ofValue path v =
      if v.isVoid then (ofEntries []).after [fileLoaded path]
      else match v.entries? with
        | some entries => (ofEntries entries).after [fileLoaded path]
        | none => .of (.error .notMapping) := by
  unfold ofValue
  cases v <;> rfl

/-- A map without entries counts as nothing, which comes to the same. -/
theorem ofValue_of_entries {entries : List (Value × Value)} (h : v.entries? = some entries) :
    ofValue path v = (ofEntries entries).after [fileLoaded path] := by
  have hvoid : v.isVoid = true → entries = [] := by
    intro hv
    cases v with
    | map found | ordered found => rw [← Option.some.inj h, List.isEmpty_iff.1 hv]
    | _ => cases h
  rw [ofValue_eq, h]
  split
  · next hv => rw [hvoid hv]
  · rfl

theorem result_of_takenForEmpty (h : TakenForEmpty v) :
    ((ofValue path v).mapError LoadError.settings).result = .ok {} := by
  rw [ofValue_eq, if_pos h.void]
  rfl

theorem asDocumented_iff :
    AsDocumented path v ((ofValue path v).mapError .settings) ↔ ¬ TakenForEmpty v := by
  constructor
  · intro hloaded hempty
    have hrefused := hloaded.other hempty.ne_null hempty.noMap
    rw [result_of_takenForEmpty path hempty] at hrefused
    cases hrefused
  · intro hnot
    refine ⟨?_, ?_, ?_⟩
    · rintro rfl
      rfl
    · intro entries hentries
      rw [ofValue_of_entries path hentries]
      rfl
    · intro hnull hmap
      rw [ofValue_eq, if_neg fun hvoid => hnot ⟨hvoid, hnull, hmap⟩, hmap]
      rfl

end

/-! ### Settings files -/

theorem loadIn_of_value {held : Yaml.Version} {t : FileTree} {root : Path} {text : Text} {v : Value}
    (htext : text? t root = .ok (some text)) (hv : (Yaml.read held text).value = .ok v) :
    (loadIn held t root).1 = (ofValue (filePath root) v).mapError .settings := by
  rw [loadIn, htext]
  simp only [hv]
  rfl

/-- Without a settings file the settings are the usual ones. With one they are as documented exactly
if its value is not taken for that of an empty file, in which case they are the usual ones, too. -/
theorem load_documented_iff (held : Yaml.Version) (t : FileTree) (root : Path) :
    (text? t root = .ok none → (loadIn held t root).1 = .of (.ok {})) ∧
    ∀ text v, text? t root = .ok (some text) → (Yaml.read held text).value = .ok v →
      (AsDocumented (filePath root) v (loadIn held t root).1 ↔ ¬ TakenForEmpty v) ∧
      (TakenForEmpty v → (loadIn held t root).1.result = .ok {}) := by
  constructor
  · intro hnone
    rw [loadIn, hnone]
  · intro text v htext hv
    rw [loadIn_of_value htext hv]
    exact ⟨asDocumented_iff _, result_of_takenForEmpty _⟩

/-- A tree with a settings file and nothing else. -/
def fileTree (text : String) : FileTree :=
  FileTree.empty.put [settingsFile] (.file text.toUTF8.toList)

/-- Changes one setting, and has a key that is no setting. -/
def libraryText : String := "\"src_dir\": \"lib\"\n\"colour\": \"blue\"\n"

theorem load_documented_libraryText : ∃ entries,
    text? (fileTree libraryText) (Path.ofText "/".toList) = .ok (some libraryText.toList) ∧
    (Yaml.read .usual libraryText.toList).value = .ok (.map entries) ∧
    AsDocumented (filePath (Path.ofText "/".toList)) (.map entries)
      (loadIn .usual (fileTree libraryText) (Path.ofText "/".toList)).1 := by
  have htext : text? (fileTree libraryText) (Path.ofText "/".toList) =
      .ok (some libraryText.toList) := by
    apply eq_ok_of_toOption
    decide +kernel
  have hmap : (Yaml.read .usual libraryText.toList).value.toOption.any
      (fun v => match v with | .map _ => true | _ => false) = true := by
    decide +kernel
  cases hv : (Yaml.read .usual libraryText.toList).value with
  | error cause =>
    rw [hv] at hmap
    cases hmap
  | ok v =>
    rw [hv] at hmap
    cases v with
    | map entries =>
      have hload := (load_documented_iff .usual (fileTree libraryText) (Path.ofText "/".toList)).2
      exact ⟨entries, htext, rfl, (hload _ _ htext hv).1.2 fun hempty => nomatch hempty.noMap⟩
    | _ => cases hmap

/-- An empty list is taken for an empty file. -/
theorem not_load_documented_emptyList :
    ¬ ∀ (held : Yaml.Version) (t : FileTree) (root : Path) (text : Text) (v : Value),
      text? t root = .ok (some text) → (Yaml.read held text).value = .ok v →
        AsDocumented (filePath root) v (loadIn held t root).1 := by
  intro hall
  have htext : text? (fileTree "[]\n") (Path.ofText "/".toList) = .ok (some "[]\n".toList) := by
    apply eq_ok_of_toOption
    decide +kernel
  have hv : (Yaml.read .usual "[]\n".toList).value = .ok (.list []) := by rfl
  have hdocumented := hall .usual (fileTree "[]\n") (Path.ofText "/".toList) _ _ htext hv
  rw [loadIn_of_value htext hv, asDocumented_iff] at hdocumented
  exact hdocumented ⟨rfl, nofun, rfl⟩

end Settings
end GrammarKit
