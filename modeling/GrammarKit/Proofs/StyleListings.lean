import GrammarKit.Proofs.WantedFiles
import GrammarKit.Style.Listing
import Mathlib.Data.Prod.Lex

/-!
# Listings of style sheets

A directory has one entry for each of its names that is a style sheet's. Sorted entries do not come
in the order in which the directory has the names: two styles can be shown under one name, but their
paths are never the same.
-/

namespace GrammarKit

open Text

namespace FileTree

theorem mem_entries_iff_node {t : FileTree} {place : Place} {node : Node} :
    (place, node) ∈ t.nodes.entries ↔ place ≠ [] ∧ t.node? place = some node := by
  have hroot : (place, node) ∈ t.nodes.entries → place ≠ [] := fun hmem =>
    (t.named place (List.mem_map_of_mem hmem)).1
  rw [← OrderedMap.get?_eq_some_iff] at hroot ⊢
  unfold node? nodeAt
  split
  · next hnil => exact ⟨fun h => absurd hnil (hroot h), fun h => absurd hnil h.1⟩
  · next hne => exact (and_iff_right hne).symm

/-- Trees in which the same stands at every place have the same nodes in another order. -/
theorem sameNodes_iff_perm {t u : FileTree} :
    SameNodes t u ↔ u.here = t.here ∧ u.nodes.entries.Perm t.nodes.entries := by
  rw [List.perm_ext_iff_of_nodup u.nodes.nodup.of_map t.nodes.nodup.of_map]
  simp only [Prod.forall, mem_entries_iff_node]
  constructor
  · rintro ⟨hhere, hnode⟩
    exact ⟨hhere, fun place node => by rw [hnode]⟩
  · rintro ⟨hhere, hmem⟩
    refine ⟨hhere, fun place => ?_⟩
    by_cases hne : place = []
    · rw [hne, node?_root, node?_root]
    · refine Option.ext fun node => ?_
      simpa only [ne_eq, hne, not_false_eq_true, true_and] using hmem place node

theorem SameNodes.perm_namesIn {t u : FileTree} (h : SameNodes t u) (place : Place) :
    (u.namesIn place).Perm (t.namesIn place) := by
  rw [List.perm_ext_iff_of_nodup (nodup_namesIn u place) (nodup_namesIn t place)]
  intro name
  simp only [mem_namesIn_iff, h.node]

theorem join_ofText_name (dir : Path) {name : Text} (h : isName name = true) :
    dir.join (Path.ofText name) = dir.child name := by
  have hjoin := join_ofText_join dir (List.cons_ne_nil name []) (by rw [List.all_cons, h]; rfl)
  rwa [join_singleton] at hjoin

end FileTree

namespace Style

/-! ### Base names -/

theorem baseName?_eq_some_iff {suffix default name base : Text} (hsuffix : suffix ≠ []) :
    baseName? suffix default name = some base ↔
      name = base ++ suffix ∧ base ≠ [] ∧ base ≠ default := by
  rw [← dropEnd?_eq_some_iff, baseName?, if_neg hsuffix]
  cases dropEnd? suffix name with
  | none => exact ⟨nofun, fun h => nomatch h.1⟩
  | some front =>
    dsimp only
    rw [Option.ite_none_left_eq_some, Option.some.injEq, not_or]
    constructor
    · rintro ⟨hkept, rfl⟩
      exact ⟨rfl, hkept⟩
    · rintro ⟨rfl, hkept⟩
      exact ⟨hkept, rfl⟩

/-- The base names of all style sheets among names, in the order of the names. -/
def baseNames (o : Options) (names : List Text) : List Text :=
  names.filterMap (baseName? o.suffix o.default)

section

variable {o : Options} (hsuffix : o.suffix ≠ [])
include hsuffix

theorem mem_baseNames_iff {names : List Text} {base : Text} :
    base ∈ baseNames o names ↔ base ++ o.suffix ∈ names ∧ base ≠ [] ∧ base ≠ o.default := by
  rw [baseNames, List.mem_filterMap]
  simp only [baseName?_eq_some_iff hsuffix]
  constructor
  · rintro ⟨name, hname, rfl, hkept⟩
    exact ⟨hname, hkept⟩
  · rintro ⟨hname, hkept⟩
    exact ⟨_, hname, rfl, hkept⟩

theorem nodup_baseNames {names : List Text} (h : names.Nodup) : (baseNames o names).Nodup := by
  refine h.filterMap ?_
  intro name other base hname hother
  rw [((baseName?_eq_some_iff hsuffix).1 hname).1, ((baseName?_eq_some_iff hsuffix).1 hother).1]

end

/-! ### Entries -/

/-- The entry of the style sheet with the given base name. -/
def entryOf (o : Options) (base : Text) : Entry :=
  ⟨((Path.ofText o.directory).child (base ++ o.suffix)).text, startCase base⟩

/-- Entries are sorted by their names in lower case, then by their paths. -/
def sortKey (e : Entry) : Text ×ₗ Text := toLex (toLower e.name, e.path)

theorem comesBefore_iff (a b : Entry) : comesBefore a b = true ↔ sortKey a < sortKey b := by
  rw [comesBefore, sortKey, sortKey, Prod.Lex.toLex_lt_toLex, Bool.or_eq_true, Bool.and_eq_true,
    decide_eq_true_eq, before_iff, before_iff]

/-- Styles that are shown under one name still have different paths. -/
theorem sortKey_entryOf_injective (o : Options) :
    Function.Injective fun base => sortKey (entryOf o base) := by
  intro base other h
  have hpath : (entryOf o base).path = (entryOf o other).path :=
    congrArg (fun key => (ofLex key).2) h
  exact List.append_cancel_right (FileTree.text_child_injective _ hpath)

section

variable {o : Options} (hsuffix : o.suffix ≠ [])
include hsuffix

theorem filterMap_listed {names : List Text} (hnames : ∀ name ∈ names, isName name = true) :
    names.filterMap (listed? o) = (baseNames o names).map (entryOf o) := by
  rw [baseNames, List.map_filterMap]
  refine List.filterMap_congr fun name hname => ?_
  unfold listed?
  cases hbase : baseName? o.suffix o.default name with
  | none => rfl
  | some base =>
    obtain ⟨rfl, -⟩ := (baseName?_eq_some_iff hsuffix).1 hbase
    rw [Option.map_some, FileTree.join_ofText_name _ (hnames _ hname)]
    rfl

theorem nodup_sortKeys {names : List Text} (hnames : ∀ name ∈ names, isName name = true)
    (h : names.Nodup) : ((names.filterMap (listed? o)).map sortKey).Nodup := by
  rw [filterMap_listed hsuffix hnames, List.map_map]
  exact (nodup_baseNames hsuffix h).map (sortKey_entryOf_injective o)

theorem entries_perm {names : List Text} (hnames : ∀ name ∈ names, isName name = true) :
    (entries o names).Perm ((baseNames o names).map (entryOf o)) := by
  rw [← filterMap_listed hsuffix hnames, entries]
  split
  · exact sortBy_perm _ _
  · exact List.Perm.refl _

theorem pairwise_entries (hsorted : o.sorted = true) {names : List Text}
    (hnames : ∀ name ∈ names, isName name = true) (h : names.Nodup) :
    (entries o names).Pairwise fun a b => sortKey a < sortKey b := by
  rw [entries, if_pos hsorted]
  exact pairwise_lt_sortBy comesBefore_iff (nodup_sortKeys hsuffix hnames h)

theorem entries_eq_of_perm (hsorted : o.sorted = true) {names others : List Text}
    (hnames : ∀ name ∈ names, isName name = true) (h : names.Nodup) (hperm : names.Perm others) :
    entries o names = entries o others := by
  rw [entries, entries, if_pos hsorted, if_pos hsorted]
  exact sortBy_eq_of_perm comesBefore_iff (nodup_sortKeys hsuffix hnames h) (hperm.filterMap _)

end

/-! ### Listing a directory -/

section

variable {t : FileTree} {dir : Path} {place : Place} {o : Options}

theorem isName_of_mem_namesIn {name : Text} (h : name ∈ t.namesIn place) : isName name = true := by
  obtain ⟨node, hnode⟩ := FileTree.mem_namesIn_iff.1 h
  have hall := FileTree.all_isName_of_append hnode
  rwa [List.all_cons, List.all_nil, Bool.and_true] at hall

theorem list_of_directory (hplace : t.locate dir = .ok place)
    (hnode : t.node? place = some .directory) :
    list t dir o = ⟨[⟨.debug, "found ".toList ++ ofNat (entries o (t.namesIn place)).length ++
      " style(s) in ".toList ++ dir.text⟩], .ok (entries o (t.namesIn place))⟩ := by
  simp only [list, hplace, hnode]

/-- A listing has exactly one entry for each style sheet of the directory and none for any other
name. Sorted, the entries come strictly one after the other, and the order in which the tree has its
nodes makes no difference. -/
theorem list_complete (hplace : t.locate dir = .ok place)
    (hnode : t.node? place = some .directory) (hsuffix : o.suffix ≠ []) :
    ∃ (found : List Entry) (bases : List Text), (list t dir o).result = .ok found ∧ bases.Nodup ∧
      (∀ base, base ∈ bases ↔ base ≠ [] ∧ base ≠ o.default ∧
        ∃ node, t.node? (place ++ [base ++ o.suffix]) = some node) ∧
      found.Perm (bases.map (entryOf o)) ∧
      (o.sorted = true → (found.Pairwise fun a b => sortKey a < sortKey b) ∧
        ∀ u, FileTree.SameNodes t u → list u dir o = list t dir o) := by
  have hnames : ∀ name ∈ t.namesIn place, isName name = true := fun _ => isName_of_mem_namesIn
  have hnodup := FileTree.nodup_namesIn t place
  refine ⟨entries o (t.namesIn place), baseNames o (t.namesIn place), ?_,
    nodup_baseNames hsuffix hnodup, ?_, entries_perm hsuffix hnames, fun hsorted =>
      ⟨pairwise_entries hsuffix hsorted hnames hnodup, ?_⟩⟩
  · rw [list_of_directory hplace hnode]
  · intro base
    rw [mem_baseNames_iff hsuffix, FileTree.mem_namesIn_iff, and_comm, and_assoc]
  · intro u hsame
    have hentries : entries o (t.namesIn place) = entries o (u.namesIn place) :=
      entries_eq_of_perm hsuffix hsorted hnames hnodup (hsame.perm_namesIn place).symm
    rw [list_of_directory hplace hnode, hentries]
    exact list_of_directory ((hsame.locate dir).trans hplace) ((hsame.node place).trans hnode)

end

/-- A directory with three styles that are shown under one name, and with names that are not those
of listed styles: the default style, a suffix alone, a suffix inside of a name. -/
def crowdedNames : List String :=
  ["notes.css.txt", "mono_dark.css", "default.css", ".css", "mono-dark.css", "ab.css.css",
    "monoDark.css"]

def crowdedTree (names : List String) : FileTree :=
  names.foldl (fun t name => t.put ["s".toList, name.toList] (.file []))
    (FileTree.empty.put ["s".toList] .directory)

theorem list_complete_crowdedTree :
    (list (crowdedTree crowdedNames) (Path.ofText "/s".toList) { sorted := true }).result = .ok
      [⟨"styles/ab.css.css".toList, "Ab Css".toList⟩,
        ⟨"styles/mono-dark.css".toList, "Mono Dark".toList⟩,
        ⟨"styles/monoDark.css".toList, "Mono Dark".toList⟩,
        ⟨"styles/mono_dark.css".toList, "Mono Dark".toList⟩] ∧
    list (crowdedTree crowdedNames.reverse) (Path.ofText "/s".toList) { sorted := true } =
      list (crowdedTree crowdedNames) (Path.ofText "/s".toList) { sorted := true } := by
  have hplace : (crowdedTree crowdedNames).locate (Path.ofText "/s".toList) = .ok ["s".toList] := by
    decide +kernel
  have hnode : (crowdedTree crowdedNames).node? ["s".toList] = some .directory := by decide +kernel
  obtain ⟨found, bases, -, -, -, -, hsorted⟩ :=
    list_complete (o := { sorted := true }) hplace hnode (by decide)
  refine ⟨by decide +kernel, (hsorted rfl).2 _ ?_⟩
  exact FileTree.sameNodes_iff_perm.2 ⟨by decide +kernel, by decide +kernel⟩

end Style
end GrammarKit
