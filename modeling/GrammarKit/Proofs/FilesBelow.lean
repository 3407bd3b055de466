import GrammarKit.Proofs.CollectedNames
import GrammarKit.Proofs.MapEntries
import GrammarKit.Proofs.Sorting
import GrammarKit.Proofs.TreeChanges
import Mathlib.Data.List.Induction
import Mathlib.Data.List.Sort

/-!
# The files below a place

What is listed below a place are the files that stand there, at any depth and each of them once. As
texts their paths come in the order of code points, and a path leads from a directory to the file
that it was listed for.
-/

namespace GrammarKit.FileTree

open Text

/-! ### Listing -/

theorem eq_of_stripped {place whole names : Place} {node found : Node}
    (h : (match place.isPrefixOf? whole with
      | some (name :: rest) => some (name :: rest, node)
      | _ => none) = some (names, found)) : whole = place ++ names ∧ node = found ∧ names ≠ [] := by
  split at h
  · next name rest hstripped =>
    obtain ⟨rfl, rfl⟩ := Prod.mk.inj (Option.some.inj h)
    exact ⟨(List.isPrefixOf?_eq_some_iff_append_eq.1 hstripped).symm, rfl, List.cons_ne_nil _ _⟩
  · cases h

theorem mem_below_iff {t : FileTree} {place names : Place} {node : Node} :
    (names, node) ∈ t.below place ↔ names ≠ [] ∧ t.node? (place ++ names) = some node := by
  have hnode : names ≠ [] → (t.node? (place ++ names) = some node ↔
      (place ++ names, node) ∈ t.nodes.entries) := by
    intro hne
    have hroot : place ++ names ≠ [] := by simp [hne]
    rw [node?, nodeAt, if_neg hroot, OrderedMap.get?_eq_some_iff]
  constructor
  · intro h
    obtain ⟨⟨whole, n⟩, hmem, he⟩ := List.mem_filterMap.1 h
    obtain ⟨rfl, rfl, hne⟩ := eq_of_stripped he
    exact ⟨hne, (hnode hne).2 hmem⟩
  · rintro ⟨hne, hfound⟩
    obtain ⟨name, rest, rfl⟩ := List.exists_cons_of_ne_nil hne
    have hstripped : place.isPrefixOf? (place ++ name :: rest) = some (name :: rest) :=
      List.isPrefixOf?_eq_some_iff_append_eq.2 rfl
    refine List.mem_filterMap.2 ⟨_, (hnode hne).1 hfound, ?_⟩
    simp only [hstripped]

theorem mem_filesBelow_iff {t : FileTree} {place names : Place} :
    names ∈ t.filesBelow place ↔
      names ≠ [] ∧ ∃ content, t.node? (place ++ names) = some (.file content) := by
  have hfile : names ∈ t.filesBelow place ↔ ∃ content, (names, .file content) ∈ t.below place := by
    rw [filesBelow, List.mem_filterMap]
    constructor
    · rintro ⟨⟨other, node⟩, hmem, he⟩
      cases node with
      | directory => cases he
      | file content =>
        rw [← Option.some.inj he]
        exact ⟨content, hmem⟩
    · rintro ⟨content, hmem⟩
      exact ⟨_, hmem, rfl⟩
  simp only [hfile, mem_below_iff, exists_and_left]

theorem pairwise_below (t : FileTree) (place : Place) :
    (t.below place).Pairwise fun a b => a.1 ≠ b.1 := by
  have hentries : t.nodes.entries.Pairwise fun a b => a.1 ≠ b.1 :=
    List.pairwise_map.1 t.nodes.nodup
  refine hentries.filterMap _ ?_
  rintro ⟨whole, node⟩ ⟨other, node'⟩ hne ⟨names, n⟩ hnames ⟨names', n'⟩ hnames' rfl
  obtain ⟨rfl, -, -⟩ := eq_of_stripped hnames
  obtain ⟨rfl, -, -⟩ := eq_of_stripped hnames'
  exact hne rfl

theorem nodup_filesBelow (t : FileTree) (place : Place) : (t.filesBelow place).Nodup := by
  refine (pairwise_below t place).filterMap _ ?_
  rintro ⟨names, node⟩ ⟨others, node'⟩ hne found hfound found' hfound' rfl
  cases node with
  | directory => cases hfound
  | file content =>
    cases node' with
    | directory => cases hfound'
    | file content' => exact hne ((Option.some.inj hfound).trans (Option.some.inj hfound').symm)

/-! ### What stands directly in a directory -/

theorem onlyName_eq_some_iff {names : Place} {node : Node} {name : Text} :
    (match (names, node) with
      | ([name], _) => some name
      | _ => none) = some name ↔ names = [name] := by
  split
  · next h =>
    rw [(Prod.mk.inj h).1, Option.some.injEq, List.singleton_inj]
  · next h =>
    exact ⟨nofun, fun hnames => (h name node (Prod.ext hnames rfl)).elim⟩

theorem mem_namesIn_iff {t : FileTree} {place : Place} {name : Text} :
    name ∈ t.namesIn place ↔ ∃ node, t.node? (place ++ [name]) = some node := by
  rw [namesIn, List.mem_reverse, List.mem_filterMap]
  constructor
  · rintro ⟨⟨names, node⟩, hmem, he⟩
    rw [onlyName_eq_some_iff.1 he] at hmem
    exact ⟨node, (mem_below_iff.1 hmem).2⟩
  · rintro ⟨node, hnode⟩
    exact ⟨([name], node), mem_below_iff.2 ⟨List.cons_ne_nil _ _, hnode⟩, rfl⟩

theorem nodup_namesIn (t : FileTree) (place : Place) : (t.namesIn place).Nodup := by
  refine List.nodup_reverse.2 ((pairwise_below t place).filterMap _ ?_)
  rintro ⟨names, node⟩ ⟨others, node'⟩ hne name hname name' hname' rfl
  exact hne ((onlyName_eq_some_iff.1 hname).trans (onlyName_eq_some_iff.1 hname').symm)

/-! ### Paths as texts -/

theorem mem_fileNames_iff {t : FileTree} {place : Place} {name : Text} :
    name ∈ t.fileNames place ↔ ∃ names, names ≠ [] ∧
      (∃ content, t.node? (place ++ names) = some (.file content)) ∧ join ['/'] names = name := by
  rw [fileNames, mem_sorted, List.mem_map]
  simp only [mem_filesBelow_iff, and_assoc]

theorem all_isName_of_append {t : FileTree} {place names : Place} {node : Node}
    (h : t.node? (place ++ names) = some node) : names.all isName = true := by
  have hall := all_isName_of_node h
  rw [List.all_append, Bool.and_eq_true] at hall
  exact hall.2

theorem join_injective_on {names others : Place} (hne : names ≠ []) (hne' : others ≠ [])
    (hall : names.all isName = true) (hall' : others.all isName = true)
    (h : join ['/'] names = join ['/'] others) : names = others := by
  rw [← parts_ofText_join hne hall, h, parts_ofText_join hne' hall']

theorem pairwise_fileNames (t : FileTree) (place : Place) :
    (t.fileNames place).Pairwise (· < ·) := by
  apply pairwise_lt_sorted
  refine (nodup_filesBelow t place).map_on ?_
  intro names hnames others hothers hjoin
  obtain ⟨hne, content, hnode⟩ := mem_filesBelow_iff.1 hnames
  obtain ⟨hne', content', hnode'⟩ := mem_filesBelow_iff.1 hothers
  exact join_injective_on hne hne' (all_isName_of_append hnode) (all_isName_of_append hnode') hjoin

/-- Where the same files stand below a place, the same is listed. -/
theorem fileNames_congr {t u : FileTree} {place : Place}
    (h : ∀ names, (∃ content, u.node? (place ++ names) = some (.file content)) ↔
      ∃ content, t.node? (place ++ names) = some (.file content)) :
    u.fileNames place = t.fileNames place := by
  refine List.Pairwise.eq_of_mem_iff (pairwise_fileNames u place) (pairwise_fileNames t place) ?_
  intro name
  simp only [mem_fileNames_iff, h]

/-! ### Following listed paths -/

theorem walk_of_no_dots {t : FileTree} {place last : Place} {names : List Text}
    (hdots : ['.', '.'] ∉ names) (h : t.walk place names = .ok last) : last = place ++ names := by
  induction names generalizing place with
  | nil =>
    rw [List.append_nil]
    exact (Except.ok.inj h).symm
  | cons name names ih =>
    rw [List.mem_cons, not_or] at hdots
    obtain ⟨-, -, hrest⟩ := walk_cons_eq_ok_iff.1 h
    rw [if_neg (Ne.symm hdots.1)] at hrest
    rw [ih hdots.2 hrest, List.append_assoc, List.singleton_append]

theorem walk_names {t : FileTree} {place last : Place} {names : List Text}
    (hall : names.all isName = true) (h : t.walk place names = .ok last) :
    last = place ++ names :=
  walk_of_no_dots (fun hmem => isName_ne_dots (List.all_eq_true.1 hall _ hmem) rfl) h

theorem slashes_ofText_join {names : Place} (hne : names ≠ []) (hall : names.all isName = true) :
    (Path.ofText (join ['/'] names)).slashes = 0 := by
  obtain ⟨name, rest, rfl⟩ := List.exists_cons_of_ne_nil hne
  rw [List.all_cons, Bool.and_eq_true] at hall
  have hslash := isName_slash hall.1
  have hhead : ∃ c text, join ['/'] (name :: rest) = c :: text ∧ c ≠ '/' := by
    cases name with
    | nil => exact absurd hall.1 (by decide)
    | cons c name =>
      refine ⟨c, join ['/'] (name :: rest), join_cons_append _ _ _ _, ?_⟩
      rintro rfl
      exact hslash List.mem_cons_self
  obtain ⟨c, text, he, hc⟩ := hhead
  rw [Path.ofText, he]
  simp [Path.leadingSlashes, hc]

/-- A listed path, seen from its directory. -/
theorem join_ofText_join (dir : Path) {names : Place} (hne : names ≠ [])
    (hall : names.all isName = true) :
    dir.join (Path.ofText (join ['/'] names)) = ⟨dir.slashes, dir.parts ++ names⟩ := by
  have hslashes := slashes_ofText_join hne hall
  rw [Path.join, Path.isAbsolute, hslashes, parts_ofText_join hne hall]
  rfl

theorem walk_of_locate {t : FileTree} {dir : Path} {place last : Place} {names : List Text}
    (hdir : t.locate dir = .ok place) (h : t.locate ⟨dir.slashes, dir.parts ++ names⟩ = .ok last) :
    t.walk place names = .ok last := by
  have hwalk : t.walk (if dir.isAbsolute then [] else t.here) (dir.parts ++ names) = .ok last :=
    follow_of_locate h
  have hstart : t.walk (if dir.isAbsolute then [] else t.here) dir.parts = .ok place :=
    follow_of_locate hdir
  rw [walk_append, hstart] at hwalk
  exact hwalk

theorem place_of_listed {t : FileTree} {dir : Path} {place last : Place} {names : Place}
    (hdir : t.locate dir = .ok place) (hne : names ≠ []) (hall : names.all isName = true)
    (h : t.locate (dir.join (Path.ofText (join ['/'] names))) = .ok last) :
    last = place ++ names := by
  rw [join_ofText_join dir hne hall] at h
  exact walk_names hall (walk_of_locate hdir h)

/-! ### The directory of a path -/

theorem nameSize_append (s t : Text) : nameSize (s ++ t) = nameSize s + nameSize t := by
  induction s with
  | nil => simp [nameSize]
  | cons c s ih =>
    simp only [nameSize, List.cons_append, List.map_cons, List.foldr_cons] at ih ⊢
    omega

theorem nameSize_le_of_sublist {s t : Text} (h : s.Sublist t) : nameSize s ≤ nameSize t := by
  induction h with
  | slnil => exact Nat.le_refl _
  | cons c _ ih | cons_cons c _ ih =>
    simp only [nameSize, List.map_cons, List.foldr_cons] at ih ⊢
    omega

theorem one_le_nameSize {t : Text} (hne : t ≠ []) : 1 ≤ nameSize t := by
  obtain ⟨c, rest, rfl⟩ := List.exists_cons_of_ne_nil hne
  have hpos := c.utf8Size_pos
  simp only [nameSize, List.map_cons, List.foldr_cons]
  omega

theorem text_child (p : Path) (name : Text) :
    (p.child name).text =
      List.replicate p.slashes '/' ++ (p.parts.flatMap (· ++ ['/']) ++ name) := by
  rw [← join_concat]
  unfold Path.text
  split
  · next hparts => exact absurd hparts (by simp [Path.child])
  · rfl

theorem text_child_injective (p : Path) : Function.Injective fun name => (p.child name).text := by
  intro name other h
  simp only [text_child] at h
  exact List.append_cancel_left (List.append_cancel_left h)

theorem nameSize_text_child_le (p : Path) {name : Text} (hne : name ≠ []) :
    nameSize p.text ≤ nameSize (p.child name).text := by
  have hjoin := nameSize_le_of_sublist
    (join_sublist ['/'] (List.sublist_append_left p.parts [name]))
  rw [text_child, ← join_concat, nameSize_append]
  unfold Path.text
  split
  · next hslashes hparts =>
    rw [hparts, List.nil_append]
    have hone := one_le_nameSize hne
    have hdot : nameSize ['.'] = 1 := rfl
    rw [join_singleton]
    omega
  · rw [nameSize_append]
    omega

/-- A path with a further part behind it leads somewhere only from a directory. -/
theorem locate_of_child {t : FileTree} {p : Path} {name : Text} {last : Place} (hne : name ≠ [])
    (h : t.locate (p.child name) = .ok last) :
    ∃ place, t.locate p = .ok place ∧ t.node? place = some .directory := by
  have hwalk : t.walk (if p.isAbsolute then [] else t.here) (p.parts ++ [name]) = .ok last :=
    follow_of_locate h
  have hsize := nameSize_text_child_le p hne
  have hnull : p.hasNull = true → (p.child name).hasNull = true := by
    intro hp
    rw [Path.hasNull, Path.child, List.any_append]
    exact Bool.or_eq_true_iff.2 (.inl hp)
  rw [walk_append] at hwalk
  split at hwalk
  · next place hplace =>
    refine ⟨place, ?_, ?_⟩
    · unfold locate at h ⊢
      split at h
      · cases h
      · next hfree =>
        split at h
        · cases h
        · rw [if_neg (mt hnull hfree), if_neg (by omega)]
          exact hplace
    · exact (walk_cons_eq_ok_iff.1 hwalk).1
  · cases hwalk

/-! ### Files and directories at the end of a path -/

theorem find_eq_ok_iff {t : FileTree} {p : Path} {node : Node} :
    t.find p = .ok node ↔ ∃ place, t.locate p = .ok place ∧ t.node? place = some node := by
  unfold find
  cases t.locate p with
  | error fault => simp
  | ok place => cases hnode : t.node? place <;> simp [hnode]

theorem isFile_eq_true_iff {t : FileTree} {p : Path} :
    t.isFile? p = .ok true ↔
      ∃ place content, t.locate p = .ok place ∧ t.node? place = some (.file content) := by
  have hfind : t.isFile? p = .ok true ↔ ∃ content, t.find p = .ok (.file content) := by
    unfold isFile?
    cases t.find p with
    | error fault =>
      dsimp only
      split <;> simp
    | ok node => cases node <;> simp
  rw [hfind]
  simp only [find_eq_ok_iff]
  exact exists_comm

/-- Looking for a file fails only where the path is too long. -/
theorem isFile_eq_error_iff {t : FileTree} {p : Path} {cause : FileError} :
    t.isFile? p = .error cause ↔ t.locate p = .error .tooLong ∧ cause = ⟨.tooLong, p⟩ := by
  unfold isFile? find
  cases t.locate p with
  | error fault => cases fault <;> simp [FileFault.isAbsence, eq_comm]
  | ok place =>
    cases hnode : t.node? place with
    | none => simp [FileFault.isAbsence, hnode]
    | some node => cases node <;> simp [hnode]

/-- A path at which something stands below a directory is too long to be asked for. -/
def TooLongBelow (t : FileTree) (dir : Path) (place : Place) (p : Path) : Prop :=
  ∃ names node, names ≠ [] ∧ t.node? (place ++ names) = some node ∧ p = dir.join ⟨0, names⟩ ∧
    t.locate p = .error .tooLong

theorem tooLongBelow_of_walkFault? {t : FileTree} {dir : Path} {place : Place} {cause : FileError}
    (h : t.walkFault? dir place = some cause) :
    ∃ p, t.TooLongBelow dir place p ∧ cause = ⟨.tooLong, p⟩ := by
  obtain ⟨⟨names, node⟩, hmem, hasked⟩ := List.exists_of_findSome?_eq_some h
  dsimp only at hasked
  split at hasked
  · next found herror =>
    obtain rfl := Option.some.inj hasked
    obtain ⟨hne, hnode⟩ := mem_below_iff.1 hmem
    obtain ⟨hlong, rfl⟩ := isFile_eq_error_iff.1 herror
    exact ⟨_, ⟨names, node, hne, hnode, rfl, hlong⟩, rfl⟩
  · cases hasked

/-- The walk below a directory comes to its end exactly if no path is too long. -/
theorem walkFault?_eq_none_iff {t : FileTree} {dir : Path} {place : Place} :
    t.walkFault? dir place = none ↔ ∀ p, ¬ t.TooLongBelow dir place p := by
  constructor
  · rintro h _ ⟨names, node, hne, hnode, rfl, hlong⟩
    have hasked := List.findSome?_eq_none_iff.1 h _ (mem_below_iff.2 ⟨hne, hnode⟩)
    rw [isFile_eq_error_iff.2 ⟨hlong, rfl⟩] at hasked
    cases hasked
  · intro h
    cases hwalk : t.walkFault? dir place with
    | none => rfl
    | some cause =>
      obtain ⟨p, hlong, -⟩ := tooLongBelow_of_walkFault? hwalk
      exact absurd hlong (h p)

theorem isDirectory_eq_true_iff {t : FileTree} {p : Path} :
    t.isDirectory p = true ↔ ∃ place, t.locate p = .ok place ∧ t.isDirectoryAt place = true := by
  have hfind : t.isDirectory p = true ↔ t.find p = .ok .directory := by
    unfold isDirectory
    split
    · next h => exact ⟨fun _ => h, fun _ => rfl⟩
    · next h => exact ⟨nofun, fun hfind => absurd hfind h⟩
  simp only [hfind, find_eq_ok_iff, isDirectoryAt, decide_eq_true_eq]

theorem readFile_eq_ok_iff {t : FileTree} {p : Path} {bytes : Bytes} :
    t.readFile p = .ok bytes ↔ t.find p = .ok (.file bytes) := by
  unfold readFile
  cases t.find p with
  | error fault => exact ⟨nofun, nofun⟩
  | ok node => cases node <;> simp

theorem readText_congr {t u : FileTree} {p : Path} (h : u.find p = t.find p) (encoding : Text) :
    u.readText p encoding = t.readText p encoding := by
  simp only [readText, readFile, h]

theorem readText_eq_ok_iff {t : FileTree} {p : Path} {encoding text : Text} :
    t.readText p encoding = .ok text ↔ '\x00' ∉ encoding ∧ ∃ bytes e, t.find p = .ok (.file bytes) ∧
      Encoding.ofName? encoding = some e ∧ e.readText bytes = .ok text := by
  simp only [← readFile_eq_ok_iff]
  unfold readText
  by_cases hnull : '\x00' ∈ encoding
  · simp [hnull]
  · cases t.readFile p with
    | error cause => simp [hnull]
    | ok bytes =>
      cases Encoding.ofName? encoding with
      | none => simp [hnull]
      | some e =>
        cases hread : e.readText bytes with
        | ok found => simp [hnull, hread]
        | error cause => cases cause <;> simp [hnull, hread]

theorem mem_keys_of_node {t : FileTree} {place : Place} {node : Node} (hroot : place ≠ [])
    (h : t.node? place = some node) : place ∈ t.nodes.keys := by
  unfold node? nodeAt at h
  rw [if_neg hroot] at h
  rw [OrderedMap.mem_keys_iff, h]
  rfl

theorem directory_dropLast {t : FileTree} {place : Place} {node : Node}
    (h : t.node? place = some node) : t.node? place.dropLast = some .directory := by
  by_cases hroot : place = []
  · rw [hroot]
    rfl
  · exact t.rooted place (mem_keys_of_node hroot h)

theorem directory_of_walk_dots {t : FileTree} {place last : Place}
    (h : t.walk place [['.', '.']] = .ok last) : t.node? last = some .directory := by
  obtain ⟨hnode, -, hend⟩ := walk_cons_eq_ok_iff.1 h
  rw [if_pos rfl] at hend
  rw [← Except.ok.inj hend]
  exact directory_dropLast hnode

theorem directory_of_below {t : FileTree} {place : Place} {node : Node} {names : List Text}
    (hne : names ≠ []) (h : t.node? (place ++ names) = some node) :
    t.node? place = some .directory := by
  induction names using List.reverseRecOn generalizing node with
  | nil => exact absurd rfl hne
  | append_singleton names name ih =>
    have hparent := directory_dropLast h
    rw [← List.append_assoc, List.dropLast_concat] at hparent
    by_cases hnil : names = []
    · rwa [hnil, List.append_nil] at hparent
    · exact ih hnil hparent

theorem ofText_of_no_slash {text : Text} (h : '/' ∉ text) :
    Path.ofText text = ⟨0, [text].filter Path.isPart⟩ := by
  have hone : splitOn '/' text = [text] :=
    splitWhen_of_forall fun c hc => decide_eq_false fun he => h (he ▸ hc)
  have hslashes : Path.leadingSlashes text = 0 := by
    cases text with
    | nil => rfl
    | cons c text =>
      have hc : c ≠ '/' := fun he => h (he ▸ List.mem_cons_self)
      simp [Path.leadingSlashes, hc]
  rw [Path.ofText, hone, hslashes]

theorem join_ofText_of_no_slash (dir : Path) {text : Text} (h : '/' ∉ text) :
    dir.join (Path.ofText text) = ⟨dir.slashes, dir.parts ++ [text].filter Path.isPart⟩ := by
  rw [ofText_of_no_slash h]
  rfl

/-- A text without a slash that leads from a directory to a file is a name. -/
theorem isName_of_isFile {t : FileTree} {dir : Path} {place : Place} {text : Text}
    (hdir : t.locate dir = .ok place) (hnode : t.node? place = some .directory)
    (hslash : '/' ∉ text) (hfile : t.isFile? (dir.join (Path.ofText text)) = .ok true) :
    isName text = true ∧ dir.join (Path.ofText text) = dir.child text := by
  obtain ⟨last, content, hlast, hcontent⟩ := isFile_eq_true_iff.1 hfile
  have hjoin := join_ofText_of_no_slash dir hslash
  rw [hjoin] at hlast
  have hwalk := walk_of_locate hdir hlast
  by_cases hpart : Path.isPart text = true
  · rw [List.filter_cons_of_pos hpart, List.filter_nil] at hwalk hjoin
    refine ⟨?_, hjoin⟩
    have hdots : text ≠ ['.', '.'] := by
      rintro rfl
      rw [directory_of_walk_dots hwalk] at hcontent
      cases hcontent
    simp only [Path.isPart, Bool.and_eq_true] at hpart
    simp [isName, hpart, hdots, hslash]
  · rw [List.filter_cons_of_neg hpart, List.filter_nil] at hwalk
    have hsame : place = last := Except.ok.inj hwalk
    rw [← hsame, hnode] at hcontent
    cases hcontent

end GrammarKit.FileTree
