import GrammarKit.Proofs.Collecting
import GrammarKit.Proofs.FilesBelow
import GrammarKit.Proofs.Wildcards
import Mathlib.Data.List.Sort

/-!
# Listings through a glob

A glob of one name looks at the first name of a path only, so it takes whatever lies below a
directory with a name that it spells; and it takes a last name with a newline behind what it spells.
The files that are read through it are listed in the order of code points, each with its text.
-/

namespace GrammarKit

open Text

/-! ### Names that a glob takes -/

namespace Glob

/-- The names of a path that a glob of one name takes. -/
def TakesNames (glob : Text) (names : List Text) : Prop :=
  ∃ first others, names = first :: others ∧
    (Spells glob first ∨ (others = [] ∧ ∃ name, first = name ++ ['\n'] ∧ Spells glob name))

theorem slash_of_spells {glob name : Text} (hglob : '/' ∉ glob) (h : Spells glob name) :
    '/' ∉ name := by
  induction h with
  | nil => exact hglob
  | anyRun htaken _ ih =>
    rw [List.mem_append, not_or]
    exact ⟨htaken, ih fun hmem => hglob (List.mem_cons_of_mem _ hmem)⟩
  | anyOne hc _ ih =>
    rw [List.mem_cons, not_or]
    exact ⟨Ne.symm hc, ih fun hmem => hglob (List.mem_cons_of_mem _ hmem)⟩
  | char _ _ _ ih =>
    rw [List.mem_cons, not_or] at hglob ⊢
    exact ⟨hglob.1, ih hglob.2⟩

theorem join_of_slash {first : Text} {others : List Text} (hslash : '/' ∉ join ['/'] (first :: others)) :
    others = [] := by
  cases others with
  | nil => rfl
  | cons other others =>
    rw [join_cons_cons] at hslash
    simp at hslash

theorem eq_of_append_slash {s t u v : Text} (hs : '/' ∉ s) (ht : '/' ∉ t)
    (h : s ++ '/' :: u = t ++ '/' :: v) : s = t := by
  have htake : ∀ {w : Text} (rest : Text), '/' ∉ w →
      (w ++ '/' :: rest).takeWhile (fun c => decide (c ≠ '/')) = w := by
    intro w rest hw
    rw [List.takeWhile_append_of_pos]
    · simp
    · exact fun c hc => decide_eq_true fun he => hw (he ▸ hc)
  rw [← htake u hs, h, htake v ht]

/-- A path is taken for its first name, or for its only one with a newline behind it. -/
theorem takesNames_iff {glob : Text} {names : List Text} (hglob : '/' ∉ glob) (hne : names ≠ [])
    (hall : names.all isName = true) :
    (∃ name rest, join ['/'] names = name ++ rest ∧ Spells glob name ∧ EndsName rest) ↔
      TakesNames glob names := by
  obtain ⟨first, others, rfl⟩ := List.exists_cons_of_ne_nil hne
  rw [List.all_cons, Bool.and_eq_true] at hall
  have hslash : '/' ∉ first := isName_slash hall.1
  constructor
  · rintro ⟨name, rest, hjoin, hspells, hend⟩
    have hname : '/' ∉ name := slash_of_spells hglob hspells
    rcases hend with rfl | rfl | hhead
    · rw [List.append_nil] at hjoin
      obtain rfl := join_of_slash (by rwa [hjoin])
      rw [join_singleton] at hjoin
      exact ⟨first, [], rfl, .inl (hjoin ▸ hspells)⟩
    · obtain rfl := join_of_slash (by rw [hjoin]; simp [hname])
      rw [join_singleton] at hjoin
      exact ⟨first, [], rfl, .inr ⟨rfl, name, hjoin, hspells⟩⟩
    · obtain ⟨rest, rfl⟩ := List.head?_eq_some_iff.1 hhead
      cases others with
      | nil =>
        rw [join_singleton] at hjoin
        exact absurd (by rw [hjoin]; simp) hslash
      | cons other others =>
        rw [join_cons_cons] at hjoin
        have hfirst : first = name := eq_of_append_slash hslash hname hjoin
        exact ⟨first, other :: others, rfl, .inl (hfirst ▸ hspells)⟩
  · rintro ⟨other, later, heq, htakes⟩
    obtain ⟨rfl, rfl⟩ := List.cons.inj heq
    rcases htakes with hspells | ⟨rfl, name, rfl, hspells⟩
    · cases others with
      | nil => exact ⟨first, [], by rw [join_singleton, List.append_nil], hspells, .inl rfl⟩
      | cons other others =>
        exact ⟨first, '/' :: join ['/'] (other :: others), by rw [join_cons_cons]; rfl, hspells,
          .inr (.inr rfl)⟩
    · exact ⟨name, ['\n'], join_singleton _ _, hspells, .inr (.inl rfl)⟩

end Glob

namespace FileTree

/-! ### Lists of the files below a place -/

/-- The files below a place whose names are wanted, in the order of code points of their paths and
with the texts that are read for them. -/
structure Lists (t : FileTree) (encoding : Text) (dir : Path) (place : Place)
    (wanted : List Text → Prop) (bs : List Blob) : Prop where
  sorted : (bs.map (·.name)).Pairwise (· < ·)
  mem_iff : ∀ name, name ∈ bs.map (·.name) ↔ ∃ names, names ≠ [] ∧
    (∃ content, t.node? (place ++ names) = some (.file content)) ∧ join ['/'] names = name ∧
    wanted names
  text : ∀ b ∈ bs, t.readText (dir.join (Path.ofText b.name)) encoding = .ok b.content

section

variable {t : FileTree} {encoding : Text} {dir : Path} {place : Place}
  {wanted other : List Text → Prop} {bs cs : List Blob}

theorem Lists.congr (h : t.Lists encoding dir place wanted bs)
    (hiff : ∀ names content, names ≠ [] → t.node? (place ++ names) = some (.file content) →
      (wanted names ↔ other names)) : t.Lists encoding dir place other bs where
  sorted := h.sorted
  mem_iff name := by
    rw [h.mem_iff]
    constructor
    · rintro ⟨names, hne, ⟨content, hcontent⟩, hjoin, hwanted⟩
      exact ⟨names, hne, ⟨content, hcontent⟩, hjoin, (hiff names content hne hcontent).1 hwanted⟩
    · rintro ⟨names, hne, ⟨content, hcontent⟩, hjoin, hother⟩
      exact ⟨names, hne, ⟨content, hcontent⟩, hjoin, (hiff names content hne hcontent).2 hother⟩
  text := h.text

/-- One list for two kinds of names means that no file tells them apart. -/
theorem Lists.iff_of_same (h : t.Lists encoding dir place wanted bs)
    (h' : t.Lists encoding dir place other bs) {names : List Text} {content : Bytes}
    (hne : names ≠ []) (hcontent : t.node? (place ++ names) = some (.file content)) :
    wanted names ↔ other names := by
  have hall := all_isName_of_append hcontent
  have hmem : ∀ {kind : List Text → Prop}, t.Lists encoding dir place kind bs →
      (join ['/'] names ∈ bs.map (·.name) ↔ kind names) := by
    intro kind hkind
    rw [hkind.mem_iff]
    constructor
    · rintro ⟨others, hne', ⟨content', hcontent'⟩, hjoin, hkept⟩
      rwa [← join_injective_on hne' hne (all_isName_of_append hcontent') hall hjoin]
    · exact fun hkept => ⟨names, hne, ⟨content, hcontent⟩, rfl, hkept⟩
  rw [← hmem h, hmem h']

theorem lists_of_readBlobs {glob : Text} (hglob : Glob.IsPlain glob) (hone : glob ≠ ['*'])
    (htwo : glob ≠ Glob.twoStars) (hplace : t.locate dir = .ok place)
    (h : t.readBlobs dir ['/' :: glob] encoding = .ok bs) :
    t.Lists encoding dir place (Glob.TakesNames glob) bs := by
  obtain ⟨place', globs, hplace', -, hread, -, hall⟩ := readBlobs_eq_ok_iff.1 h
  rw [hplace] at hplace'
  obtain rfl := Except.ok.inj hplace'
  obtain ⟨globs', hread', hchoose⟩ := Glob.choose_readAll_iff hglob hone htwo
  rw [hread] at hread'
  obtain rfl := Except.ok.inj hread'
  have hslash : '/' ∉ glob := fun hmem => (hglob.plain _ hmem).1 rfl
  have hnames := names_of_readBlobs hall
  refine ⟨?_, fun name => ?_, fun b hb => text_of_readBlobs h hb⟩
  · rw [hnames]
    exact (pairwise_fileNames t place).filter _
  · rw [hnames, List.mem_filter, mem_fileNames_iff, hchoose]
    constructor
    · rintro ⟨⟨names, hne, ⟨content, hcontent⟩, rfl⟩, htakes⟩
      exact ⟨names, hne, ⟨content, hcontent⟩, rfl,
        (Glob.takesNames_iff hslash hne (all_isName_of_append hcontent)).1 htakes⟩
    · rintro ⟨names, hne, ⟨content, hcontent⟩, rfl, htakes⟩
      exact ⟨⟨names, hne, ⟨content, hcontent⟩, rfl⟩,
        (Glob.takesNames_iff hslash hne (all_isName_of_append hcontent)).2 htakes⟩

/-- If the files that a glob takes can be read and no path is too long, then all of them are. -/
theorem exists_readBlobs {glob : Text} (hglob : Glob.IsPlain glob) (hone : glob ≠ ['*'])
    (htwo : glob ≠ Glob.twoStars) (hplace : t.locate dir = .ok place)
    (hnode : t.node? place = some .directory) (hshort : ∀ p, ¬ t.TooLongBelow dir place p)
    (hreads : ∀ names content, names ≠ [] → t.node? (place ++ names) = some (.file content) →
      Glob.TakesNames glob names →
      ∃ text, t.readText (dir.join (Path.ofText (join ['/'] names))) encoding = .ok text) :
    ∃ bs, t.readBlobs dir ['/' :: glob] encoding = .ok bs := by
  obtain ⟨globs, hread, hchoose⟩ := Glob.choose_readAll_iff hglob hone htwo
  have hslash : '/' ∉ glob := fun hmem => (hglob.plain _ hmem).1 rfl
  let textOf (name : Text) : Text :=
    (t.readText (dir.join (Path.ofText name)) encoding).toOption.getD []
  let bs := ((t.fileNames place).filter (Glob.choose globs)).map fun name => Blob.mk name (textOf name)
  refine ⟨bs, readBlobs_eq_ok_iff.2 ⟨place, globs, hplace, decide_eq_true hnode, hread,
    walkFault?_eq_none_iff.2 hshort, ?_⟩⟩
  rw [List.forall₂_map_right_iff, List.forall₂_same]
  intro name hname
  obtain ⟨hlisted, htakes⟩ := List.mem_filter.1 hname
  obtain ⟨names, hne, ⟨content, hcontent⟩, rfl⟩ := mem_fileNames_iff.1 hlisted
  have htaken := (Glob.takesNames_iff hslash hne (all_isName_of_append hcontent)).1
    ((hchoose _).1 htakes)
  obtain ⟨text, htext⟩ := hreads names content hne hcontent htaken
  refine readBlob_eq_ok_iff.2 ⟨rfl, ?_⟩
  simp only [textOf, htext]
  rfl

theorem Lists.eq_singleton {name : Text}
    (h : t.Lists encoding dir place (· = [name]) bs)
    (hcontent : ∃ content, t.node? (place ++ [name]) = some (.file content)) :
    ∃ text, t.readText (dir.join (Path.ofText name)) encoding = .ok text ∧ bs = [⟨name, text⟩] := by
  have hnames : bs.map (·.name) = [name] := by
    refine List.Pairwise.eq_of_mem_iff h.sorted (List.pairwise_singleton _ _) fun other => ?_
    rw [h.mem_iff, List.mem_singleton]
    constructor
    · rintro ⟨names, -, -, rfl, rfl⟩
      exact join_singleton _ _
    · rintro rfl
      exact ⟨[other], List.cons_ne_nil _ _, hcontent, join_singleton _ _, rfl⟩
  obtain ⟨b, rfl, rfl⟩ := List.map_eq_singleton_iff.1 hnames
  exact ⟨b.content, h.text b List.mem_cons_self, rfl⟩

end

end FileTree
end GrammarKit
