import GrammarKit.Proofs.NameShortening
import GrammarKit.Proofs.Sorting
import Mathlib.Data.List.MinMax

/-!
# The longest name at a place

Names may hold any characters, so several of them can fit at one place. They are tried from the
longest to the shortest, and one that does not end at a word boundary is passed over. So the longest
name that fits is taken, and replacing all matches is one scan of the text from left to right.
-/

namespace GrammarKit.AbbreviationTable

open Regex Text

/-- A name stands at a place, between word boundaries. -/
def Fits (front back name : Text) : Prop :=
  isBoundary front back ∧ name <+: back ∧ isBoundary (front ++ name) (back.drop name.length)

instance (front back name : Text) : Decidable (Fits front back name) :=
  inferInstanceAs (Decidable (_ ∧ _ ∧ _))

variable (table : AbbreviationTable)

/-- The longest of the names that fit at a place. -/
def longestAt (front back : Text) : Option Text :=
  (table.codes.keys.filter fun name => Fits front back name).argmax List.length

/-- A text with the longest name replaced wherever one fits. The scan is behind `front`, and the next
characters, as many as the number says, are the rest of a name that has been replaced. -/
def scanned : Text → Nat → Text → Text
  | _, _, [] => []
  | front, rest + 1, c :: back => scanned (front ++ [c]) rest back
  | front, 0, c :: back =>
    match table.longestAt front (c :: back) with
    | some name => table.abbreviate name ++ scanned (front ++ [c]) (name.length - 1) back
    | none => c :: scanned (front ++ [c]) 0 back

/-! ### The name that is taken -/

theorem longestAt_eq_none_iff {front back : Text} :
    table.longestAt front back = none ↔ ∀ name ∈ table.codes.keys, ¬ Fits front back name := by
  rw [longestAt, List.argmax_eq_none, List.filter_eq_nil_iff]
  simp only [decide_eq_true_eq]

theorem longest_of_longestAt {front back name : Text} (h : table.longestAt front back = some name) :
    name ∈ table.codes.keys ∧ Fits front back name ∧
      ∀ other ∈ table.codes.keys, Fits front back other → other.length ≤ name.length := by
  have hmem := List.argmax_mem h
  simp only [List.mem_filter, decide_eq_true_eq] at hmem
  refine ⟨hmem.1, hmem.2, fun other hother hfits => ?_⟩
  apply List.le_of_mem_argmax _ h
  simp only [List.mem_filter, decide_eq_true_eq]
  exact ⟨hother, hfits⟩

theorem pairwise_inTryingOrder (names : List Text) :
    (inTryingOrder names).Pairwise fun s t => t.length ≤ s.length := by
  apply pairwise_sortBy
  · intro s t u hts hut
    exact Nat.le_trans hut hts
  · intro s t hst
    simp only [longerFirst, Bool.or_eq_true, Bool.and_eq_true, decide_eq_true_eq] at hst
    omega
  · intro s t hst
    simp only [longerFirst, Bool.or_eq_false_iff, decide_eq_false_iff_not] at hst
    omega

theorem nameAt_eq_none_iff {front back name : Text} (hstart : isBoundary front back) :
    nameAt front back name = none ↔ ¬ Fits front back name := by
  rw [nameAt, Fits]
  simp [hstart]

/-- Two names of one length that stand at the same place are the same name. -/
theorem Fits.eq_of_length {front back name other : Text} (h : Fits front back name)
    (h' : Fits front back other) (hlength : other.length = name.length) : other = name :=
  (List.prefix_of_prefix_length_le h'.2.1 h.2.1 (Nat.le_of_eq hlength)).eq_of_length hlength

theorem matchAt_longest (hnames : ∀ name ∈ table.codes.keys, name ≠ []) (nonEmpty : Bool)
    (front back : Text) :
    table.namesRegex.pattern.matchAt nonEmpty (.between front back) =
      (table.longestAt front back).map fun name =>
        nameMatch front name (back.drop name.length) := by
  rw [matchAt_names table hnames]
  cases hlongest : table.longestAt front back with
  | none =>
    rw [longestAt_eq_none_iff] at hlongest
    rw [Option.map_none]
    split
    · next hstart =>
      rw [List.findSome?_eq_none_iff]
      intro name hname
      exact (nameAt_eq_none_iff hstart).2 (hlongest name (mem_inTryingOrder.1 hname))
    · rfl
  | some name =>
    obtain ⟨hname, hfits, hmost⟩ := table.longest_of_longestAt hlongest
    rw [if_pos hfits.1, Option.map_some, List.findSome?_eq_some_iff]
    obtain ⟨earlier, later, hsplit, hnot⟩ :=
      List.eq_append_cons_of_mem (mem_inTryingOrder.2 hname)
    refine ⟨earlier, name, later, hsplit, if_pos hfits.2, ?_⟩
    intro other hother
    rw [nameAt_eq_none_iff hfits.1]
    intro hotherFits
    -- what is tried earlier is at least as long, and what fits is not longer
    have hsorted := pairwise_inTryingOrder table.codes.keys
    rw [hsplit, List.pairwise_append] at hsorted
    have hkey : other ∈ table.codes.keys := by
      rw [← mem_inTryingOrder, hsplit]
      exact List.mem_append_left _ hother
    have hlonger := hsorted.2.2 other hother name List.mem_cons_self
    have hshorter := hmost other hkey hotherFits
    apply hnot
    rw [← hfits.eq_of_length hotherFits (Nat.le_antisymm hshorter hlonger)]
    exact hother

/-! ### The scan -/

theorem scanned_rest (front rest back : Text) :
    table.scanned front rest.length (rest ++ back) = table.scanned (front ++ rest) 0 back := by
  induction rest generalizing front with
  | nil => rw [List.length_nil, List.nil_append, List.append_nil]
  | cons c rest ih =>
    rw [List.length_cons, List.cons_append, scanned, ih, List.append_assoc, List.singleton_append]

theorem scanned_name {front name back : Text} (hne : name ≠ [])
    (h : table.longestAt front (name ++ back) = some name) :
    table.scanned front 0 (name ++ back) =
      table.abbreviate name ++ table.scanned (front ++ name) 0 back := by
  cases name with
  | nil => exact absurd rfl hne
  | cons c name =>
    rw [List.cons_append] at h
    rw [List.cons_append, scanned, h]
    have hrest := table.scanned_rest (front ++ [c]) name back
    rw [List.append_assoc, List.singleton_append] at hrest
    simp only [List.length_cons, Nat.add_sub_cancel, hrest]

theorem scanned_kept {front back : Text} {c : Char}
    (h : table.longestAt front (c :: back) = none) :
    table.scanned front 0 (c :: back) = c :: table.scanned (front ++ [c]) 0 back := by
  rw [scanned, h]

theorem shortenedFrom_scanned (hnames : ∀ name ∈ table.codes.keys, name ≠ []) {n : Nat} {back : Text}
    (hn : back.length < n) (nonEmpty : Bool) (front kept : Text) :
    table.shortenedFrom n nonEmpty front kept back =
      .ok (kept ++ table.scanned (front ++ kept) 0 back) := by
  induction hlength : back.length using Nat.strong_induction_on
    generalizing n nonEmpty front kept back with
  | _ length ih =>
    subst hlength
    obtain ⟨n, rfl⟩ : ∃ m, n = m + 1 := ⟨n - 1, by omega⟩
    have hmatch := fun nonEmpty => table.matchAt_longest hnames nonEmpty (front ++ kept) back
    cases hlongest : table.longestAt (front ++ kept) back with
    | some name =>
      obtain ⟨hname, hfits, -⟩ := table.longest_of_longestAt hlongest
      have hne := hnames name hname
      obtain ⟨rest, rfl⟩ := hfits.2.1
      have hpos : 0 < name.length := List.length_pos_iff.2 hne
      rw [hlongest, Option.map_some, List.drop_left] at hmatch
      rw [List.length_append] at hn
      have hbehind : ∀ nonEmpty, table.shortenedFrom n nonEmpty (front ++ kept ++ name) [] rest =
          .ok (table.scanned (front ++ kept ++ name) 0 rest) := by
        intro nonEmpty
        have hrest := ih rest.length (by rw [List.length_append]; omega) (n := n) (by omega)
          nonEmpty (front ++ kept ++ name) [] rfl
        rw [List.nil_append, List.append_nil] at hrest
        exact hrest
      rw [table.scanned_name hne hlongest, ← List.append_assoc]
      exact Pattern.replacedFrom_match (hmatch nonEmpty) rfl rfl (table.code_of_mem hname) hbehind
    | none =>
      rw [hlongest, Option.map_none] at hmatch
      cases back with
      | nil =>
        rw [scanned, List.append_nil]
        exact Pattern.replacedFrom_end (hmatch nonEmpty)
      | cons c back =>
        rw [List.length_cons] at hn
        have hrest := ih back.length (by rw [List.length_cons]; omega) (n := n + 1) (by omega)
          false front (kept ++ [c]) rfl
        have hkept : table.shortenedFrom (n + 1) nonEmpty front kept (c :: back) =
            table.shortenedFrom (n + 1) false front (kept ++ [c]) back :=
          Pattern.replacedFrom_kept (hmatch nonEmpty)
        rw [hkept, hrest, table.scanned_kept hlongest]
        simp

/-- Shortening the names in a text is the scan that takes the longest name wherever one fits. -/
theorem shortenNames_longest (hnames : ∀ name ∈ table.codes.keys, name ≠ []) (t : Text) :
    (Rule.shortenNames table).apply t = .ok (table.scanned [] 0 t) := by
  have hbound : t.length < 2 * t.length + 2 := by omega
  exact table.shortenedFrom_scanned hnames hbound false [] []

/-- Names that begin with one another or with a point, and have brackets in them. -/
def bracketedNames : AbbreviationTable where
  codes := .ofList [("a".toList, "1".toList), ("a.b".toList, "2".toList),
    ("a.b[0]c".toList, "3".toList), (".b".toList, "4".toList)]
  owners := defaultOwners
  properties := ["a".toList]
  nonempty := by decide
  disjoint := by decide
  covered := by decide

theorem shortenNames_longest_bracketedNames :
    (∀ name ∈ bracketedNames.codes.keys, name ≠ []) ∧
      (Rule.shortenNames bracketedNames).apply "a.b[0]c a.b[0]d x.b a.bc ab .b".toList =
        .ok "3 2[0]d x4 1.bc ab .b".toList := by
  have hnames : ∀ name ∈ bracketedNames.codes.keys, name ≠ [] := by decide
  have hall := shortenNames_longest bracketedNames hnames "a.b[0]c a.b[0]d x.b a.bc ab .b".toList
  refine ⟨hnames, hall.trans (congrArg Except.ok ?_)⟩
  decide +kernel

end GrammarKit.AbbreviationTable
