import GrammarKit.Proofs.NamesSuffice
import GrammarKit.Proofs.SourceParts

/-!
# Headers and shortened names

White space and the marks of a comment have no word characters in them, and a word never becomes
empty. So shortening names neither makes nor moves any of them: the header of a shortened text stands
where it stood, and it can be removed before or after.
-/

namespace GrammarKit

open Text

namespace Text

/-- The code points of white space. -/
def blankCodes : List Nat :=
  [9, 10, 11, 12, 13, 28, 29, 30, 31, 32, 0x85, 0xa0, 0x1680, 0x2000, 0x2001, 0x2002, 0x2003, 0x2004,
    0x2005, 0x2006, 0x2007, 0x2008, 0x2009, 0x200a, 0x2028, 0x2029, 0x202f, 0x205f, 0x3000]

theorem isWord_of_blank {c : Char} (h : isBlank c = true) : isWord c = false := by
  have hall : ∀ n ∈ blankCodes, wordRanges.covers n = false := by decide +kernel
  apply hall
  simp only [isBlank, Bool.or_eq_true, Bool.and_eq_true, decide_eq_true_eq, beq_iff_eq] at h
  simp only [blankCodes, List.mem_cons, List.not_mem_nil, or_false]
  omega

end Text

namespace AbbreviationTable

variable {table : AbbreviationTable}

/-- Every code of the table is a word. -/
def CodesAreWords (table : AbbreviationTable) : Prop :=
  ∀ code ∈ table.codes.values, code ≠ [] ∧ ∀ c ∈ code, isWord c = true

instance : Decidable table.CodesAreWords :=
  letI (code : Text) : Decidable (∀ c ∈ code, isWord c = true) := List.decidableBAll _ code
  inferInstanceAs (Decidable (∀ code ∈ table.codes.values, code ≠ [] ∧ ∀ c ∈ code, isWord c = true))

section

variable (hnames : table.NamesAreWords) (hcodes : table.CodesAreWords)

include hcodes in
theorem abbreviate_word {word : Text} (hne : word ≠ []) (hword : ∀ c ∈ word, isWord c = true) :
    table.abbreviate word ≠ [] ∧ ∀ c ∈ table.abbreviate word, isWord c = true := by
  by_cases hname : word ∈ table.codes.keys
  · exact hcodes _ (abbreviate_mem_values hname)
  · rw [table.abbreviate_of_not_mem hname]
    exact ⟨hne, hword⟩

include hnames hcodes

/-! ### Marks that stay -/

/-- A text starts with a mark exactly if the shortened text does. -/
theorem head_namesShortened {c : Char} (hc : isWord c = false) (t : Text) :
    (table.namesShortened t).head? = some c ↔ t.head? = some c := by
  obtain ⟨first, later, hfirst, rfl⟩ := exists_glue t
  rw [glue, namesShortened_append hnames hfirst (head_flatMap_text later)]
  by_cases hne : first = []
  · rw [hne, abbreviate_nil hnames, List.nil_append, List.nil_append]
    cases later with
    | nil => rfl
    | cons s later =>
      rw [List.flatMap_cons, Stretch.text, List.cons_append,
        namesShortened_cons hnames s.isWord_mark]
      rfl
  · -- both start with a word character
    have hother : ∀ (word back : Text), (word ≠ [] ∧ ∀ d ∈ word, isWord d = true) →
        (word ++ back).head? ≠ some c := by
      rintro word back ⟨hword, hall⟩ hhead
      have hany := any_head hword hall back
      rw [hhead, Option.any_some, hc] at hany
      cases hany
    exact iff_of_false (hother _ _ (abbreviate_word hcodes hne hfirst)) (hother _ _ ⟨hne, hfirst⟩)

theorem pair_infix_namesShortened {a b : Char} (ha : isWord a = false) (hb : isWord b = false)
    (t : Text) : [a, b] <:+: table.namesShortened t ↔ [a, b] <:+: t := by
  -- a pair of marks lies behind every word at the start
  have hbehind : ∀ (word back : Text), (∀ c ∈ word, isWord c = true) →
      ([a, b] <:+: word ++ back ↔ [a, b] <:+: back) := by
    intro word back hword
    have hnot : a ∉ word := fun hmem => by simp [hword a hmem] at ha
    rw [pair_infix_append, or_iff_right (fun h => hnot (h.subset (by simp))), or_iff_left]
    exact fun h => hnot (List.mem_of_getLast? h.1)
  have hcodeWord : ∀ word : Text, (∀ c ∈ word, isWord c = true) →
      ∀ c ∈ table.abbreviate word, isWord c = true := by
    intro word hword
    by_cases hne : word = []
    · rw [hne, abbreviate_nil hnames]
      simp
    · exact (abbreviate_word hcodes hne hword).2
  obtain ⟨first, later, hfirst, rfl⟩ := exists_glue t
  induction later generalizing first with
  | nil =>
    rw [glue_nil, namesShortened_word hnames hfirst]
    have hnil := hbehind (table.abbreviate first) [] (hcodeWord first hfirst)
    have hself := hbehind first [] hfirst
    rw [List.append_nil] at hnil hself
    rw [hnil, hself]
  | cons s later ih =>
    have hhead : (s.mark :: glue s.word later).head?.any isWord = false := s.isWord_mark
    have hlater : [a, b] <:+: table.namesShortened (glue s.word later) ↔
        [a, b] <:+: glue s.word later := ih s.word s.isWord_word
    rw [glue_cons, namesShortened_append hnames hfirst hhead,
      namesShortened_cons hnames s.isWord_mark, hbehind _ _ (hcodeWord first hfirst),
      hbehind _ _ hfirst, List.infix_cons_iff, List.infix_cons_iff, hlater,
      pair_prefix_iff, pair_prefix_iff, List.tail_cons, List.tail_cons,
      head_namesShortened hnames hcodes hb]
    rfl

/-! ### The header -/

theorem trimStart_namesShortened (t : Text) :
    trimStart (table.namesShortened t) = table.namesShortened (trimStart t) := by
  induction t with
  | nil => rfl
  | cons c t ih =>
    cases hc : isBlank c with
    | true =>
      rw [namesShortened_cons hnames (isWord_of_blank hc), trimStart_cons_of_blank hc,
        trimStart_cons_of_blank hc, ih]
    | false =>
      rw [trimStart_cons_of_not_blank hc]
      apply trimStart_of_head
      intro d hd
      by_contra hblank
      have hmark : isWord d = false := isWord_of_blank (by simpa using hblank)
      have hd' := (head_namesShortened hnames hcodes hmark _).1 hd
      rw [List.head?_cons, Option.some.injEq] at hd'
      rw [← hd', hc] at hblank
      exact hblank rfl

theorem splitFirst_namesShortened {a b : Char} (hab : a ≠ b) (ha : isWord a = false)
    (hb : isWord b = false) (t : Text) :
    splitFirst [a, b] (table.namesShortened t) =
      (splitFirst [a, b] t).map (Prod.map table.namesShortened table.namesShortened) := by
  have hpair := pair_infix_namesShortened hnames hcodes ha hb
  cases hsplit : splitFirst [a, b] t with
  | none =>
    have hnone := mt (hpair t).1 (not_infix_of_splitFirst_eq_none hsplit)
    cases hshort : splitFirst [a, b] (table.namesShortened t) with
    | none => rfl
    | some parts =>
      refine absurd ⟨parts.1, parts.2, ?_⟩ hnone
      rw [append_of_splitFirst hshort, List.append_assoc]
  | some parts =>
    obtain ⟨front, after⟩ := parts
    have hfront := mt (hpair front).1 (not_infix_of_splitFirst (by simp) hsplit)
    rw [append_of_splitFirst hsplit, List.cons_append, List.cons_append, List.nil_append,
      namesShortened_append_cons hnames ha, namesShortened_cons hnames hb,
      splitFirst_pair hab hfront]
    rfl

theorem leadingComment_namesShortened (t : Text) :
    Header.leadingComment? (table.namesShortened t) =
      (Header.leadingComment? t).map (Prod.map table.namesShortened table.namesShortened) := by
  have hslash : isWord '/' = false := by decide +kernel
  have hstar : isWord '*' = false := by decide +kernel
  unfold Header.leadingComment?
  rw [trimStart_namesShortened hnames hcodes]
  cases hopen : "/*".toList.isPrefixOf? (trimStart t) with
  | none =>
    have hnone : ¬ "/*".toList <+: table.namesShortened (trimStart t) := by
      intro hpre
      have hpair : ['/', '*'] <+: table.namesShortened (trimStart t) := hpre
      apply stripped_eq_none_iff.1 hopen
      obtain ⟨hfirst, hsecond⟩ := pair_prefix_iff.1 hpair
      rw [head_namesShortened hnames hcodes hslash] at hfirst
      obtain ⟨rest, hrest⟩ := List.head?_eq_some_iff.1 hfirst
      rw [hrest, namesShortened_cons hnames hslash, List.tail_cons,
        head_namesShortened hnames hcodes hstar] at hsecond
      rw [hrest]
      show ['/', '*'] <+: '/' :: rest
      exact pair_prefix_iff.2 ⟨rfl, hsecond⟩
    rw [stripped_eq_none_iff.2 hnone]
    rfl
  | some inside =>
    have hshort : table.namesShortened (trimStart t) =
        "/*".toList ++ table.namesShortened inside := by
      rw [append_of_stripped hopen]
      exact (namesShortened_cons hnames hslash _).trans
        (congrArg _ (namesShortened_cons hnames hstar inside))
    rw [hshort, List.isPrefixOf?_eq_some_iff_append_eq.2 rfl]
    exact splitFirst_namesShortened hnames hcodes (by decide) hstar hslash inside

theorem strip_namesShortened (t : Text) :
    Header.strip (table.namesShortened t) = table.namesShortened (Header.strip t) := by
  rw [Header.strip, Header.strip, leadingComment_namesShortened hnames hcodes]
  cases Header.leadingComment? t with
  | none => exact trimStart_namesShortened hnames hcodes t
  | some parts => exact trimStart_namesShortened hnames hcodes parts.2

end

/-- A text can be shortened before or after its header is removed, and it has a header exactly if the
shortened text has one. A build, which removes the header first, gives the same text. -/
theorem strip_shortening_comm (hnames : table.NamesAreWords) (hcodes : table.CodesAreWords)
    (hproperties : table.properties ≠ []) (t : Text) :
    ∃ u, Rule.applyAll (Rule.shortening table) t = .ok u ∧
      Rule.applyAll (Rule.shortening table) (Header.strip t) = .ok (Header.strip u) ∧
      transform true true table t = .ok (Header.strip u) ∧
      ((Header.read? u).isSome = true ↔ (Header.read? t).isSome = true) := by
  have hwords : ∀ code ∈ table.codes.values, ∀ c ∈ code, isWord c = true :=
    fun code hcode => (hcodes code hcode).2
  have hstripped : Rule.applyAll (Rule.shortening table) (Header.strip t) =
      .ok (Header.strip (table.namesShortened t)) := by
    rw [apply_shortening hnames hwords hproperties, strip_namesShortened hnames hcodes]
  refine ⟨table.namesShortened t, apply_shortening hnames hwords hproperties t, hstripped, ?_, ?_⟩
  · rw [transform_eq, if_pos rfl, if_pos rfl, hstripped]
  · rw [Header.read?, Header.read?, leadingComment_namesShortened hnames hcodes, Option.isSome_map,
      Option.isSome_map, Option.isSome_map]

/-- A table with a mark among its owners that closes a comment. -/
def closingTable : AbbreviationTable where
  codes := .ofList [("begin".toList, "b".toList), ("end".toList, "finish".toList)]
  owners := ["block".toList, "*/".toList]
  properties := ["begin".toList]
  nonempty := by decide
  disjoint := by decide
  covered := by decide

theorem strip_shortening_closingTable :
    closingTable.NamesAreWords ∧ closingTable.CodesAreWords ∧ closingTable.properties ≠ [] ∧
      ∃ u, Rule.applyAll (Rule.shortening closingTable) "\n/*end*/.begin /*end*/".toList = .ok u ∧
        Rule.applyAll (Rule.shortening closingTable)
          (Header.strip "\n/*end*/.begin /*end*/".toList) = .ok (Header.strip u) ∧
        transform true true closingTable "\n/*end*/.begin /*end*/".toList = .ok (Header.strip u) ∧
        ((Header.read? u).isSome = true ↔
          (Header.read? "\n/*end*/.begin /*end*/".toList).isSome = true) := by
  have hnames : closingTable.NamesAreWords := by decide +kernel
  have hcodes : closingTable.CodesAreWords := by decide +kernel
  have hproperties : closingTable.properties ≠ [] := by decide
  exact ⟨hnames, hcodes, hproperties, strip_shortening_comm hnames hcodes hproperties _⟩

end AbbreviationTable
end GrammarKit
