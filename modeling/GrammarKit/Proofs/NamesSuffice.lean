import GrammarKit.Proofs.BodyShortening

/-!
# Properties are names

Whatever the owners of a table are, the rule for accesses puts the code of a property in the place of
a whole word. The rule for names would put the same code there, and it leaves a code alone. So after
both rules a text is what the rule for names alone makes of it.
-/

namespace GrammarKit.AbbreviationTable

open Regex Text

variable {table : AbbreviationTable}

/-! ### Texts with the same shortened names -/

theorem namesShortened_nil : table.namesShortened [] = [] := rfl

theorem namesShortened_cons (hnames : table.NamesAreWords) {c : Char} (hc : isWord c = false)
    (t : Text) : table.namesShortened (c :: t) = c :: table.namesShortened t := by
  have hcons := namesShortened_append_cons hnames hc [] t
  rw [namesShortened_nil] at hcons
  exact hcons

theorem namesShortened_append (hnames : table.NamesAreWords) {word t : Text}
    (hword : ∀ c ∈ word, isWord c = true) (ht : t.head?.any isWord = false) :
    table.namesShortened (word ++ t) = table.abbreviate word ++ table.namesShortened t :=
  flatMap_shortenedRun_word hnames hword ht

theorem abbreviate_abbreviate (name : Text) :
    table.abbreviate (table.abbreviate name) = table.abbreviate name := by
  by_cases hname : name ∈ table.codes.keys
  · exact table.abbreviate_of_not_mem (table.disjoint _ (abbreviate_mem_values hname))
  · rw [table.abbreviate_of_not_mem hname, table.abbreviate_of_not_mem hname]

/-- Behind every text the two texts come to the same once names are shortened, and they start
alike. -/
structure SameNames (table : AbbreviationTable) (t u : Text) : Prop where
  shortened_eq : ∀ front, table.namesShortened (front ++ t) = table.namesShortened (front ++ u)
  head_eq : t.head? = u.head?

theorem SameNames.append {t u : Text} (h : table.SameNames t u) (front : Text) :
    table.SameNames (front ++ t) (front ++ u) := by
  refine ⟨fun first => ?_, ?_⟩
  · rw [← List.append_assoc, ← List.append_assoc]
    exact h.shortened_eq (first ++ front)
  · rw [List.head?_append, List.head?_append, h.head_eq]

variable (hnames : table.NamesAreWords)
  (hcodes : ∀ code ∈ table.codes.values, ∀ c ∈ code, isWord c = true)
include hnames hcodes

/-- Behind a mark, a name may be replaced by its code if a mark or nothing follows. -/
theorem SameNames.behind_point {name t u : Text} (hname : name ∈ table.codes.keys)
    (ht : t.head?.any isWord = false) (h : table.SameNames t u) :
    table.SameNames ('.' :: (name ++ t)) ('.' :: (table.abbreviate name ++ u)) := by
  refine ⟨fun front => ?_, rfl⟩
  have hu : u.head?.any isWord = false := by rw [← h.head_eq, ht]
  have hcode := hcodes _ (abbreviate_mem_values hname)
  have hrest : table.namesShortened t = table.namesShortened u := h.shortened_eq []
  rw [namesShortened_append_cons hnames isWord_point,
    namesShortened_append_cons hnames isWord_point,
    namesShortened_append hnames (hnames name hname).2 ht,
    namesShortened_append hnames hcode hu, abbreviate_abbreviate, hrest]

/-! ### Both rules -/

/-- The rule for accesses gives a text whose shortened names are those of the text before. -/
theorem exists_shortenAccess (hproperties : table.properties ≠ []) (t : Text) :
    ∃ u, (Rule.shortenAccess table).apply t = .ok u ∧
      table.namesShortened u = table.namesShortened t := by
  have hcarried : table.accessRegex.pattern.Carried
      (fun m => do return m.taken 1 ++ ['.'] ++ (← table.code (m.taken 2))) table.SameNames := by
    refine ⟨⟨fun _ => rfl, rfl⟩, fun c _ _ h => h.append [c], ?_⟩
    intro nonEmpty front back m hm
    obtain ⟨owner, property, rest, -, hproperty, -, hrest, rfl, rfl⟩ :=
      exists_property_of_matchAt hnames.properties hproperties hm
    have hname := table.covered property hproperty
    refine ⟨owner ++ '.' :: property, rest, owner ++ '.' :: table.abbreviate property, by simp,
      rfl, by simp [accessMatch], ?_, ?_⟩
    · have howner : (accessMatch front owner property rest).taken 1 = owner := rfl
      have htaken : (accessMatch front owner property rest).taken 2 = property := rfl
      have hput : owner ++ '.' :: table.abbreviate property =
          owner ++ ['.'] ++ table.abbreviate property := List.append_cons _ _ _
      rw [howner, htaken, table.code_of_mem hname, hput]
      rfl
    · intro new hnew
      have hpointed := (hnew.behind_point hnames hcodes hname hrest).append owner
      simpa only [List.append_assoc, List.cons_append] using hpointed
  obtain ⟨u, hu, hsame⟩ := Pattern.exists_replaceAll hcarried t
  exact ⟨u, hu, (hsame.shortened_eq []).symm⟩

/-- Both rules together come to the rule for names. -/
theorem apply_shortening (hproperties : table.properties ≠ []) (t : Text) :
    Rule.applyAll (Rule.shortening table) t = .ok (table.namesShortened t) := by
  obtain ⟨u, hu, hsame⟩ := exists_shortenAccess hnames hcodes hproperties t
  simp only [Rule.shortening, Rule.applyAll, hu, apply_shortenNames_eq hnames, hsame]

/-- The rule for accesses does nothing that the rule for names would not do, so it can come before
that rule, behind it or not at all. -/
theorem shortenNames_absorbs_access (hproperties : table.properties ≠ []) (t : Text) :
    ∃ accessed short, (Rule.shortenAccess table).apply t = .ok accessed ∧
      (Rule.shortenNames table).apply t = .ok short ∧
      (Rule.shortenNames table).apply accessed = .ok short ∧
      (Rule.shortenAccess table).apply short = .ok short ∧
      Rule.applyAll (Rule.shortening table) t = .ok short := by
  obtain ⟨accessed, haccess, hsame⟩ := exists_shortenAccess hnames hcodes hproperties t
  obtain ⟨short, hshort, hspares⟩ :=
    exists_shortenNames hnames (codesHoldNoNames_of_words hcodes) t
  have hall : short = table.namesShortened t := by
    rw [apply_shortenNames_eq hnames, Except.ok.injEq] at hshort
    exact hshort.symm
  refine ⟨accessed, short, haccess, hshort, ?_, ?_, ?_⟩
  · rw [apply_shortenNames_eq hnames, hsame, hall]
  · exact shortenAccess_of_no_names hnames hproperties hspares
  · rw [apply_shortening hnames hcodes hproperties, hall]

omit hnames hcodes

/-- A name with an empty code, and owners that are a name, end in one or are empty. -/
def oddOwners : AbbreviationTable where
  codes := .ofList [("className".toList, "cN".toList), ("block".toList, []),
    ("begin".toList, "b".toList)]
  owners := ["block".toList, "x.begin".toList, []]
  properties := ["className".toList, "block".toList]
  nonempty := by decide
  disjoint := by decide
  covered := by decide

theorem shortenNames_absorbs_access_oddOwners :
    oddOwners.NamesAreWords ∧
      (∀ code ∈ oddOwners.codes.values, ∀ c ∈ code, isWord c = true) ∧
      oddOwners.properties ≠ [] ∧
      ∃ accessed short, accessed = "block.cN..cN x.begin.cN a.cN".toList ∧
        short = ".cN..cN x.b.cN a.cN".toList ∧
        (Rule.shortenAccess oddOwners).apply
            "block.className.block.className x.begin.className a.className".toList =
          .ok accessed ∧
        (Rule.shortenNames oddOwners).apply
            "block.className.block.className x.begin.className a.className".toList = .ok short ∧
        (Rule.shortenNames oddOwners).apply accessed = .ok short ∧
        (Rule.shortenAccess oddOwners).apply short = .ok short ∧
        Rule.applyAll (Rule.shortening oddOwners)
            "block.className.block.className x.begin.className a.className".toList = .ok short := by
  have hnames : oddOwners.NamesAreWords := by decide +kernel
  have hall : ∀ code ∈ oddOwners.codes.values, code.all isWord = true := by decide +kernel
  have hcodes : ∀ code ∈ oddOwners.codes.values, ∀ c ∈ code, isWord c = true :=
    fun code hcode => List.all_eq_true.1 (hall code hcode)
  obtain ⟨accessed, short, haccess, hshort, hrest⟩ :=
    shortenNames_absorbs_access hnames hcodes (by decide)
      "block.className.block.className x.begin.className a.className".toList
  have haccessed : (Rule.shortenAccess oddOwners).apply
      "block.className.block.className x.begin.className a.className".toList =
        .ok "block.cN..cN x.begin.cN a.cN".toList := by decide +kernel
  have hcodesOnly : (Rule.shortenNames oddOwners).apply
      "block.className.block.className x.begin.className a.className".toList =
        .ok ".cN..cN x.b.cN a.cN".toList := by decide +kernel
  refine ⟨hnames, hcodes, by decide, accessed, short, ?_, ?_, haccess, hshort, hrest⟩
  · rw [haccess, Except.ok.injEq] at haccessed
    exact haccessed
  · rw [hshort, Except.ok.injEq] at hcodesOnly
    exact hcodesOnly

end GrammarKit.AbbreviationTable
