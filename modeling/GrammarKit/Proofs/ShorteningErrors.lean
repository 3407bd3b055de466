import GrammarKit.Proofs.AccessShortening

/-!
# When shortening fails

What the pattern for names takes is a name, so it has a code. What the pattern for accesses takes
behind the point is a property, which is a name as well, unless there are no properties: then it is
the empty text. A table that has no properties and no empty name fails on every text in which a word
follows the point behind an owner, and that is the only way to fail.
-/

namespace GrammarKit.AbbreviationTable

open Regex Text

variable {table : AbbreviationTable}

/-! ### Names -/

theorem exists_of_matchAt_names {nonEmpty : Bool} {front back : Text} {m : Match}
    (h : table.namesRegex.pattern.matchAt nonEmpty (.between front back) = some m) :
    ∃ name ∈ table.codes.keys, ∃ rest, back = name ++ rest ∧ m = nameMatch front name rest := by
  unfold Pattern.matchAt namesRegex at h
  rw [run_inOrder_cons, run_wordBoundary, run_wordGroup _ _ 1 table.keys_ne_nil] at h
  split at h
  · obtain ⟨name, hname, hfound⟩ := List.exists_of_findSome?_eq_some h
    split at hfound
    · next hfits =>
      obtain ⟨rest, rfl⟩ := hfits.1
      rw [List.drop_left] at hfound
      split at hfound
      · cases hfound
      · exact ⟨name, mem_inTryingOrder.1 hname, rest, rfl, (Option.some.inj hfound).symm⟩
    · cases hfound
  · cases h

theorem exists_apply_shortenNames (table : AbbreviationTable) (t : Text) :
    ∃ u, (Rule.shortenNames table).apply t = .ok u := by
  have hcarried : table.namesRegex.pattern.Carried (fun m => table.code (m.taken 1))
      fun _ _ => True := by
    refine ⟨trivial, fun _ _ _ _ => trivial, ?_⟩
    intro nonEmpty front back m hm
    obtain ⟨name, hname, rest, rfl, rfl⟩ := exists_of_matchAt_names hm
    exact ⟨name, rest, _, rfl, rfl, rfl, table.code_of_mem hname, fun _ _ => trivial⟩
  obtain ⟨u, hu, -⟩ := Pattern.exists_replaceAll hcarried t
  exact ⟨u, hu⟩

/-! ### Accesses -/

/-- Somewhere in a text stands an owner, or nothing if there are no owners, from a word boundary to
a point with a word behind it. -/
def HasPointedOwner (table : AbbreviationTable) (t : Text) : Prop :=
  ∃ front owner back, t = front ++ (owner ++ '.' :: back) ∧ owner ∈ choices table.owners ∧
    isBoundary front (owner ++ '.' :: back) ∧ back.head?.any isWord

/-- The pattern for accesses takes an empty property in the text, and there is no code for it. -/
structure Stuck (table : AbbreviationTable) (t : Text) : Prop where
  no_properties : table.properties = []
  not_name : [] ∉ table.codes.keys
  hasPointedOwner : table.HasPointedOwner t

theorem choices_properties (h : table.properties = []) : choices table.properties = [[]] := by
  rw [h]
  rfl

theorem isBoundary_point (front owner back : Text) :
    isBoundary (front ++ (owner ++ ['.'])) back = back.head?.any isWord := by
  have hpoint : ∀ c ∈ ['.'], isWord c = false := fun c hc => by
    rw [List.mem_singleton.1 hc, isWord_point]
  rw [isBoundary, ← List.append_assoc, any_getLast (List.cons_ne_nil _ _) hpoint, Bool.false_bne]

theorem Stuck.apply_shortenAccess {t : Text} (h : table.Stuck t) :
    (Rule.shortenAccess table).apply t = .error (.noCode []) := by
  obtain ⟨front, owner, back, rfl, howner, hstart, hword⟩ := h.hasPointedOwner
  have hempty := choices_properties h.no_properties
  have hend : isBoundary (front ++ (owner ++ '.' :: [])) back := by
    rw [isBoundary_point]
    exact hword
  have hmem : [] ∈ choices table.properties := by
    rw [hempty]
    exact List.mem_singleton_self []
  obtain ⟨m, hm⟩ := exists_matchAt_access false howner hmem hstart hend
  apply Pattern.replaceAll_eq_error hm
  intro front back m hm
  obtain ⟨owner, property, rest, -, hproperty, -, -, -, rfl⟩ := exists_of_matchAt_access hm
  rw [hempty, List.mem_singleton] at hproperty
  subst hproperty
  have htaken : (accessMatch front owner [] rest).taken 2 = [] := rfl
  have hcode : table.code [] = .error (.noCode []) := by
    have hnone := h.not_name
    rw [OrderedMap.mem_keys_iff, Option.not_isSome_iff_eq_none] at hnone
    rw [AbbreviationTable.code, hnone]
  rw [htaken, hcode]
  rfl

/-- With properties or an empty name, whatever is taken for a property has a code. -/
theorem mem_keys_of_mem_choices (h : table.properties ≠ [] ∨ [] ∈ table.codes.keys) {property : Text}
    (hproperty : property ∈ choices table.properties) : property ∈ table.codes.keys := by
  by_cases hne : table.properties = []
  · rw [choices_properties hne, List.mem_singleton] at hproperty
    rw [hproperty]
    exact h.resolve_left fun hsome => hsome hne
  · rw [choices_of_ne_nil hne] at hproperty
    exact table.covered property hproperty

theorem exists_apply_shortenAccess_of_names (h : table.properties ≠ [] ∨ [] ∈ table.codes.keys)
    (t : Text) : ∃ u, (Rule.shortenAccess table).apply t = .ok u := by
  have hcarried : table.accessRegex.pattern.Carried
      (fun m => do return m.taken 1 ++ ['.'] ++ (← table.code (m.taken 2))) fun _ _ => True := by
    refine ⟨trivial, fun _ _ _ _ => trivial, ?_⟩
    intro nonEmpty front back m hm
    obtain ⟨owner, property, rest, -, hproperty, rfl, -, -, rfl⟩ := exists_of_matchAt_access hm
    have hcode := table.code_of_mem (mem_keys_of_mem_choices h hproperty)
    have htaken : (accessMatch front owner property rest).taken 2 = property := rfl
    refine ⟨owner ++ '.' :: property, rest, owner ++ ['.'] ++ table.abbreviate property, by simp,
      rfl, by simp [accessMatch], ?_, fun _ _ => trivial⟩
    rw [htaken, hcode]
    rfl
  obtain ⟨u, hu, -⟩ := Pattern.exists_replaceAll hcarried t
  exact ⟨u, hu⟩

theorem exists_apply_shortenAccess {t : Text} (h : ¬ table.Stuck t) :
    ∃ u, (Rule.shortenAccess table).apply t = .ok u := by
  by_cases htable : table.properties ≠ [] ∨ [] ∈ table.codes.keys
  · exact exists_apply_shortenAccess_of_names htable t
  · rw [not_or, Classical.not_not] at htable
    refine ⟨t, Pattern.replaceAll_of_forall_none ?_⟩
    rintro nonEmpty front back rfl
    rw [Option.eq_none_iff_forall_ne_some]
    intro m hm
    obtain ⟨owner, property, rest, howner, hproperty, rfl, hstart, hend, -⟩ :=
      exists_of_matchAt_access hm
    rw [choices_properties htable.1, List.mem_singleton] at hproperty
    subst hproperty
    rw [isBoundary_point] at hend
    exact h ⟨htable.1, htable.2, front, owner, rest, rfl, howner, hstart, hend⟩

/-- Without properties and an empty name there is a text on which a table fails. -/
theorem exists_stuck (hproperties : table.properties = []) (hname : [] ∉ table.codes.keys) :
    ∃ t, table.Stuck t := by
  obtain ⟨owner, howner⟩ := List.exists_mem_of_ne_nil _ (choices_ne_nil table.owners)
  have hword : isWord 'a' = true := by decide +kernel
  -- an owner that does not begin with a word character needs one before it
  cases hhead : (owner ++ '.' :: ['a']).head?.any isWord with
  | true =>
    refine ⟨owner ++ '.' :: ['a'], hproperties, hname, [], owner, ['a'], rfl, howner, ?_, hword⟩
    rw [isBoundary, hhead]
    rfl
  | false =>
    refine ⟨['a'] ++ (owner ++ '.' :: ['a']), hproperties, hname, ['a'], owner, ['a'], rfl, howner,
      ?_, hword⟩
    rw [isBoundary, hhead, List.getLast?_singleton, Option.any_some, hword]
    rfl

/-! ### Both rules -/

theorem Stuck.apply_shortening {t : Text} (h : table.Stuck t) :
    Rule.applyAll (Rule.shortening table) t = .error (.noCode []) := by
  simp only [Rule.shortening, Rule.applyAll, h.apply_shortenAccess]

theorem exists_apply_shortening {t : Text} (h : ¬ table.Stuck t) :
    ∃ u, Rule.applyAll (Rule.shortening table) t = .ok u := by
  obtain ⟨accessed, haccess⟩ := exists_apply_shortenAccess h
  obtain ⟨short, hshort⟩ := table.exists_apply_shortenNames accessed
  exact ⟨short, by simp only [Rule.shortening, Rule.applyAll, haccess, hshort]⟩

/-- Shortening gives a text for every text exactly if the table has properties or an empty name.
The rule for names always does, and the others fail on the texts that have an owner, a point and a
word in them, for the want of a code for the empty text. -/
theorem shortening_returns_iff (table : AbbreviationTable) :
    ((∀ t, (∃ u, (Rule.shortenNames table).apply t = .ok u) ∧
        (∃ u, (Rule.shortenAccess table).apply t = .ok u) ∧
        ∃ u, Rule.applyAll (Rule.shortening table) t = .ok u) ↔
      table.properties ≠ [] ∨ [] ∈ table.codes.keys) ∧
    ∀ t, (∃ u, (Rule.shortenNames table).apply t = .ok u) ∧
      ((∃ u, (Rule.shortenAccess table).apply t = .ok u) ↔ ¬ table.Stuck t) ∧
      ((∃ u, Rule.applyAll (Rule.shortening table) t = .ok u) ↔ ¬ table.Stuck t) ∧
      ((Rule.shortenAccess table).apply t = .error (.noCode []) ↔ table.Stuck t) ∧
      (Rule.applyAll (Rule.shortening table) t = .error (.noCode []) ↔ table.Stuck t) := by
  have houtcome : ∀ {change : Text → Except SubstitutionError Text} {t : Text},
      (table.Stuck t → change t = .error (.noCode [])) →
      (¬ table.Stuck t → ∃ u, change t = .ok u) →
      ((∃ u, change t = .ok u) ↔ ¬ table.Stuck t) ∧
        (change t = .error (.noCode []) ↔ table.Stuck t) := by
    intro change t hfails hreturns
    by_cases hstuck : table.Stuck t
    · simp [hfails hstuck, hstuck]
    · obtain ⟨u, hu⟩ := hreturns hstuck
      simp [hu, hstuck]
  have haccess := fun t => houtcome (t := t) Stuck.apply_shortenAccess exists_apply_shortenAccess
  have hboth := fun t => houtcome (t := t) Stuck.apply_shortening exists_apply_shortening
  refine ⟨⟨fun hall => ?_, fun htable t => ?_⟩, fun t => ?_⟩
  · by_cases htable : table.properties ≠ [] ∨ [] ∈ table.codes.keys
    · exact htable
    · rw [not_or, Classical.not_not] at htable
      obtain ⟨t, ht⟩ := exists_stuck htable.1 htable.2
      exact absurd ht ((haccess t).1.1 (hall t).2.1)
  · have hfree : ¬ table.Stuck t := fun hstuck =>
      htable.elim (fun hne => hne hstuck.no_properties) fun hname => hstuck.not_name hname
    exact ⟨table.exists_apply_shortenNames t, (haccess t).1.2 hfree, (hboth t).1.2 hfree⟩
  · exact ⟨table.exists_apply_shortenNames t, (haccess t).1, (hboth t).1, (haccess t).2,
      (hboth t).2⟩

/-- A table without properties. -/
def withoutProperties : AbbreviationTable where
  codes := .ofList [("className".toList, "cN".toList)]
  owners := defaultOwners
  properties := []
  nonempty := by decide
  disjoint := by decide
  covered := by decide

/-- Not every table shortens every text. -/
theorem not_shortening_returns_withoutProperties :
    ¬ (∀ (table : AbbreviationTable) (t : Text), ∃ u, (Rule.shortenAccess table).apply t = .ok u) ∧
      ¬ ∀ (table : AbbreviationTable) (t : Text),
        ∃ u, Rule.applyAll (Rule.shortening table) t = .ok u := by
  have hstuck : withoutProperties.Stuck "block.x".toList :=
    ⟨rfl, by decide, [], "block".toList, "x".toList, rfl, by decide, by decide +kernel,
      by decide +kernel⟩
  refine ⟨fun h => ?_, fun h => ?_⟩
  · obtain ⟨u, hu⟩ := h withoutProperties "block.x".toList
    rw [hstuck.apply_shortenAccess] at hu
    cases hu
  · obtain ⟨u, hu⟩ := h withoutProperties "block.x".toList
    rw [hstuck.apply_shortening] at hu
    cases hu

end GrammarKit.AbbreviationTable
