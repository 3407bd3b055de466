import GrammarKit.Proofs.Marks
import GrammarKit.Proofs.PatternPlaces

/-!
# Repetition in patterns

A greedy repetition of a set of characters takes as many as there are, if what follows fits behind
them; in any case it finds a way if there is one. A lazy one in front of a mark takes what stands
before the first place of the mark.
-/

namespace GrammarKit.Regex

open Text

/-! ### One round -/

section

variable {α : Type} {next : State → Option α} (groups : List (Nat × Text))

/-- Whatever has been taken, what has to fit behind it does. -/
def AlwaysFits (next : State → Option α) : Prop :=
  ∀ front back groups, (next ⟨.between front back, groups⟩).isSome = true

theorem run_one_nil (set : CharSet) (front : Text) :
    (Pattern.one set).run ⟨.between front [], groups⟩ next = none := rfl

theorem run_one_cons (set : CharSet) (front back : Text) (c : Char) :
    (Pattern.one set).run ⟨.between front (c :: back), groups⟩ next =
      if set.covers c then next ⟨.between (front ++ [c]) back, groups⟩ else none := by
  simp only [Pattern.run, Cursor.next_between_cons]

/-- A greedy repetition takes another round if it can, and stops otherwise. -/
theorem atMost_greedy_succ (body : Matcher α) (n : Nat) {last : Option Nat} {s : State}
    (hlast : last ≠ some s.cursor.left) :
    body.atMost true (n + 1) last s next =
      (body s fun t => body.atMost true n (some s.cursor.left) t next).or (next s) := by
  simp only [Matcher.atMost, if_neg hlast, if_true]
  cases body s fun t => body.atMost true n (some s.cursor.left) t next <;> rfl

/-- A lazy repetition stops if it can, and takes another round otherwise. -/
theorem atMost_lazy_succ (body : Matcher α) (n : Nat) {last : Option Nat} {s : State}
    (hlast : last ≠ some s.cursor.left) :
    body.atMost false (n + 1) last s next =
      (next s).or (body s fun t => body.atMost false n (some s.cursor.left) t next) := by
  simp only [Matcher.atMost, if_neg hlast, Bool.false_eq_true, if_false]
  cases next s <;> rfl

theorem length_ne_of_cons (c : Char) (back : Text) : some (c :: back).length ≠ some back.length := by
  simp

/-- A greedy repetition takes as many as there are, if what follows fits behind them all, or fits in
front of none of them. -/
theorem atMost_one_greedy (set : CharSet) {n : Nat} {last : Option Nat} {front back : Text}
    (hn : back.length < n) (hlast : last ≠ some back.length)
    (hfits : (next ⟨.between (front ++ back.takeWhile set.covers) (back.dropWhile set.covers),
        groups⟩).isSome = true ∨
      ∀ front c back, set.covers c = true → next ⟨.between front (c :: back), groups⟩ = none) :
    Matcher.atMost (Pattern.one set).run true n last ⟨.between front back, groups⟩ next =
      next ⟨.between (front ++ back.takeWhile set.covers) (back.dropWhile set.covers), groups⟩ := by
  obtain ⟨n, rfl⟩ : ∃ m, n = m + 1 := ⟨n - 1, by omega⟩
  induction back generalizing front n last with
  | nil =>
    rw [atMost_greedy_succ _ _ hlast, run_one_nil, Option.none_or, List.takeWhile_nil,
      List.dropWhile_nil, List.append_nil]
  | cons c back ih =>
    rw [List.length_cons] at hn
    obtain ⟨n, rfl⟩ : ∃ m, n = m + 1 := ⟨n - 1, by omega⟩
    rw [atMost_greedy_succ _ _ hlast, run_one_cons]
    by_cases hc : set.covers c = true
    · have hshift : front ++ c :: back.takeWhile set.covers =
          front ++ [c] ++ back.takeWhile set.covers := by simp
      rw [List.takeWhile_cons_of_pos hc, List.dropWhile_cons_of_pos hc, hshift] at hfits ⊢
      rw [if_pos hc, Cursor.left_between, ih (length_ne_of_cons c back) hfits n (by omega)]
      rcases hfits with hsome | hstop
      · exact Option.or_of_isSome hsome
      · rw [hstop _ _ _ hc, Option.or_none]
    · rw [if_neg hc, Option.none_or, List.takeWhile_cons_of_neg hc, List.dropWhile_cons_of_neg hc,
        List.append_nil]

theorem run_many_one_of_fits (set : CharSet) {front back : Text}
    (hfits : (next ⟨.between (front ++ back.takeWhile set.covers) (back.dropWhile set.covers),
      groups⟩).isSome = true) :
    (Pattern.many (.one set)).run ⟨.between front back, groups⟩ next =
      next ⟨.between (front ++ back.takeWhile set.covers) (back.dropWhile set.covers), groups⟩ :=
  atMost_one_greedy groups set (Nat.lt_succ_self _) (by simp) (Or.inl hfits)

theorem run_many_one (set : CharSet) (hfits : AlwaysFits next) (front back : Text) :
    (Pattern.many (.one set)).run ⟨.between front back, groups⟩ next =
      next ⟨.between (front ++ back.takeWhile set.covers) (back.dropWhile set.covers), groups⟩ :=
  run_many_one_of_fits groups set (hfits _ _ _)

theorem run_many_one_of_stop (set : CharSet)
    (hstop : ∀ front c back, set.covers c = true → next ⟨.between front (c :: back), groups⟩ = none)
    (front back : Text) :
    (Pattern.many (.one set)).run ⟨.between front back, groups⟩ next =
      next ⟨.between (front ++ back.takeWhile set.covers) (back.dropWhile set.covers), groups⟩ :=
  atMost_one_greedy groups set (Nat.lt_succ_self _) (by simp) (Or.inr hstop)

/-- Where there is nothing to repeat, what follows need not fit for this to be found out. -/
theorem run_many_one_of_not (set : CharSet) {front back : Text}
    (h : ∀ c ∈ back.head?, set.covers c = false) :
    (Pattern.many (.one set)).run ⟨.between front back, groups⟩ next =
      next ⟨.between front back, groups⟩ := by
  have hstep : (Pattern.many (.one set)).run ⟨.between front back, groups⟩ next =
      Matcher.atMost (Pattern.one set).run true (back.length + 1) none
        ⟨.between front back, groups⟩ next := rfl
  rw [hstep, atMost_greedy_succ _ _ (by simp)]
  cases back with
  | nil => rw [run_one_nil, Option.none_or]
  | cons c back => rw [run_one_cons, h c rfl, if_neg Bool.false_ne_true, Option.none_or]

/-- A greedy repetition of a set finds a way to fit if some number of rounds leads to one. -/
theorem isSome_atMost_one (set : CharSet) {n : Nat} {last : Option Nat} {front back : Text}
    (hn : back.length < n) (hlast : last ≠ some back.length) :
    (Matcher.atMost (Pattern.one set).run true n last ⟨.between front back, groups⟩ next).isSome ↔
      ∃ taken rest, back = taken ++ rest ∧ (∀ c ∈ taken, set.covers c = true) ∧
        (next ⟨.between (front ++ taken) rest, groups⟩).isSome := by
  obtain ⟨n, rfl⟩ : ∃ m, n = m + 1 := ⟨n - 1, by omega⟩
  induction back generalizing front n last with
  | nil =>
    rw [atMost_greedy_succ _ _ hlast, run_one_nil, Option.none_or]
    constructor
    · intro h
      exact ⟨[], [], rfl, by simp, by rwa [List.append_nil]⟩
    · rintro ⟨taken, rest, he, -, h⟩
      obtain ⟨rfl, rfl⟩ := List.append_eq_nil_iff.1 he.symm
      rwa [List.append_nil] at h
  | cons c back ih =>
    rw [List.length_cons] at hn
    obtain ⟨n, rfl⟩ : ∃ m, n = m + 1 := ⟨n - 1, by omega⟩
    have hround : ((Pattern.one set).run ⟨.between front (c :: back), groups⟩ fun t =>
        Matcher.atMost (Pattern.one set).run true (n + 1) (some (c :: back).length) t next).isSome ↔
          set.covers c = true ∧ ∃ taken rest, back = taken ++ rest ∧
            (∀ d ∈ taken, set.covers d = true) ∧
              (next ⟨.between (front ++ [c] ++ taken) rest, groups⟩).isSome := by
      rw [run_one_cons]
      by_cases hc : set.covers c = true
      · rw [if_pos hc, ih (length_ne_of_cons c back) n (by omega)]
        simp [hc]
      · simp [hc]
    rw [atMost_greedy_succ _ _ hlast, Option.isSome_or, Bool.or_eq_true, Cursor.left_between, hround]
    constructor
    · rintro (⟨hc, taken, rest, rfl, hall, h⟩ | h)
      · refine ⟨c :: taken, rest, rfl, List.forall_mem_cons.2 ⟨hc, hall⟩, ?_⟩
        rwa [List.append_assoc, List.singleton_append] at h
      · exact ⟨[], c :: back, rfl, by simp, by rwa [List.append_nil]⟩
    · rintro ⟨taken, rest, he, hall, h⟩
      cases taken with
      | nil =>
        rw [List.nil_append] at he
        rw [← he, List.append_nil] at h
        exact Or.inr h
      | cons d taken =>
        rw [List.cons_append, List.cons.injEq] at he
        obtain ⟨rfl, rfl⟩ := he
        obtain ⟨hc, htaken⟩ := List.forall_mem_cons.1 hall
        refine Or.inl ⟨hc, taken, rest, rfl, htaken, ?_⟩
        rwa [List.append_assoc, List.singleton_append]

theorem isSome_run_many_one (set : CharSet) (front back : Text) :
    ((Pattern.many (.one set)).run ⟨.between front back, groups⟩ next).isSome ↔
      ∃ taken rest, back = taken ++ rest ∧ (∀ c ∈ taken, set.covers c = true) ∧
        (next ⟨.between (front ++ taken) rest, groups⟩).isSome :=
  isSome_atMost_one groups set (Nat.lt_succ_self _) (by simp)

theorem run_optional (p : Pattern) (s : State) :
    (Pattern.optional p).run s next = (p.run s next).or (next s) := by
  have hrounds : rounds 0 (some 1) s.cursor.left = 1 := Nat.min_eq_left (Nat.succ_pos _)
  have hstep : (Pattern.optional p).run s next =
      Matcher.atMost p.run true (rounds 0 (some 1) s.cursor.left) none s next := rfl
  rw [hstep, hrounds, atMost_greedy_succ _ _ (by simp)]
  rfl

theorem covers_anything (c : Char) : CharSet.anything.covers c = true := rfl

/-- What is taken lazily ends at the first place of a mark, if what follows fits nowhere but in front
of one. -/
theorem atMost_anything_lazy_of_mark {mark : Text} (hmark : mark ≠ []) {n : Nat} {last : Option Nat}
    {front back : Text} (hn : back.length < n) (hlast : last ≠ some back.length)
    (hnone : ∀ front back, ¬ mark <+: back → next ⟨.between front back, groups⟩ = none)
    (hfits : ∀ inside after, splitFirst mark back = some (inside, after) →
      (next ⟨.between (front ++ inside) (mark ++ after), groups⟩).isSome = true) :
    Matcher.atMost (Pattern.one .anything).run false n last ⟨.between front back, groups⟩ next =
      (splitFirst mark back).bind fun parts =>
        next ⟨.between (front ++ parts.1) (mark ++ parts.2), groups⟩ := by
  obtain ⟨n, rfl⟩ : ∃ m, n = m + 1 := ⟨n - 1, by omega⟩
  induction back generalizing front n last with
  | nil =>
    have hempty : mark.isEmpty = false := by simpa using hmark
    rw [atMost_lazy_succ _ _ hlast, hnone _ _ fun h => hmark (List.prefix_nil.1 h), run_one_nil,
      splitFirst, hempty]
    rfl
  | cons c back ih =>
    rw [List.length_cons] at hn
    obtain ⟨n, rfl⟩ : ∃ m, n = m + 1 := ⟨n - 1, by omega⟩
    rw [atMost_lazy_succ _ _ hlast, run_one_cons, if_pos (covers_anything c)]
    cases hhere : mark.isPrefixOf? (c :: back) with
    | some after =>
      have happend : mark ++ after = c :: back := List.isPrefixOf?_eq_some_iff_append_eq.1 hhere
      have hsplit : splitFirst mark (c :: back) = some ([], after) := by
        simp only [splitFirst, hhere]
      have hnext := hfits [] after hsplit
      rw [List.append_nil, happend] at hnext
      rw [hsplit, Option.or_of_isSome hnext, Option.bind_some]
      dsimp only
      rw [List.append_nil, happend]
    | none =>
      have hsplit : splitFirst mark (c :: back) =
          (splitFirst mark back).map fun parts => (c :: parts.1, parts.2) := by
        simp only [splitFirst, hhere]
      have hshift : ∀ inside : Text, front ++ [c] ++ inside = front ++ c :: inside := by simp
      have hlater : ∀ inside after, splitFirst mark back = some (inside, after) →
          (next ⟨.between (front ++ [c] ++ inside) (mark ++ after), groups⟩).isSome = true := by
        intro inside after hback
        rw [hshift]
        apply hfits
        rw [hsplit, hback, Option.map_some]
      rw [hnone _ _ (stripped_eq_none_iff.1 hhere), Option.none_or, Cursor.left_between,
        ih (length_ne_of_cons c back) hlater n (by omega), hsplit, Option.bind_map]
      simp only [hshift, Function.comp_def]

/-- What is taken lazily in front of a mark ends at the first place of the mark. -/
theorem atMost_anything_lazy {mark : Text} (hmark : mark ≠ []) {n : Nat} {last : Option Nat}
    {front back : Text} (hn : back.length < n) (hlast : last ≠ some back.length)
    (hfits : ∀ inside after, splitFirst mark back = some (inside, after) →
      (next ⟨.between (front ++ inside ++ mark) after, groups⟩).isSome = true) :
    Matcher.atMost (Pattern.one .anything).run false n last ⟨.between front back, groups⟩
        (fun t => (Pattern.literal mark).run t next) =
      (splitFirst mark back).bind fun parts =>
        next ⟨.between (front ++ parts.1 ++ mark) parts.2, groups⟩ := by
  rw [atMost_anything_lazy_of_mark groups hmark hn hlast]
  · simp only [run_literal_append]
  · intro front back hno
    exact run_literal_of_not_prefix next groups hno front
  · intro inside after hsplit
    rw [run_literal_append]
    exact hfits inside after hsplit

end

end GrammarKit.Regex
