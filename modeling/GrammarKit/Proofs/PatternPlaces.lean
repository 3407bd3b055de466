import GrammarKit.Regex.Choice
import GrammarKit.Regex.Search

/-!
# Patterns at a place

A place in a text is given by what stands on its two sides. From there a fixed text is taken if it
comes next, and of several patterns the first one after which everything else fits.
-/

namespace GrammarKit.Regex

open Text

/-! ### Places -/

/-- The place between two parts of a text. -/
def Cursor.between (front back : Text) : Cursor :=
  ⟨front.reverse, back, back.length, (start back).left_eq⟩

@[simp] theorem Cursor.left_between (front back : Text) : (between front back).left = back.length :=
  rfl

theorem Cursor.next_between_cons (front back : Text) (c : Char) :
    (between front (c :: back)).next? = some (c, between (front ++ [c]) back) := by
  simp [between, next?]

theorem Cursor.upTo_between (front taken later back : Text) :
    (between front (taken ++ back)).upTo (between later back) = taken := by
  have hlength : (taken ++ back).length - back.length = taken.length := by
    rw [List.length_append]
    omega
  change (taken ++ back).take ((taken ++ back).length - back.length) = taken
  rw [hlength, List.take_left]

/-- Whether exactly one of the characters next to a place is a word character. -/
def isBoundary (front back : Text) : Bool := front.getLast?.any isWord != back.head?.any isWord

theorem Anchor.holds_wordBoundary (front back : Text) :
    Anchor.wordBoundary.holds (.between front back) = isBoundary front back := by
  change (front.reverse.head?.any isWord != back.head?.any isWord) = isBoundary front back
  rw [List.head?_reverse, isBoundary]

/-! ### Running patterns -/

variable {α : Type} (s : State) (next : State → Option α)

theorem run_inOrder_cons (p : Pattern) (ps : List Pattern) :
    (Pattern.inOrder (p :: ps)).run s next = p.run s fun t => (Pattern.inOrder ps).run t next := by
  cases ps with
  | nil => rfl
  | cons q qs => rfl

theorem run_alt (p q : Pattern) : (Pattern.alt p q).run s next = (p.run s next).or (q.run s next) := by
  rw [Pattern.run]
  cases p.run s next <;> rfl

theorem run_oneOf {ps : List Pattern} (hps : ps ≠ []) :
    (Pattern.oneOf ps).run s next = ps.findSome? fun p => p.run s next := by
  induction ps with
  | nil => exact absurd rfl hps
  | cons p ps ih =>
    cases ps with
    | nil =>
      simp only [Pattern.oneOf, List.findSome?_cons, List.findSome?_nil]
      cases p.run s next <;> rfl
    | cons q qs =>
      have hrest := ih (List.cons_ne_nil q qs)
      have hfirst : Pattern.oneOf (p :: q :: qs) = .alt p (.oneOf (q :: qs)) := rfl
      rw [hfirst, run_alt, List.findSome?_cons, hrest]
      cases p.run s next <;> rfl

theorem run_single (groups : List (Nat × Text)) (c : Char) (front back : Text) :
    (Pattern.one (.single c)).run ⟨.between front back, groups⟩ next =
      if back.head? = some c then next ⟨.between (front ++ [c]) back.tail, groups⟩ else none := by
  cases back with
  | nil => rfl
  | cons d back =>
    simp only [Pattern.run, Cursor.next_between_cons, CharSet.covers_single, decide_eq_true_eq,
      List.head?_cons, Option.some.injEq, List.tail_cons]
    split
    · next hd => rw [hd]
    · rfl

theorem run_literal (groups : List (Nat × Text)) (w front back : Text) :
    (Pattern.literal w).run ⟨.between front back, groups⟩ next =
      if w <+: back then next ⟨.between (front ++ w) (back.drop w.length), groups⟩ else none := by
  induction w generalizing front back with
  | nil => simp [Pattern.literal, Pattern.inOrder, Pattern.run]
  | cons c w ih =>
    have hstep : (Pattern.literal (c :: w)).run ⟨.between front back, groups⟩ next =
        (Pattern.one (.single c)).run ⟨.between front back, groups⟩ fun t =>
          (Pattern.literal w).run t next := run_inOrder_cons _ _ _ _
    rw [hstep, run_single]
    cases back with
    | nil => simp
    | cons d back =>
      by_cases hd : d = c
      · simp [hd, ih]
      · have hne : ¬ c :: w <+: d :: back := fun h => hd (List.cons_prefix_cons.1 h).1.symm
        simp [hd, hne]

theorem run_literal_append (groups : List (Nat × Text)) (w front after : Text) :
    (Pattern.literal w).run ⟨.between front (w ++ after), groups⟩ next =
      next ⟨.between (front ++ w) after, groups⟩ := by
  rw [run_literal, if_pos (List.prefix_append w after), List.drop_left]

theorem run_literal_of_not_prefix (groups : List (Nat × Text)) {w back : Text} (h : ¬ w <+: back)
    (front : Text) : (Pattern.literal w).run ⟨.between front back, groups⟩ next = none := by
  rw [run_literal, if_neg h]

theorem run_wordBoundary (groups : List (Nat × Text)) (front back : Text) :
    (Pattern.anchor .wordBoundary).run ⟨.between front back, groups⟩ next =
      if isBoundary front back then next ⟨.between front back, groups⟩ else none := by
  rw [Pattern.run, Anchor.holds_wordBoundary]

theorem run_alternation (groups : List (Nat × Text)) {ts : List Text} (hts : ts ≠ [])
    (front back : Text) :
    (alternation ts).run ⟨.between front back, groups⟩ next =
      (inTryingOrder ts).findSome? fun t =>
        if t <+: back then next ⟨.between (front ++ t) (back.drop t.length), groups⟩ else none := by
  have hne : (inTryingOrder ts).map Pattern.literal ≠ [] := by
    intro hnil
    have hperm := sortBy_perm longerFirst ts
    rw [show sortBy longerFirst ts = [] from List.map_eq_nil_iff.1 hnil] at hperm
    exact hts hperm.nil_eq.symm
  rw [alternation, run_oneOf _ _ hne, List.findSome?_map]
  exact congrArg (List.findSome? · _) (funext fun t => run_literal next groups t front back)

/-- What an alternation of texts can take: one of them, or nothing if there are none. -/
def choices (ts : List Text) : List Text := if ts = [] then [[]] else ts

theorem choices_of_ne_nil {ts : List Text} (h : ts ≠ []) : choices ts = ts := if_neg h

theorem choices_ne_nil (ts : List Text) : choices ts ≠ [] := by
  unfold choices
  split
  · exact List.cons_ne_nil _ _
  · next h => exact h

theorem mem_choices {t : Text} {ts : List Text} (h : t ∈ ts) : t ∈ choices ts := by
  rw [choices_of_ne_nil (List.ne_nil_of_mem h)]
  exact h

theorem alternation_choices (ts : List Text) : alternation (choices ts) = alternation ts := by
  by_cases h : ts = []
  · rw [h]
    rfl
  · rw [choices_of_ne_nil h]

end GrammarKit.Regex
