import GrammarKit.Text.Basic
import Mathlib.Data.List.Basic

/-!
# Marks in texts

Where a mark occurs in a text, and that a text is split at the first of these places. For the marks
of two different characters, which cannot overlap themselves, an occurrence in a text put together
from two lies in one of them or across the seam.
-/

namespace GrammarKit.Text

theorem stripped_eq_none_iff {mark t : Text} : mark.isPrefixOf? t = none ↔ ¬ mark <+: t := by
  rw [← Option.not_isSome_iff_eq_none, List.isSome_isPrefixOf?_eq_isPrefixOf,
    List.isPrefixOf_iff_prefix]

/-! ### The first place of a mark -/

theorem not_infix_of_splitFirst {mark t front after : Text} (hmark : mark ≠ [])
    (h : splitFirst mark t = some (front, after)) : ¬ mark <:+: front := by
  induction t generalizing front with
  | nil =>
    have hempty : mark.isEmpty = false := by simpa using hmark
    simp [splitFirst, hempty] at h
  | cons c rest ih =>
    have happend := append_of_splitFirst h
    unfold splitFirst at h
    split at h
    · simp only [Option.some.injEq, Prod.mk.injEq] at h
      obtain ⟨rfl, -⟩ := h
      intro hinside
      exact hmark (List.infix_nil.1 hinside)
    · next hnone =>
      obtain ⟨⟨f, a⟩, hrest, he⟩ := Option.map_eq_some_iff.1 h
      simp only [Prod.mk.injEq] at he
      obtain ⟨rfl, rfl⟩ := he
      intro hinside
      rcases List.infix_cons_iff.1 hinside with hpre | hlater
      · apply stripped_eq_none_iff.1 hnone
        rw [happend]
        exact hpre.trans (List.prefix_append _ _)
      · exact ih hrest hlater

theorem not_infix_of_splitFirst_eq_none {mark t : Text} (h : splitFirst mark t = none) :
    ¬ mark <:+: t := by
  induction t with
  | nil =>
    intro hinside
    have hnil : mark = [] := List.infix_nil.1 hinside
    simp [splitFirst, hnil] at h
  | cons c rest ih =>
    unfold splitFirst at h
    split at h
    · cases h
    · next hnone =>
      intro hinside
      rcases List.infix_cons_iff.1 hinside with hpre | hlater
      · exact stripped_eq_none_iff.1 hnone hpre
      · exact ih (Option.map_eq_none_iff.1 h) hlater

/-! ### Marks of two characters -/

theorem pair_prefix_iff {a b : Char} {t : Text} :
    [a, b] <+: t ↔ t.head? = some a ∧ t.tail.head? = some b := by
  cases t with
  | nil => simp
  | cons c rest =>
    cases rest with
    | nil => simp [List.cons_prefix_cons]
    | cons d rest => simp [List.cons_prefix_cons, eq_comm]

theorem pair_infix_cons {a b c : Char} (hc : c ≠ a) (t : Text) :
    [a, b] <:+: c :: t ↔ [a, b] <:+: t := by
  rw [List.infix_cons_iff, pair_prefix_iff]
  constructor
  · rintro (⟨hhead, -⟩ | h)
    · exact absurd (Option.some.inj hhead) hc
    · exact h
  · exact Or.inr

theorem pair_infix_append {a b : Char} (s t : Text) :
    [a, b] <:+: s ++ t ↔
      [a, b] <:+: s ∨ [a, b] <:+: t ∨ (s.getLast? = some a ∧ t.head? = some b) := by
  induction s with
  | nil => simp
  | cons c s ih =>
    have hcons : ∀ l : Text, [a, b] <:+: c :: l ↔ [a, b] <+: c :: l ∨ [a, b] <:+: l :=
      fun _ => List.infix_cons_iff
    cases s with
    | nil =>
      have hone : ¬ [a, b] <:+: [c] := fun h => by simpa using h.length_le
      have hfront : [a, b] <+: c :: t ↔ c = a ∧ t.head? = some b := by
        rw [pair_prefix_iff, List.head?_cons, Option.some.injEq, List.tail_cons]
      simp only [List.cons_append, List.nil_append, hcons t, hfront, hone, false_or,
        List.getLast?_singleton, Option.some.injEq]
      exact Or.comm
    | cons d s =>
      have hfront : [a, b] <+: c :: (d :: s ++ t) ↔ [a, b] <+: c :: d :: s := by
        simp
      rw [List.cons_append, hcons, ih, hfront, hcons (d :: s), List.getLast?_cons_cons, or_assoc]

theorem splitFirst_pair {a b : Char} (hab : a ≠ b) {front : Text} (h : ¬ [a, b] <:+: front)
    (after : Text) : splitFirst [a, b] (front ++ a :: b :: after) = some (front, after) := by
  induction front with
  | nil =>
    have hs : [a, b].isPrefixOf? (a :: b :: after) = some after :=
      List.isPrefixOf?_eq_some_iff_append_eq.2 rfl
    simp only [List.nil_append, splitFirst, hs]
  | cons c rest ih =>
    have hrest : ¬ [a, b] <:+: rest := fun hi => h (List.infix_cons_iff.2 (Or.inr hi))
    have hhere : ¬ [a, b] <+: c :: (rest ++ a :: b :: after) := by
      intro hp
      obtain ⟨hc, hnext⟩ := pair_prefix_iff.1 hp
      cases rest with
      | nil =>
        have hba : a = b := by simpa using hnext
        exact hab hba
      | cons d rest =>
        apply h
        apply List.IsPrefix.isInfix
        exact pair_prefix_iff.2 ⟨hc, hnext⟩
    rw [List.cons_append, splitFirst, stripped_eq_none_iff.2 hhere, ih hrest, Option.map_some]

theorem splitFirst_append {a b : Char} (hab : a ≠ b) {s front after : Text}
    (h : splitFirst [a, b] s = some (front, after)) (t : Text) :
    splitFirst [a, b] (s ++ t) = some (front, after ++ t) := by
  have hfront : ¬ [a, b] <:+: front := not_infix_of_splitFirst (by simp) h
  have happend : s ++ t = front ++ a :: b :: (after ++ t) := by
    rw [append_of_splitFirst h]
    simp
  rw [happend, splitFirst_pair hab hfront]

theorem exists_splitFirst_of_infix {mark t : Text} (h : mark <:+: t) :
    ∃ front after, splitFirst mark t = some (front, after) := by
  cases hsplit : splitFirst mark t with
  | none => exact absurd h (not_infix_of_splitFirst_eq_none hsplit)
  | some parts => exact ⟨parts.1, parts.2, rfl⟩

end GrammarKit.Text
