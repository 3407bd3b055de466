import Mathlib.Data.List.Basic

/-!
# Look-ups in lists of entries

A look-up finds the first entry of its key. Where a key has one value only, it finds every entry.
-/

namespace GrammarKit

variable {κ α : Type} [BEq κ] [LawfulBEq κ]

theorem lookup_cons_eq_some_iff {key other : κ} {value found : α} {es : List (κ × α)} :
    ((other, value) :: es).lookup key = some found ↔
      (key = other ∧ found = value) ∨ (key ≠ other ∧ es.lookup key = some found) := by
  rw [List.lookup_cons]
  by_cases h : key = other
  · simp [h, eq_comm]
  · have hb : (key == other) = false := by simpa using h
    simp [h, hb]

theorem lookup_eq_some_iff_mem {es : List (κ × α)}
    (h : ∀ key first second, (key, first) ∈ es → (key, second) ∈ es → first = second)
    (key : κ) (value : α) : es.lookup key = some value ↔ (key, value) ∈ es := by
  induction es with
  | nil => simp
  | cons e es ih =>
    obtain ⟨other, owner⟩ := e
    have hrest := ih fun k a b ha hb =>
      h k a b (List.mem_cons_of_mem _ ha) (List.mem_cons_of_mem _ hb)
    rw [lookup_cons_eq_some_iff, hrest, List.mem_cons, Prod.mk.injEq]
    constructor
    · rintro (hhere | ⟨-, hlater⟩)
      · exact Or.inl hhere
      · exact Or.inr hlater
    · rintro (hhere | hlater)
      · exact Or.inl hhere
      · by_cases hkey : key = other
        · subst hkey
          exact Or.inl ⟨rfl, h key value owner (List.mem_cons_of_mem _ hlater) List.mem_cons_self⟩
        · exact Or.inr ⟨hkey, hlater⟩

theorem lookup_filter_self (key : κ) (es : List (κ × α)) :
    (es.filter (·.1 != key)).lookup key = none := by
  rw [List.lookup_eq_none_iff]
  intro e he
  have hne : e.1 ≠ key := by simpa using (List.mem_filter.1 he).2
  simpa using fun h => hne h.symm

theorem lookup_filter_of_ne {key other : κ} (h : other ≠ key) (es : List (κ × α)) :
    (es.filter (·.1 != key)).lookup other = es.lookup other := by
  induction es with
  | nil => rfl
  | cons e es ih =>
    obtain ⟨k, value⟩ := e
    by_cases hk : k = key
    · have hb : (other == k) = false := by simpa [hk] using h
      rw [List.filter_cons_of_neg (by simp [hk]), ih, List.lookup_cons, hb]
    · rw [List.filter_cons_of_pos (by simpa using hk), List.lookup_cons, List.lookup_cons, ih]

end GrammarKit
