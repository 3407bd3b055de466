import Mathlib.Data.List.Forall2

/-!
# Results

A result is a value or an error. When a value comes out of steps taken one after the other, every
step has given one; when an error does, it is that of the first step that has failed.
-/

namespace GrammarKit

theorem mapError_eq_ok_iff {ε δ α : Type} {f : ε → δ} {x : Except ε α} {a : α} :
    x.mapError f = .ok a ↔ x = .ok a := by
  cases x <;> simp [Except.mapError]

theorem eq_ok_of_toOption {ε α : Type} {r : Except ε α} {a : α} (h : r.toOption = some a) :
    r = .ok a := by
  cases r with
  | error e => cases h
  | ok b => rw [Option.some.inj h]

theorem exists_of_isOk {ε α : Type} {r : Except ε α} (h : r.isOk = true) : ∃ a, r = .ok a := by
  cases r with
  | error e => cases h
  | ok a => exact ⟨a, rfl⟩

theorem exists_of_bind_eq_ok {ε α β : Type} {x : Except ε α} {f : α → Except ε β} {b : β}
    (h : (x >>= f) = .ok b) : ∃ a, x = .ok a ∧ f a = .ok b := by
  cases x with
  | error e => cases h
  | ok a => exact ⟨a, rfl, h⟩

/-! ### Mapping -/

theorem mapM_eq_ok_iff {ε α β : Type} {f : α → Except ε β} {xs : List α} {ys : List β} :
    xs.mapM f = .ok ys ↔ List.Forall₂ (fun x y => f x = .ok y) xs ys := by
  induction xs generalizing ys with
  | nil =>
    rw [List.mapM_nil, List.forall₂_nil_left_iff]
    exact ⟨fun h => (Except.ok.inj h).symm, fun h => by rw [h]; rfl⟩
  | cons x xs ih =>
    rw [List.mapM_cons, List.forall₂_cons_left_iff]
    constructor
    · intro h
      cases hx : f x with
      | error e =>
        rw [hx] at h
        cases h
      | ok first =>
        cases hxs : xs.mapM f with
        | error e =>
          rw [hx, hxs] at h
          cases h
        | ok later =>
          rw [hx, hxs] at h
          exact ⟨first, later, rfl, ih.1 hxs, (Except.ok.inj h).symm⟩
    · rintro ⟨first, later, hx, hxs, rfl⟩
      rw [hx, ih.2 hxs]
      rfl

/-- Mapping ends with the first member that cannot be mapped. -/
theorem mapM_eq_error_iff {ε α β : Type} {f : α → Except ε β} {xs : List α} {e : ε} :
    xs.mapM f = .error e ↔ ∃ front x back, xs = front ++ x :: back ∧
      (∀ y ∈ front, ∃ z, f y = .ok z) ∧ f x = .error e := by
  induction xs with
  | nil =>
    rw [List.mapM_nil]
    exact ⟨nofun, fun ⟨front, x, back, h, _⟩ => absurd h (by simp)⟩
  | cons x xs ih =>
    rw [List.mapM_cons]
    cases hx : f x with
    | error cause =>
      constructor
      · intro h
        have hcause : cause = e := Except.error.inj h
        exact ⟨[], x, xs, rfl, nofun, hcause ▸ hx⟩
      · rintro ⟨front, y, back, hxs, hfront, hy⟩
        cases front with
        | nil =>
          obtain ⟨rfl, -⟩ := List.cons.inj hxs
          have hcause : cause = e := Except.error.inj (hx.symm.trans hy)
          rw [hcause]
          rfl
        | cons z front =>
          obtain ⟨rfl, -⟩ := List.cons.inj hxs
          obtain ⟨w, hw⟩ := hfront x List.mem_cons_self
          rw [hx] at hw
          cases hw
    | ok first =>
      have hlater : (do let ys ← xs.mapM f; pure (first :: ys)) = .error e ↔
          xs.mapM f = .error e := by
        cases xs.mapM f with
        | error cause => exact Iff.rfl
        | ok later => exact ⟨nofun, nofun⟩
      refine hlater.trans (ih.trans ?_)
      constructor
      · rintro ⟨front, y, back, rfl, hfront, hy⟩
        refine ⟨x :: front, y, back, rfl, ?_, hy⟩
        intro z hz
        rcases List.mem_cons.1 hz with rfl | hz
        · exact ⟨first, hx⟩
        · exact hfront z hz
      · rintro ⟨front, y, back, hxs, hfront, hy⟩
        cases front with
        | nil =>
          obtain ⟨rfl, -⟩ := List.cons.inj hxs
          rw [hx] at hy
          cases hy
        | cons z front =>
          obtain ⟨rfl, rfl⟩ := List.cons.inj hxs
          exact ⟨front, y, back, rfl, fun w hw => hfront w (List.mem_cons_of_mem _ hw), hy⟩

theorem exists_of_mem_forall₂ {α β : Type} {R : α → β → Prop} {xs : List α} {ys : List β}
    (h : List.Forall₂ R xs ys) {x : α} (hx : x ∈ xs) : ∃ y ∈ ys, R x y := by
  induction h with
  | nil => cases hx
  | cons hR hrest ih =>
    rcases List.mem_cons.1 hx with rfl | hx
    · exact ⟨_, List.mem_cons_self, hR⟩
    · obtain ⟨y, hy, hRy⟩ := ih hx
      exact ⟨y, List.mem_cons_of_mem _ hy, hRy⟩

theorem exists_of_mem_mapM {ε α β : Type} {f : α → Except ε β} {xs : List α} {ys : List β}
    (h : xs.mapM f = .ok ys) {y : β} (hy : y ∈ ys) : ∃ x ∈ xs, f x = .ok y :=
  exists_of_mem_forall₂ (List.Forall₂.flip (R := fun y x => f x = .ok y) (mapM_eq_ok_iff.1 h)) hy

end GrammarKit
