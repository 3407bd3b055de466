import GrammarKit.Text.Basic
import Mathlib.Data.Char
import Mathlib.Data.List.Lex
import Mathlib.Data.List.Nodup
import Mathlib.Order.Lattice

/-!
# Sorted lists

Sorting puts every member before those that it does not come behind. Texts are sorted in the order
of their code points, and where no text comes twice, each comes strictly before the next.
-/

namespace GrammarKit

section

variable {α : Type} {lt : α → α → Bool} {R : α → α → Prop}
  (htrans : ∀ x y z, R x y → R y z → R x z) (hlt : ∀ x y, lt x y = true → R x y)
  (hnot : ∀ x y, lt x y = false → R y x)
include htrans hlt hnot

theorem pairwise_insertBy {x : α} {xs : List α} (h : xs.Pairwise R) :
    (insertBy lt x xs).Pairwise R := by
  induction xs with
  | nil => exact List.pairwise_singleton _ _
  | cons y ys ih =>
    obtain ⟨hy, hys⟩ := List.pairwise_cons.1 h
    unfold insertBy
    split
    · next hyx =>
      refine List.pairwise_cons.2 ⟨?_, ih hys⟩
      intro z hz
      rcases List.mem_cons.1 ((insertBy_perm lt x ys).mem_iff.1 hz) with rfl | hz
      · exact hlt y z hyx
      · exact hy z hz
    · next hyx =>
      have hxy : R x y := hnot y x (eq_false_of_ne_true hyx)
      refine List.pairwise_cons.2 ⟨?_, h⟩
      intro z hz
      rcases List.mem_cons.1 hz with rfl | hz
      · exact hxy
      · exact htrans x y z hxy (hy z hz)

theorem pairwise_sortBy (xs : List α) : (sortBy lt xs).Pairwise R := by
  induction xs with
  | nil => exact List.Pairwise.nil
  | cons x xs ih => exact pairwise_insertBy htrans hlt hnot ih

end

/-! ### Sorting by a key -/

section

variable {α β : Type} [LinearOrder β] {k : α → β} {lt : α → α → Bool}
  (hlt : ∀ x y, lt x y = true ↔ k x < k y)
include hlt

theorem pairwise_le_sortBy (xs : List α) : (sortBy lt xs).Pairwise fun x y => k x ≤ k y := by
  apply pairwise_sortBy
  · exact fun _ _ _ => le_trans
  · exact fun x y hless => le_of_lt ((hlt x y).1 hless)
  · intro x y hnot
    refine not_lt.1 fun hless => ?_
    rw [(hlt x y).2 hless] at hnot
    cases hnot

theorem pairwise_lt_sortBy {xs : List α} (h : (xs.map k).Nodup) :
    (sortBy lt xs).Pairwise fun x y => k x < k y := by
  have hnodup : ((sortBy lt xs).map k).Nodup := ((sortBy_perm lt xs).map k).nodup_iff.2 h
  have hboth := (pairwise_le_sortBy hlt xs).and (List.pairwise_map.1 hnodup)
  exact hboth.imp fun hxy => lt_of_le_of_ne hxy.1 hxy.2

/-- Where no key comes twice, it makes no difference in what order the members come. -/
theorem sortBy_eq_of_perm {xs ys : List α} (h : (xs.map k).Nodup) (hperm : xs.Perm ys) :
    sortBy lt xs = sortBy lt ys := by
  have hys : (ys.map k).Nodup := (hperm.map k).nodup_iff.1 h
  refine List.Perm.eq_of_pairwise ?_ (pairwise_lt_sortBy hlt h) (pairwise_lt_sortBy hlt hys) ?_
  · intro x y _ _ hxy hyx
    exact absurd hxy (lt_asymm hyx)
  · exact (sortBy_perm lt xs).trans (hperm.trans (sortBy_perm lt ys).symm)

end

namespace Text

theorem before_iff (s t : Text) : before s t = true ↔ s < t := decide_eq_true_iff

theorem pairwise_lt_sorted {ts : List Text} (h : ts.Nodup) : (sorted ts).Pairwise (· < ·) :=
  pairwise_lt_sortBy before_iff (by rwa [List.map_id'])

theorem mem_sorted {t : Text} {ts : List Text} : t ∈ sorted ts ↔ t ∈ ts :=
  (sortBy_perm before ts).mem_iff

/-! ### Different texts -/

theorem pairwise_insertNew {t : Text} {ts : List Text} (h : ts.Pairwise (· < ·)) :
    (insertNew t ts).Pairwise (· < ·) := by
  induction ts with
  | nil => exact List.pairwise_singleton _ _
  | cons u us ih =>
    obtain ⟨hu, hus⟩ := List.pairwise_cons.1 h
    unfold insertNew
    split
    · next hlt =>
      refine List.pairwise_cons.2 ⟨?_, h⟩
      intro v hv
      rcases List.mem_cons.1 hv with rfl | hv
      · exact hlt
      · exact hlt.trans (hu v hv)
    · next hle =>
      split
      · exact h
      · next hne =>
        have hlt : u < t := lt_of_le_of_ne (not_lt.1 hle) fun he => hne he.symm
        refine List.pairwise_cons.2 ⟨?_, ih hus⟩
        intro v hv
        rcases mem_insertNew.1 hv with rfl | hv
        · exact hlt
        · exact hu v hv

theorem pairwise_distinct (ts : List Text) : (distinct ts).Pairwise (· < ·) := by
  induction ts with
  | nil => exact List.Pairwise.nil
  | cons t ts ih => exact pairwise_insertNew ih

theorem nodup_distinct (ts : List Text) : (distinct ts).Nodup :=
  (pairwise_distinct ts).imp fun h => h.ne

/-- Lists with the same members have the same different texts, in the same order. -/
theorem distinct_eq_of_mem_iff {ts us : List Text} (h : ∀ t, t ∈ ts ↔ t ∈ us) :
    distinct ts = distinct us := by
  have hperm : (distinct ts).Perm (distinct us) := by
    rw [List.perm_ext_iff_of_nodup (nodup_distinct ts) (nodup_distinct us)]
    intro t
    rw [mem_distinct, mem_distinct, h]
  refine hperm.eq_of_pairwise ?_ (pairwise_distinct ts) (pairwise_distinct us)
  exact fun t u _ _ htu hut => absurd hut (lt_asymm htu)

end Text
end GrammarKit
