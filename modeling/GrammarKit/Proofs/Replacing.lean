import GrammarKit.Proofs.PatternPlaces

/-!
# Replacing from left to right

What one place contributes to the matches of a text: either a match starts there, and the search
goes on behind it, or none does, and the search goes on at the next place. The text between the
matches is kept. What is carried over both holds of a text and the text with its matches replaced.
A text is cut where what is matched falls away.
-/

namespace GrammarKit.Regex.Pattern

open Text

variable {p : Pattern} {nonEmpty : Bool} {n : Nat}

theorem firstWithin_of_some {cur : Cursor} {m : Match}
    (h : p.matchAt nonEmpty cur = some m) : p.firstWithin n nonEmpty cur = some m := by
  cases n with
  | zero => exact h
  | succ n => simp only [firstWithin, h]

theorem firstWithin_of_none {front back : Text} {c : Char}
    (h : p.matchAt nonEmpty (.between front (c :: back)) = none) :
    p.firstWithin (n + 1) nonEmpty (.between front (c :: back)) =
      p.firstWithin n false (.between (front ++ [c]) back) := by
  simp only [firstWithin, h, Cursor.next_between_cons]

theorem matchesFrom_of_some {cur : Cursor} {m : Match} (h : p.matchAt nonEmpty cur = some m) :
    p.matchesFrom (n + 1) nonEmpty cur = m :: p.matchesFrom n m.isEmpty m.stop := by
  rw [matchesFrom, firstWithin_of_some h]

theorem matchesFrom_of_none {front back : Text} {c : Char}
    (h : p.matchAt nonEmpty (.between front (c :: back)) = none) :
    p.matchesFrom (n + 1) nonEmpty (.between front (c :: back)) =
      p.matchesFrom (n + 1) false (.between (front ++ [c]) back) := by
  rw [matchesFrom, matchesFrom, Cursor.left_between, List.length_cons, firstWithin_of_none h,
    Cursor.left_between]

theorem matchesFrom_end {front : Text} (h : p.matchAt nonEmpty (.between front []) = none) :
    p.matchesFrom (n + 1) nonEmpty (.between front []) = [] := by
  have hnone : p.firstWithin 0 nonEmpty (.between front []) = none := h
  rw [matchesFrom, Cursor.left_between, List.length_nil, hnone]

theorem matchesFrom_skip {front stretch back : Text} (hne : stretch ≠ [])
    (h : ∀ passed c ahead, stretch = passed ++ c :: ahead → ∀ nonEmpty,
      p.matchAt nonEmpty (.between (front ++ passed) (c :: (ahead ++ back))) = none) :
    p.matchesFrom (n + 1) nonEmpty (.between front (stretch ++ back)) =
      p.matchesFrom (n + 1) false (.between (front ++ stretch) back) := by
  induction stretch generalizing front nonEmpty with
  | nil => exact absurd rfl hne
  | cons c stretch ih =>
    have hhere := h [] c stretch rfl nonEmpty
    rw [List.append_nil] at hhere
    rw [List.cons_append, matchesFrom_of_none hhere]
    cases stretch with
    | nil => rfl
    | cons d stretch =>
      have hrest : p.matchesFrom (n + 1) false (.between (front ++ [c]) (d :: stretch ++ back)) =
          p.matchesFrom (n + 1) false (.between (front ++ [c] ++ d :: stretch) back) := by
        apply ih (by simp)
        intro passed e ahead he
        have hlater := h (c :: passed) e ahead (by rw [he, List.cons_append])
        rw [List.append_assoc, List.singleton_append]
        exact hlater
      rw [hrest, List.append_assoc, List.singleton_append]

/-- A search from a place in front of a match finds some match. -/
theorem exists_matchesFrom {front passed rest : Text} {m : Match}
    (h : p.matchAt false (.between (front ++ passed) rest) = some m) :
    ∃ before behind first later, p.matchAt false (.between before behind) = some first ∧
      p.matchesFrom (n + 1) false (.between front (passed ++ rest)) = first :: later := by
  induction passed generalizing front with
  | nil =>
    rw [List.append_nil] at h
    exact ⟨front, rest, m, _, h, matchesFrom_of_some h⟩
  | cons c passed ih =>
    cases hhere : p.matchAt false (.between front (c :: (passed ++ rest))) with
    | some first => exact ⟨front, _, first, _, hhere, matchesFrom_of_some hhere⟩
    | none =>
      rw [List.cons_append, matchesFrom_of_none hhere]
      apply ih
      rw [List.append_assoc, List.singleton_append]
      exact h

variable {ε : Type} {replacement : Match → Except ε Text}

theorem stitch_nil (front back : Text) :
    stitch replacement (.between front back) [] = .ok back := rfl

theorem stitch_cons {front kept rest new result : Text} {m : Match} {later : List Match}
    (hstart : m.start = .between (front ++ kept) rest) (hnew : replacement m = .ok new)
    (hresult : stitch replacement m.stop later = .ok result) :
    stitch replacement (.between front (kept ++ rest)) (m :: later) =
      .ok (kept ++ new ++ result) := by
  have hkept : (Cursor.between front (kept ++ rest)).upTo m.start = kept := by
    rw [hstart, Cursor.upTo_between]
  simp only [stitch, hnew, hresult, hkept]
  rfl

/-- The text behind `front` when `kept` has been passed without a match and the search goes on in
front of `back`. -/
def replacedFrom (p : Pattern) (replacement : Match → Except ε Text) (n : Nat) (nonEmpty : Bool)
    (front kept back : Text) : Except ε Text :=
  stitch replacement (.between front (kept ++ back))
    (p.matchesFrom n nonEmpty (.between (front ++ kept) back))

theorem replacedFrom_end {front kept : Text}
    (h : p.matchAt nonEmpty (.between (front ++ kept) []) = none) :
    p.replacedFrom replacement (n + 1) nonEmpty front kept [] = .ok kept := by
  rw [replacedFrom, matchesFrom_end h, stitch_nil, List.append_nil]

theorem replacedFrom_kept {front kept back : Text} {c : Char}
    (h : p.matchAt nonEmpty (.between (front ++ kept) (c :: back)) = none) :
    p.replacedFrom replacement (n + 1) nonEmpty front kept (c :: back) =
      p.replacedFrom replacement (n + 1) false front (kept ++ [c]) back := by
  rw [replacedFrom, matchesFrom_of_none h, replacedFrom, List.append_assoc, List.append_assoc,
    List.singleton_append]

theorem replacedFrom_skip {front kept stretch back : Text} (hne : stretch ≠ [])
    (h : ∀ passed c ahead, stretch = passed ++ c :: ahead → ∀ nonEmpty,
      p.matchAt nonEmpty (.between (front ++ kept ++ passed) (c :: (ahead ++ back))) = none) :
    p.replacedFrom replacement (n + 1) nonEmpty front kept (stretch ++ back) =
      p.replacedFrom replacement (n + 1) false front (kept ++ stretch) back := by
  rw [replacedFrom, matchesFrom_skip hne h, replacedFrom, List.append_assoc, List.append_assoc]

theorem replacedFrom_match {front kept back front' back' new result : Text} {m : Match}
    (hmatch : p.matchAt nonEmpty (.between (front ++ kept) back) = some m)
    (hstart : m.start = .between (front ++ kept) back) (hstop : m.stop = .between front' back')
    (hnew : replacement m = .ok new)
    (hresult : ∀ nonEmpty, p.replacedFrom replacement n nonEmpty front' [] back' = .ok result) :
    p.replacedFrom replacement (n + 1) nonEmpty front kept back = .ok (kept ++ new ++ result) := by
  have hlater := hresult m.isEmpty
  rw [replacedFrom, List.append_nil, List.nil_append, ← hstop] at hlater
  rw [replacedFrom, matchesFrom_of_some hmatch]
  exact stitch_cons hstart hnew hlater

/-- A text without a match stays as it is. -/
theorem replaceAll_of_forall_none {t : Text} (h : ∀ nonEmpty front back, front ++ back = t →
    p.matchAt nonEmpty (.between front back) = none) : p.replaceAll replacement t = .ok t := by
  have hend : p.replacedFrom replacement (2 * t.length + 2) false [] t [] = .ok t :=
    replacedFrom_end (h false t [] (List.append_nil t))
  have hall : p.replaceAll replacement t =
      p.replacedFrom replacement (2 * t.length + 2) false [] [] t := rfl
  by_cases ht : t = []
  · subst ht
    exact hend
  · have hskip : p.replacedFrom replacement (2 * t.length + 2) false [] [] (t ++ []) =
        p.replacedFrom replacement (2 * t.length + 2) false [] t [] := by
      apply replacedFrom_skip ht
      intro passed c ahead he nonEmpty
      exact h nonEmpty passed _ (by simp [he])
    rw [List.append_nil] at hskip
    rw [hall, hskip, hend]

/-- Where there is a match and none can be replaced, replacing fails. -/
theorem replaceAll_eq_error {front back : Text} {m : Match} {e : ε}
    (hmatch : p.matchAt false (.between front back) = some m)
    (hfail : ∀ front back m, p.matchAt false (.between front back) = some m →
      replacement m = .error e) :
    p.replaceAll replacement (front ++ back) = .error e := by
  have hstart : p.matchAt false (.between ([] ++ front) back) = some m := hmatch
  obtain ⟨before, behind, first, later, hfirst, hfound⟩ := exists_matchesFrom hstart
  have hall : p.allMatches (front ++ back) = first :: later := hfound
  rw [replaceAll, hall, stitch, hfail before behind first hfirst]
  rfl

/-- A relation between texts and what replacing makes of them, which a text has from every rest of
it: over a character that is kept, and over a match with what is put in its place. -/
structure Carried (p : Pattern) (replacement : Match → Except ε Text) (R : Text → Text → Prop) :
    Prop where
  nil : R [] []
  kept : ∀ c old new, R old new → R (c :: old) (c :: new)
  replaced : ∀ nonEmpty front back m, p.matchAt nonEmpty (.between front back) = some m →
    ∃ taken rest put, back = taken ++ rest ∧ m.start = .between front back ∧
      m.stop = .between (front ++ taken) rest ∧ replacement m = .ok put ∧
      ∀ new, R rest new → R (taken ++ rest) (put ++ new)

theorem exists_replacedFrom {R : Text → Text → Prop} (hR : Carried p replacement R) (n : Nat)
    (nonEmpty : Bool) (front kept back : Text) :
    ∃ new, p.replacedFrom replacement n nonEmpty front kept back = .ok (kept ++ new) ∧
      R back new := by
  have hsame : ∀ t, R t t := by
    intro t
    induction t with
    | nil => exact hR.nil
    | cons c t ih => exact hR.kept c t t ih
  induction n generalizing nonEmpty front kept back with
  | zero => exact ⟨back, rfl, hsame back⟩
  | succ n ihMatches =>
    have hbehind : ∀ nonEmpty kept back m,
        p.matchAt nonEmpty (.between (front ++ kept) back) = some m →
        ∃ new, p.replacedFrom replacement (n + 1) nonEmpty front kept back = .ok (kept ++ new) ∧
          R back new := by
      intro nonEmpty kept back m hm
      obtain ⟨taken, rest, put, rfl, hstart, hstop, hput, hcarry⟩ := hR.replaced _ _ _ _ hm
      obtain ⟨new, hnew, hrest⟩ := ihMatches m.isEmpty (front ++ kept ++ taken) [] rest
      refine ⟨put ++ new, ?_, hcarry new hrest⟩
      rw [replacedFrom, List.append_nil, List.nil_append, List.nil_append, ← hstop] at hnew
      rw [replacedFrom, matchesFrom_of_some hm, ← List.append_assoc kept put new]
      exact stitch_cons hstart hput hnew
    induction back generalizing nonEmpty kept with
    | nil =>
      cases hhere : p.matchAt nonEmpty (.between (front ++ kept) []) with
      | none => exact ⟨[], by rw [replacedFrom_end hhere, List.append_nil], hR.nil⟩
      | some m => exact hbehind nonEmpty kept [] m hhere
    | cons c back ih =>
      cases hhere : p.matchAt nonEmpty (.between (front ++ kept) (c :: back)) with
      | none =>
        obtain ⟨new, hnew, hrest⟩ := ih false (kept ++ [c])
        refine ⟨c :: new, ?_, hR.kept c back new hrest⟩
        rw [List.append_assoc, List.singleton_append] at hnew
        rw [← hnew, replacedFrom_kept hhere]
      | some m => exact hbehind nonEmpty kept (c :: back) m hhere

/-- Replacing succeeds if every match can be replaced, and its result is related to the text. -/
theorem exists_replaceAll {R : Text → Text → Prop} (hR : Carried p replacement R) (t : Text) :
    ∃ new, p.replaceAll replacement t = .ok new ∧ R t new :=
  exists_replacedFrom hR (2 * t.length + 2) false [] [] t

/-! ### Cutting -/

/-- The texts between matches, the first of them from a place on. -/
def textsBetween : Cursor → List Match → List Text
  | cur, [] => [cur.after]
  | cur, m :: later => cur.upTo m.start :: textsBetween m.stop later

/-- What is left of a text between the matches of a pattern. -/
def cut (p : Pattern) (t : Text) : List Text := textsBetween (Cursor.start t) (p.allMatches t)

variable {front kept back : Text}

/-- The texts behind `front` when `kept` has been passed without a match and the search goes on in
front of `back`. -/
def cutFrom (p : Pattern) (n : Nat) (front kept back : Text) : List Text :=
  textsBetween (.between front (kept ++ back))
    (p.matchesFrom n false (.between (front ++ kept) back))

theorem cutFrom_end (h : p.matchAt false (.between (front ++ kept) []) = none) :
    p.cutFrom (n + 1) front kept [] = [kept] := by
  rw [cutFrom, matchesFrom_end h, List.append_nil]
  rfl

theorem cutFrom_kept {c : Char} (h : p.matchAt false (.between (front ++ kept) (c :: back)) = none) :
    p.cutFrom (n + 1) front kept (c :: back) = p.cutFrom (n + 1) front (kept ++ [c]) back := by
  rw [cutFrom, matchesFrom_of_none h, cutFrom, List.append_assoc, List.append_assoc,
    List.singleton_append]

theorem cutFrom_match {front' back' : Text} {m : Match}
    (hmatch : p.matchAt false (.between (front ++ kept) back) = some m)
    (hstart : m.start = .between (front ++ kept) back) (hstop : m.stop = .between front' back')
    (htaken : m.isEmpty = false) :
    p.cutFrom (n + 1) front kept back = kept :: p.cutFrom n front' [] back' := by
  rw [cutFrom, matchesFrom_of_some hmatch, textsBetween, hstart, Cursor.upTo_between, htaken, hstop,
    cutFrom, List.append_nil, List.nil_append]

end GrammarKit.Regex.Pattern
