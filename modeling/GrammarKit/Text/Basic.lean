/-!
# Text

Text is a list of characters, so that every scan of it is a recursion on the list. Texts are
ordered by code point, first difference first, a text before its continuations.
-/

namespace GrammarKit

/-- Text, character by character. -/
abbrev Text := List Char

/-- Inserts behind the members that come strictly before the new one. -/
def insertBy {α : Type} (lt : α → α → Bool) (x : α) : List α → List α
  | [] => [x]
  | y :: ys => if lt y x then y :: insertBy lt x ys else x :: y :: ys

/-- Sorting that keeps the order of members of which neither comes before the other. -/
def sortBy {α : Type} (lt : α → α → Bool) (xs : List α) : List α :=
  xs.foldr (insertBy lt) []

theorem insertBy_perm {α : Type} (lt : α → α → Bool) (x : α) (xs : List α) :
    (insertBy lt x xs).Perm (x :: xs) := by
  induction xs with
  | nil => exact List.Perm.refl _
  | cons y ys ih =>
    unfold insertBy
    split
    · exact (List.Perm.cons y ih).trans (List.Perm.swap x y ys)
    · exact List.Perm.refl _

theorem sortBy_perm {α : Type} (lt : α → α → Bool) (xs : List α) : (sortBy lt xs).Perm xs := by
  induction xs with
  | nil => exact List.Perm.refl _
  | cons x xs ih => exact (insertBy_perm lt x _).trans (List.Perm.cons x ih)

namespace Text

/-- The order of texts by code point, as a test. -/
def before (s t : Text) : Bool := decide (s < t)

def sorted (ts : List Text) : List Text := sortBy before ts

/-- Inserts a text that is not yet there at its place by code point. -/
def insertNew (t : Text) : List Text → List Text
  | [] => [t]
  | u :: us => if t < u then t :: u :: us else if t = u then u :: us else u :: insertNew t us

theorem mem_insertNew {t u : Text} {us : List Text} : t ∈ insertNew u us ↔ t = u ∨ t ∈ us := by
  induction us with
  | nil => simp [insertNew]
  | cons v vs ih =>
    unfold insertNew
    split
    · simp
    · split
      · next h => subst h; simp
      · simp only [List.mem_cons, ih]
        constructor
        · rintro (h | h | h) <;> simp [h]
        · rintro (h | h | h) <;> simp [h]

/-- The different texts of a list, sorted by code point. -/
def distinct (ts : List Text) : List Text := ts.foldr insertNew []

theorem mem_distinct {t : Text} {ts : List Text} : t ∈ distinct ts ↔ t ∈ ts := by
  induction ts with
  | nil => simp [distinct]
  | cons u us ih =>
    rw [show distinct (u :: us) = insertNew u (distinct us) from rfl, mem_insertNew, ih,
      List.mem_cons]

/-- The pieces of a text between the characters that pass a test. -/
def splitWhen (p : Char → Bool) : Text → List Text
  | [] => [[]]
  | c :: rest =>
    if p c then [] :: splitWhen p rest
    else match splitWhen p rest with
      | [] => [[c]]
      | piece :: pieces => (c :: piece) :: pieces

theorem splitWhen_ne_nil (p : Char → Bool) (t : Text) : splitWhen p t ≠ [] := by
  cases t with
  | nil => simp [splitWhen]
  | cons c rest =>
    unfold splitWhen
    split
    · simp
    · split <;> simp

theorem splitWhen_of_forall {p : Char → Bool} {t : Text} (h : ∀ c ∈ t, p c = false) :
    splitWhen p t = [t] := by
  induction t with
  | nil => rfl
  | cons c rest ih => simp [splitWhen, h c, ih fun d hd => h d (List.mem_cons_of_mem _ hd)]

theorem splitWhen_append_cons {p : Char → Bool} {c : Char} (hc : p c = true) (s t : Text) :
    splitWhen p (s ++ c :: t) = splitWhen p s ++ splitWhen p t := by
  induction s with
  | nil => simp [splitWhen, hc]
  | cons d rest ih =>
    cases h : splitWhen p rest with
    | nil => exact absurd h (splitWhen_ne_nil p rest)
    | cons piece pieces => by_cases hd : p d <;> simp [splitWhen, hd, ih, h]

theorem eq_false_of_mem_splitWhen {p : Char → Bool} {t piece : Text} (h : piece ∈ splitWhen p t)
    {c : Char} (hc : c ∈ piece) : p c = false := by
  induction t generalizing piece with
  | nil => simp_all [splitWhen]
  | cons d rest ih =>
    unfold splitWhen at h
    split at h
    · rcases List.mem_cons.1 h with rfl | h
      · simp at hc
      · exact ih h hc
    · next hd =>
      split at h
      · simp_all
      · next first pieces hp =>
        rcases List.mem_cons.1 h with rfl | h
        · rcases List.mem_cons.1 hc with rfl | hc
          · simpa using hd
          · exact ih (hp ▸ List.mem_cons_self) hc
        · exact ih (hp ▸ List.mem_cons_of_mem _ h) hc

/-- The pieces of a text between the places of a separating character. -/
def splitOn (sep : Char) (t : Text) : List Text := splitWhen (· = sep) t

/-- What comes before and after the first place of `mark`. -/
def splitFirst (mark : Text) : Text → Option (Text × Text)
  | [] => if mark.isEmpty then some ([], []) else none
  | c :: rest =>
    match mark.isPrefixOf? (c :: rest) with
    | some after => some ([], after)
    | none => (splitFirst mark rest).map fun (front, after) => (c :: front, after)

theorem append_of_stripped {mark t after : Text} (h : mark.isPrefixOf? t = some after) :
    t = mark ++ after := by
  induction mark generalizing t with
  | nil => exact Option.some.inj h
  | cons m mark ih =>
    cases t with
    | nil => cases h
    | cons c t =>
      have hstep : (m :: mark).isPrefixOf? (c :: t) =
          if m == c then mark.isPrefixOf? t else none := rfl
      rw [hstep] at h
      split at h
      · next hc => rw [ih h, eq_of_beq hc]; rfl
      · simp at h

theorem append_of_splitFirst {mark t front after : Text}
    (h : splitFirst mark t = some (front, after)) : t = front ++ (mark ++ after) := by
  induction t generalizing front with
  | nil => cases mark <;> simp_all [splitFirst]
  | cons c rest ih =>
    unfold splitFirst at h
    split at h
    · next found hp =>
      simp only [Option.some.injEq, Prod.mk.injEq] at h
      obtain ⟨rfl, rfl⟩ := h
      rw [List.nil_append]
      exact append_of_stripped hp
    · obtain ⟨⟨f, a⟩, hr, he⟩ := Option.map_eq_some_iff.1 h
      simp only [Prod.mk.injEq] at he
      obtain ⟨rfl, rfl⟩ := he
      rw [ih hr, List.cons_append]

/-- Texts written one after another with `sep` between them. -/
def join (sep : Text) (ts : List Text) : Text := sep.intercalate ts

theorem join_singleton (sep t : Text) : join sep [t] = t := List.intercalate_singleton

theorem join_cons_cons (sep s t : Text) (ts : List Text) :
    join sep (s :: t :: ts) = s ++ (sep ++ join sep (t :: ts)) := by
  simp [join, List.intercalate]

theorem join_cons_append (sep : Text) (c : Char) (s : Text) (ts : List Text) :
    join sep ((c :: s) :: ts) = c :: join sep (s :: ts) := by
  cases ts with
  | nil => simp [join, List.intercalate]
  | cons t ts => simp [join_cons_cons]

theorem join_splitOn (sep : Char) (t : Text) : join [sep] (splitOn sep t) = t := by
  induction t with
  | nil => simp [splitOn, splitWhen, join, List.intercalate]
  | cons c rest ih =>
    rw [splitOn] at ih ⊢
    cases h : splitWhen (fun d => decide (d = sep)) rest with
    | nil => exact absurd h (splitWhen_ne_nil _ rest)
    | cons piece pieces =>
      rw [h] at ih
      by_cases hc : c = sep
      · simp [splitWhen, hc, h, join_cons_cons, ih]
      · simp [splitWhen, hc, h, join_cons_append, ih]

/-- Without `tail` at the end, if it is there. -/
def dropEnd? (tail t : Text) : Option Text :=
  if tail.isSuffixOf t then some (t.take (t.length - tail.length)) else none

theorem dropEnd?_eq_some_iff {tail t front : Text} :
    dropEnd? tail t = some front ↔ t = front ++ tail := by
  unfold dropEnd?
  split
  · next h =>
    obtain ⟨s, rfl⟩ := List.isSuffixOf_iff_suffix.1 h
    simp [eq_comm]
  · next h =>
    simp only [reduceCtorEq, false_iff]
    rintro rfl
    exact h (List.isSuffixOf_iff_suffix.2 (List.suffix_append _ _))

/-- The digits of a number, as text. -/
def ofNat (n : Nat) : Text := Nat.toDigits 10 n

end Text
end GrammarKit
