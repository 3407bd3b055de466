import GrammarKit.Text.Basic
import GrammarKit.Text.WordTable

/-!
# Word characters

Which characters words are made of, and the cutting of a text into runs of word characters and
runs of others.
-/

namespace GrammarKit.Text

/-- Letters, characters with a numeric value, and the underscore. -/
def isWord (c : Char) : Bool := wordRanges.covers c.toNat

def isDecimal (c : Char) : Bool := decimalRanges.covers c.toNat

def isDigit (c : Char) : Bool := digitRanges.covers c.toNat

/-- The longest runs of characters on which `p` agrees, in order. -/
def runs (p : Char → Bool) : Text → List Text
  | [] => []
  | c :: rest =>
    match runs p rest with
    | (d :: more) :: later =>
      if p c = p d then (c :: d :: more) :: later else [c] :: (d :: more) :: later
    | later => [c] :: later

def wordRuns (t : Text) : List Text := runs isWord t

theorem runs_flatten (p : Char → Bool) (t : Text) : (runs p t).flatten = t := by
  induction t with
  | nil => rfl
  | cons c rest ih =>
    unfold runs
    split
    · next d more later h =>
      rw [h] at ih
      split <;> simp_all
    · simp_all

theorem runs_uniform {p : Char → Bool} {t run : Text} (h : run ∈ runs p t) :
    run ≠ [] ∧ ∀ c ∈ run, ∀ d ∈ run, p c = p d := by
  induction t generalizing run with
  | nil => simp [runs] at h
  | cons c rest ih =>
    unfold runs at h
    split at h
    · next d more later hr =>
      have hd := (ih (hr ▸ List.mem_cons_self)).2 d List.mem_cons_self
      split at h
      · next hp =>
        rcases List.mem_cons.1 h with rfl | h
        · have one : ∀ z ∈ c :: d :: more, p d = p z := by
            intro z hz
            rcases List.mem_cons.1 hz with rfl | hz
            · exact hp.symm
            · exact hd z hz
          exact ⟨by simp, fun x hx y hy => (one x hx).symm.trans (one y hy)⟩
        · exact ih (hr ▸ List.mem_cons_of_mem _ h)
      · rcases List.mem_cons.1 h with rfl | h
        · simp
        · exact ih (hr ▸ h)
    · rcases List.mem_cons.1 h with rfl | h
      · simp
      · exact ih h

end GrammarKit.Text
