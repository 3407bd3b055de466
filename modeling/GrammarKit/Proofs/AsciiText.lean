import GrammarKit.Text.Case
import Mathlib.Data.List.Basic

/-!
# ASCII texts

What holds of every ASCII character is found by going through them. The lower case of an ASCII text
is the lower case of each of its letters.
-/

namespace GrammarKit.Text

def isAscii (c : Char) : Bool := c.toNat < 128

theorem of_isAscii {P : Char → Prop} (h : ∀ n < 128, P (Char.ofNat n)) {c : Char}
    (hc : isAscii c = true) : P c := by
  have hcode := h c.toNat (of_decide_eq_true hc)
  rwa [Char.ofNat_toNat] at hcode

theorem isAlpha_iff {c : Char} : c.isAlpha = true ↔
    (65 ≤ c.toNat ∧ c.toNat ≤ 90) ∨ (97 ≤ c.toNat ∧ c.toNat ≤ 122) := by
  have hparts : c.isAlpha = (decide (c.val ≥ 'A'.val ∧ c.val ≤ 'Z'.val) ||
      (decide (c.val ≥ 'a'.val) && decide (c.val ≤ 'z'.val))) := rfl
  rw [hparts]
  simp [UInt32.le_iff_toNat_le]

theorem isAlphanum_iff {c : Char} : c.isAlphanum = true ↔
    c.isAlpha = true ∨ (48 ≤ c.toNat ∧ c.toNat ≤ 57) := by
  simp [Char.isAlphanum, Char.isDigit, UInt32.le_iff_toNat_le]

/-! ### Lower case -/

/-- Beyond ASCII, the ASCII lower case changes nothing. -/
theorem toLower_of_not_ascii {c : Char} (hc : isAscii c = false) : c.toLower = c := by
  have hbeyond : ¬ (c.val ≥ 'A'.val ∧ c.val ≤ 'Z'.val) := by
    rintro ⟨-, hle⟩
    have hcode : c.toNat ≤ 90 := UInt32.le_iff_toNat_le.1 hle
    have hascii : ¬ c.toNat < 128 := of_decide_eq_false hc
    omega
  exact dif_neg hbeyond

/-- What the ASCII lower case does not change in any ASCII character, it changes in none. -/
theorem apply_toLower {α : Type} {f : Char → α}
    (h : ∀ n < 128, f (Char.ofNat n).toLower = f (Char.ofNat n)) (c : Char) : f c.toLower = f c := by
  cases hc : isAscii c with
  | true => exact of_isAscii (P := fun c => f c.toLower = f c) h hc
  | false => rw [toLower_of_not_ascii hc]

theorem isAscii_toLower (c : Char) : isAscii c.toLower = isAscii c :=
  apply_toLower (by decide +kernel) c

theorem lowerOne_ascii {c : Char} (hc : isAscii c = true) : lowerOne c = c.toLower :=
  of_isAscii (P := fun c => lowerOne c = c.toLower) (by decide +kernel) hc

theorem toLowerFrom_ascii {t : Text} (ht : ∀ c ∈ t, isAscii c = true) (earlier : Text) :
    toLowerFrom earlier t = t.map Char.toLower := by
  induction t generalizing earlier with
  | nil => rfl
  | cons c t ih =>
    have hc := ht c List.mem_cons_self
    have hsigma : c ≠ 'Σ' := fun he => by
      rw [he] at hc
      exact absurd hc (by decide)
    have hdotted : c ≠ 'İ' := fun he => by
      rw [he] at hc
      exact absurd hc (by decide)
    rw [toLowerFrom, if_neg hsigma, if_neg hdotted, lowerOne_ascii hc,
      ih fun d hd => ht d (List.mem_cons_of_mem c hd)]
    rfl

theorem toLower_ascii {t : Text} (ht : ∀ c ∈ t, isAscii c = true) :
    toLower t = t.map Char.toLower := toLowerFrom_ascii ht []

/-! ### Texts that differ in letter case -/

/-- Two texts that differ in the case of ASCII letters only. -/
def SameButCase (s t : Text) : Prop := s.map Char.toLower = t.map Char.toLower

instance (s t : Text) : Decidable (SameButCase s t) := inferInstanceAs (Decidable (_ = _))

theorem SameButCase.forall {s t : Text} {p : Char → Bool} (h : SameButCase s t)
    (hp : ∀ c, p c.toLower = p c) (hs : ∀ c ∈ s, p c = true) : ∀ c ∈ t, p c = true := by
  intro c hc
  have hmem : c.toLower ∈ s.map Char.toLower := h ▸ List.mem_map_of_mem hc
  obtain ⟨d, hd, hsame⟩ := List.mem_map.1 hmem
  rw [← hp c, ← hsame, hp d, hs d hd]

theorem SameButCase.toLower_eq {s t : Text} (h : SameButCase s t)
    (hs : ∀ c ∈ s, isAscii c = true) : toLower t = toLower s := by
  rw [toLower_ascii hs, toLower_ascii (h.forall isAscii_toLower hs)]
  exact h.symm

end GrammarKit.Text
