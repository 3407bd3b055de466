import GrammarKit.Json.Printer
import Mathlib.Tactic.SplitIfs

/-!
# JSON strings read back

A reader of JSON strings: between two quotes stand characters that are no quote, no backslash and no
control character, and escapes, where a character beyond U+FFFF is two surrogates. What has been
written as a JSON string is read back as it was, and the reader stops behind its closing quote.
-/

namespace GrammarKit

open Text

namespace Json

/-! ### The reader -/

/-- The value of a hexadecimal digit. -/
def hexValue? (c : Char) : Option Nat :=
  if '0' ≤ c ∧ c ≤ '9' then some (c.toNat - '0'.toNat)
  else if 'a' ≤ c ∧ c ≤ 'f' then some (c.toNat - 'a'.toNat + 10)
  else if 'A' ≤ c ∧ c ≤ 'F' then some (c.toNat - 'A'.toNat + 10)
  else none

/-- The number in four hexadecimal digits, and what follows them. -/
def readUnit : Text → Option (Nat × Text)
  | a :: b :: c :: d :: rest =>
    match hexValue? a, hexValue? b, hexValue? c, hexValue? d with
    | some i, some j, some k, some l => some (((i * 16 + j) * 16 + k) * 16 + l, rest)
    | _, _, _, _ => none
  | _ => none

def isHighSurrogate (n : Nat) : Bool := 0xd800 ≤ n && n < 0xdc00

def isLowSurrogate (n : Nat) : Bool := 0xdc00 ≤ n && n < 0xe000

/-- What stands for a character behind a backslash, escapes with digits set aside. -/
def shortEscape? (c : Char) : Option Char :=
  match c with
  | '"' => some '"'
  | '\\' => some '\\'
  | '/' => some '/'
  | 'b' => some '\x08'
  | 'f' => some '\x0c'
  | 'n' => some '\n'
  | 'r' => some '\r'
  | 't' => some '\t'
  | _ => none

/-- The character behind a high surrogate, which takes a low one. -/
def readLow (high : Nat) : Text → Option (Char × Text)
  | '\\' :: 'u' :: t =>
    match readUnit t with
    | some (low, rest) =>
      if isLowSurrogate low then
        some (Char.ofNat (0x10000 + (high - 0xd800) * 0x400 + (low - 0xdc00)), rest)
      else none
    | none => none
  | _ => none

/-- The character that is spelled behind a backslash and a `u`. -/
def readCodePoint (t : Text) : Option (Char × Text) :=
  match readUnit t with
  | some (n, rest) =>
    if isHighSurrogate n then readLow n rest
    else if isLowSurrogate n then none
    else some (Char.ofNat n, rest)
  | none => none

/-- The character that is spelled behind a backslash, and what follows it. -/
def readEscape : Text → Option (Char × Text)
  | [] => none
  | c :: t => if c = 'u' then readCodePoint t else (shortEscape? c).map fun d => (d, t)

/-- The first character of what a string holds, and what follows it. -/
def readChar : Text → Option (Char × Text)
  | [] => none
  | c :: t =>
    if c = '\\' then readEscape t
    else if c = '"' || c.toNat < 0x20 then none
    else some (c, t)

theorem length_readUnit {t rest : Text} {n : Nat} (h : readUnit t = some (n, rest)) :
    rest.length < t.length := by
  unfold readUnit at h
  split at h
  · split at h
    · obtain ⟨-, rfl⟩ := Prod.mk.inj (Option.some.inj h)
      simp only [List.length_cons]
      omega
    · cases h
  · cases h

theorem length_readLow {high : Nat} {t rest : Text} {c : Char}
    (h : readLow high t = some (c, rest)) : rest.length < t.length := by
  unfold readLow at h
  split at h
  · split at h
    · next hunit =>
      split at h
      · obtain ⟨-, rfl⟩ := Prod.mk.inj (Option.some.inj h)
        have hlt := length_readUnit hunit
        simp only [List.length_cons]
        omega
      · cases h
    · cases h
  · cases h

theorem length_readCodePoint {t rest : Text} {c : Char} (h : readCodePoint t = some (c, rest)) :
    rest.length < t.length := by
  unfold readCodePoint at h
  split at h
  · next hunit =>
    have hlt := length_readUnit hunit
    split at h
    · exact Nat.lt_trans (length_readLow h) hlt
    · split at h
      · cases h
      · obtain ⟨-, rfl⟩ := Prod.mk.inj (Option.some.inj h)
        exact hlt
  · cases h

theorem length_readEscape {t rest : Text} {c : Char} (h : readEscape t = some (c, rest)) :
    rest.length < t.length := by
  cases t with
  | nil => cases h
  | cons d t =>
    rw [readEscape] at h
    split at h
    · exact Nat.lt_succ_of_lt (length_readCodePoint h)
    · obtain ⟨e, -, he⟩ := Option.map_eq_some_iff.1 h
      obtain ⟨-, rfl⟩ := Prod.mk.inj he
      exact Nat.lt_succ_self _

theorem length_readChar {t rest : Text} {c : Char} (h : readChar t = some (c, rest)) :
    rest.length < t.length := by
  cases t with
  | nil => cases h
  | cons d t =>
    rw [readChar] at h
    split at h
    · exact Nat.lt_succ_of_lt (length_readEscape h)
    · split at h
      · cases h
      · obtain ⟨-, rfl⟩ := Prod.mk.inj (Option.some.inj h)
        exact Nat.lt_succ_self _

/-- What a string holds up to its closing quote, and what follows that. -/
def readChars (t : Text) : Option (Text × Text) :=
  if t.head? = some '"' then some ([], t.tail)
  else match _h : readChar t with
    | some (c, rest) => (readChars rest).map fun (cs, after) => (c :: cs, after)
    | none => none
termination_by t.length
decreasing_by exact length_readChar ‹_›

/-- The text that a JSON string stands for, and what follows the string. -/
def readString : Text → Option (Text × Text)
  | '"' :: t => readChars t
  | _ => none

theorem readChars_quote (rest : Text) : readChars ('"' :: rest) = some ([], rest) := by
  have hhead : ('"' :: rest).head? = some '"' := rfl
  rw [readChars, if_pos hhead, List.tail_cons]

theorem readChars_of_readChar {t rest : Text} {c : Char} (h : readChar t = some (c, rest)) :
    readChars t = (readChars rest).map fun (cs, after) => (c :: cs, after) := by
  have hquote : t.head? ≠ some '"' := by
    intro hhead
    obtain ⟨tail, rfl⟩ := List.head?_eq_some_iff.1 hhead
    cases h
  rw [readChars, if_neg hquote]
  split
  · next hsome =>
    obtain ⟨rfl, rfl⟩ := Prod.mk.inj (Option.some.inj (h.symm.trans hsome))
    rfl
  · next hnone => cases h.symm.trans hnone

/-! ### Digits -/

theorem hexDigits_one {n : Nat} (h : n < 16) : hexDigits 1 n = [n.digitChar] := by
  rw [hexDigits, Nat.toDigits_of_lt_base h]
  rfl

theorem hexDigits_succ (width n : Nat) :
    hexDigits (width + 2) n = hexDigits (width + 1) (n / 16) ++ [(n % 16).digitChar] := by
  unfold hexDigits
  rw [Nat.toDigits_eq_if (b := 16) (n := n) (by decide)]
  by_cases h : n < 16
  · have hzero : n / 16 = 0 := Nat.div_eq_of_lt h
    rw [if_pos h, hzero, Nat.mod_eq_of_lt h, Nat.toDigits_zero]
    have hzeros : List.replicate (width + 1) '0' = List.replicate width '0' ++ ['0'] :=
      List.replicate_succ'
    exact congrArg (· ++ [n.digitChar]) hzeros
  · have hwidth : ∀ k, width + 2 - (k + 1) = width + 1 - k := by omega
    rw [if_neg h]
    simp only [List.length_append, List.length_singleton, hwidth, List.append_assoc]

theorem hexDigits_four {n : Nat} (h : n < 0x10000) :
    hexDigits 4 n = [(n / 16 / 16 / 16).digitChar, (n / 16 / 16 % 16).digitChar,
      (n / 16 % 16).digitChar, (n % 16).digitChar] := by
  have hfirst : n / 16 / 16 / 16 < 16 := by omega
  rw [hexDigits_succ, hexDigits_succ, hexDigits_succ, hexDigits_one hfirst]
  rfl

theorem hexValue?_digitChar {n : Nat} (h : n < 16) : hexValue? n.digitChar = some n := by
  revert n
  decide

theorem readUnit_hexDigits {n : Nat} (h : n < 0x10000) (rest : Text) :
    readUnit (hexDigits 4 n ++ rest) = some (n, rest) := by
  have hfirst : n / 16 / 16 / 16 < 16 := by omega
  have hlow : ∀ m : Nat, m % 16 < 16 := fun m => Nat.mod_lt m (by decide)
  have hvalue : ((n / 16 / 16 / 16 * 16 + n / 16 / 16 % 16) * 16 + n / 16 % 16) * 16 +
      n % 16 = n := by omega
  rw [hexDigits_four h]
  simp only [List.cons_append, List.nil_append, readUnit, hexValue?_digitChar hfirst,
    hexValue?_digitChar (hlow _), hvalue]

/-! ### What is written is read -/

/-- Characters are no surrogates. -/
theorem toNat_not_surrogate (c : Char) :
    isHighSurrogate c.toNat = false ∧ isLowSurrogate c.toNat = false ∧ c.toNat < 0x110000 := by
  have hvalid : c.toNat < 0xd800 ∨ 0xdfff < c.toNat ∧ c.toNat < 0x110000 := c.valid
  simp only [isHighSurrogate, isLowSurrogate, Bool.and_eq_false_iff, decide_eq_false_iff_not]
  omega

theorem readChar_unitEscape (n : Nat) (rest : Text) :
    readChar (unitEscape n ++ rest) = readCodePoint (hexDigits 4 n ++ rest) := rfl

theorem readLow_unitEscape {high low : Nat} (h : low < 0x10000) (hlow : isLowSurrogate low = true)
    (rest : Text) : readLow high (unitEscape low ++ rest) =
      some (Char.ofNat (0x10000 + (high - 0xd800) * 0x400 + (low - 0xdc00)), rest) := by
  have hshape : unitEscape low ++ rest = '\\' :: 'u' :: (hexDigits 4 low ++ rest) := rfl
  rw [hshape, readLow, readUnit_hexDigits h]
  exact if_pos hlow

theorem readChar_codePointEscape (c : Char) (rest : Text) :
    readChar (codePointEscape c.toNat ++ rest) = some (c, rest) := by
  obtain ⟨hhigh, hlow, hbound⟩ := toNat_not_surrogate c
  unfold codePointEscape
  split
  · next hsmall =>
    rw [readChar_unitEscape, readCodePoint, readUnit_hexDigits hsmall]
    simp only [hhigh, hlow, Bool.false_eq_true, if_false, Char.ofNat_toNat]
  · next hlarge =>
    have hfirst : 0xd800 + (c.toNat - 0x10000) / 0x400 < 0x10000 := by omega
    have hsecond : 0xdc00 + (c.toNat - 0x10000) % 0x400 < 0x10000 := by omega
    have hishigh : isHighSurrogate (0xd800 + (c.toNat - 0x10000) / 0x400) = true := by
      simp only [isHighSurrogate, Bool.and_eq_true, decide_eq_true_eq]
      omega
    have hislow : isLowSurrogate (0xdc00 + (c.toNat - 0x10000) % 0x400) = true := by
      simp only [isLowSurrogate, Bool.and_eq_true, decide_eq_true_eq]
      omega
    have hvalue : 0x10000 + (0xd800 + (c.toNat - 0x10000) / 0x400 - 0xd800) * 0x400 +
        (0xdc00 + (c.toNat - 0x10000) % 0x400 - 0xdc00) = c.toNat := by omega
    rw [List.append_assoc, readChar_unitEscape, readCodePoint, readUnit_hexDigits hfirst]
    simp only [hishigh, if_true]
    rw [readLow_unitEscape hsecond hislow, hvalue, Char.ofNat_toNat]

theorem readChar_quotedChar (asciiOnly : Bool) (c : Char) (rest : Text) :
    readChar (quotedChar asciiOnly c ++ rest) = some (c, rest) := by
  unfold quotedChar
  split_ifs with hmark hnewline hreturn htab hbackspace hfeed hspelled
  · simp only [Bool.or_eq_true, decide_eq_true_eq] at hmark
    rcases hmark with rfl | rfl
    · rfl
    · rfl
  · rw [hnewline]; rfl
  · rw [hreturn]; rfl
  · rw [htab]; rfl
  · rw [hbackspace]; rfl
  · rw [hfeed]; rfl
  · exact readChar_codePointEscape c rest
  · simp only [Bool.or_eq_true, decide_eq_true_eq, not_or] at hmark hspelled
    rw [List.singleton_append, readChar, if_neg hmark.2, if_neg]
    simp [hmark.1, hspelled.1]

theorem readChars_flatMap_quotedChar (asciiOnly : Bool) (t rest : Text) :
    readChars (t.flatMap (quotedChar asciiOnly) ++ '"' :: rest) = some (t, rest) := by
  induction t with
  | nil => exact readChars_quote rest
  | cons c t ih =>
    rw [List.flatMap_cons, List.append_assoc,
      readChars_of_readChar (readChar_quotedChar asciiOnly c _), ih]
    rfl

/-- A JSON string that was written is read back, with whatever stands behind it left over. -/
theorem readString_quoted (asciiOnly : Bool) (t rest : Text) :
    readString (quoted asciiOnly t ++ rest) = some (t, rest) := by
  have hshape : quoted asciiOnly t ++ rest =
      '"' :: (t.flatMap (quotedChar asciiOnly) ++ '"' :: rest) := by
    simp only [quoted, List.cons_append, List.append_assoc, List.nil_append]
  rw [hshape]
  exact readChars_flatMap_quotedChar asciiOnly t rest

end Json
end GrammarKit
