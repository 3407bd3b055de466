import GrammarKit.Number.Binary64
import GrammarKit.Text.Blank
import GrammarKit.Text.Quoted
import GrammarKit.Text.WordChar

/-!
# Numerals

Numbers written as texts: whole numbers to a base, and decimal fractions. The decimal digits of every
script count, and blanks around a numeral do not.
-/

namespace GrammarKit

open Text

/-- Why a text is no number. -/
inductive NumeralError where
  /-- It is no whole number to a base. -/
  | notWhole (base : Nat) (written : Text)
  | tooLong (digits : Nat)
  /-- It is no decimal fraction. -/
  | notFraction (written : Text)
  deriving DecidableEq, Repr

namespace Numeral

/-- The greatest number of decimal digits of a whole number that is read or shown. -/
def longest : Nat := 4300

def limitText (detail : Text) : Text :=
  "Exceeds the limit (".toList ++ ofNat longest ++
    " digits) for integer string conversion".toList ++ detail ++
    "; use sys.set_int_max_str_digits() to increase the limit".toList

/-- The greatest length at which a text that is no whole number is shown. -/
def shownLength : Nat := 200

end Numeral

open Numeral

def NumeralError.message : NumeralError → Text
  | .notWhole base written =>
    "invalid literal for int() with base ".toList ++ ofNat base ++ ": ".toList ++
      (quoted written).take shownLength
  | .tooLong digits => limitText (": value has ".toList ++ ofNat digits ++ " digits".toList)
  | .notFraction written => "could not convert string to float: ".toList ++ quoted written

namespace Numeral

/-! ### Digits -/

/-- The value of a decimal digit of any script. The digits of a script follow one another. -/
def decimalValue? (c : Char) : Option Nat :=
  (decimalRanges.find? fun (first, last) => first ≤ c.toNat && c.toNat ≤ last).map
    fun (first, _) => (c.toNat - first) % 10

/-- A character with the digits of all scripts made those of ASCII and blanks beyond ASCII made
spaces. -/
def plainChar (c : Char) : Char :=
  if c.toNat < 0x80 then c
  else if isBlank c then ' '
  else match decimalValue? c with
    | some n => Char.ofNat ('0'.toNat + n)
    | none => c

def isMargin (c : Char) : Bool := c = ' ' || ('\t' ≤ c && c ≤ '\r')

/-- A text without blanks at its ends. -/
def withoutMargins (t : Text) : Text :=
  ((t.dropWhile isMargin).reverse.dropWhile isMargin).reverse

/-- The value of a digit of ASCII, also beyond nine. -/
def digitValue (c : Char) : Nat :=
  if '0' ≤ c ∧ c ≤ '9' then c.toNat - '0'.toNat
  else if 'a' ≤ c ∧ c ≤ 'z' then c.toNat - 'a'.toNat + 10
  else if 'A' ≤ c ∧ c ≤ 'Z' then c.toNat - 'A'.toNat + 10
  else 36

def ofDigits (base : Nat) (digits : Text) : Nat :=
  digits.foldl (fun n c => n * base + digitValue c) 0

/-- The sign in front of a number, `true` for a minus, and what comes behind it. -/
def signed : Text → Bool × Text
  | '-' :: rest => (true, rest)
  | '+' :: rest => (false, rest)
  | t => (false, t)

/-! ### Whole numbers -/

/-- What comes behind the letter that stands for a base, if this is how a text starts. One underscore
may come behind the letter. -/
def afterBaseLetter (base : Nat) (t : Text) : Text :=
  let letters := if base = 16 then "xX" else if base = 8 then "oO" else if base = 2 then "bB" else ""
  match t with
  | '0' :: c :: rest =>
    if letters.toList.contains c then (if rest.head? = some '_' then rest.tail else rest) else t
  | _ => t

/-- Whether underscores stand between digits only, one at a time. -/
def isParted (t : Text) : Bool :=
  ((splitWhen (· = '_') t).all fun part => !part.isEmpty)

def whole (base : Nat) (written : Text) : Except NumeralError Int :=
  let (negative, rest) := signed (withoutMargins (written.map plainChar))
  let body := afterBaseLetter base rest
  let isDigitOrMark := fun c => c = '_' || digitValue c < base
  let parted := body.takeWhile isDigitOrMark
  let digits := parted.filter (· != '_')
  if !isParted parted then .error (.notWhole base written)
  else if base = 10 && longest < digits.length then .error (.tooLong digits.length)
  else if body.all isDigitOrMark then
    .ok (if negative then -(ofDigits base digits : Int) else ofDigits base digits)
  else .error (.notWhole base written)

/-! ### Fractions -/

/-- An exponent, with nothing behind it. -/
def exponent? : Text → Option Int
  | [] => some 0
  | e :: rest =>
    let (negative, digits) := signed rest
    if (e = 'e' || e = 'E') && !digits.isEmpty && digits.all Char.isDigit then
      some (if negative then -(ofDigits 10 digits : Int) else ofDigits 10 digits)
    else none

/-- What comes behind the point, if there is one, and what comes behind that. -/
def behindPoint : Text → Text × Text
  | '.' :: rest => (rest.takeWhile Char.isDigit, rest.dropWhile Char.isDigit)
  | t => ([], t)

/-- The floating-point number that a text without a sign writes. -/
def unsigned? (negative : Bool) (t : Text) : Option Binary64 :=
  let name := t.map Char.toLower
  if name = "inf".toList || name = "infinity".toList then some (.infinite negative)
  else if name = "nan".toList then some .nan
  else
    let front := t.takeWhile Char.isDigit
    let (back, rest) := behindPoint (t.dropWhile Char.isDigit)
    if front.isEmpty && back.isEmpty then none
    else (exponent? rest).map fun e =>
      .ofDecimal negative (ofDigits 10 (front ++ back)) (e - back.length)

def fraction (written : Text) : Except NumeralError Binary64 :=
  let (negative, rest) := signed (withoutMargins (written.map plainChar))
  match unsigned? negative rest with
  | some x => .ok x
  | none => .error (.notFraction written)

end Numeral
end GrammarKit
