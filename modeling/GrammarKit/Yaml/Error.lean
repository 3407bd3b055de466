import GrammarKit.Data.Value
import GrammarKit.Number.Numeral

/-!
# Faults of YAML texts

Why a YAML text has no value: most texts are just not well formed, but some faults of numbers, dates
and keys are told apart.
-/

namespace GrammarKit.Yaml

open Text

inductive Quantity where
  | codePoint
  | year
  | month
  | day
  | hour
  | minute
  | second
  deriving DecidableEq, Repr

def Quantity.message : Quantity → Text
  | .codePoint => "chr() arg not in range(0x110000)".toList
  | .year => "year 0 is out of range".toList
  | .month => "month must be in 1..12".toList
  | .day => "day is out of range for month".toList
  | .hour => "hour must be in 0..23".toList
  | .minute => "minute must be in 0..59".toList
  | .second => "second must be in 0..59".toList

/-- Why a YAML text has no value. -/
inductive Error where
  /-- It is not well formed. -/
  | malformed
  | outOfRange (what : Quantity)
  | hugeCodePoint
  /-- A text is no number. -/
  | numeral (cause : NumeralError)
  /-- A number has no character. -/
  | emptyNumber
  /-- A text is no truth value. -/
  | notTruth (written : Text)
  | unhashable (kind : Container)
  /-- The keys of a map in order are not different. -/
  | repeatedKey
  /-- A day after the last one. -/
  | lateDate
  /-- Clocks a day or more ahead of or behind universal time, in minutes. -/
  | wideOffset (minutes : Int)
  /-- A version of the format that does not exist. -/
  | unknownVersion (minor : Nat)
  deriving DecidableEq, Repr

def Error.message : Error → Text
  | .malformed => "malformed".toList
  | .outOfRange what => what.message
  | .hugeCodePoint => "Python int too large to convert to C int".toList
  | .numeral cause => cause.message
  | .emptyNumber => "string index out of range".toList
  | .notTruth written => quoted written
  | .unhashable kind => "unhashable type: '".toList ++ kind.name ++ ['\'']
  | .repeatedKey => []
  | .lateDate => "date value out of range".toList
  | .wideOffset minutes =>
    ("offset must be a timedelta strictly between -timedelta(hours=24) and timedelta(hours=24), " ++
      "not ").toList ++ shownDuration minutes ++ ['.']
  | .unknownVersion minor =>
    "version minor part can only be 2 or 1, got (1, ".toList ++ ofNat minor ++ [')']

end GrammarKit.Yaml
