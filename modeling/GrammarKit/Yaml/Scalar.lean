import GrammarKit.Regex.Reader
import GrammarKit.Yaml.Error
import GrammarKit.Yaml.PlainScalar

/-!
# Types of scalars

Which texts without quotes are numbers, truth values, dates or nothing, and the values of scalars
that are truth values, numbers or bytes. Underscores in numbers are left out.
-/

namespace GrammarKit.Yaml

open Regex Text

inductive NodeType where
  | null
  | bool
  | int
  | float
  | timestamp
  | binary
  | text
  | list
  | map
  | set
  /-- A map that is written as a list of maps with one entry each. -/
  | ordered
  /-- A list of pairs that is written so. -/
  | pairs
  | merge
  | default
  /-- A type that is not known. -/
  | unknown
  deriving DecidableEq, Repr

/-- The types that have tags, with what their tags end in. -/
def namedTypes : List (Text × NodeType) :=
  List.map (fun (name, type) => (name.toList, type))
    [("null", .null), ("bool", .bool), ("int", .int), ("float", .float), ("timestamp", .timestamp),
      ("binary", .binary), ("str", .text), ("seq", .list), ("map", .map), ("set", .set),
      ("omap", .ordered), ("pairs", .pairs), ("merge", .merge), ("value", .default)]

def generalTag : Text := "tag:yaml.org,2002:".toList

def NodeType.ofTag (tag : Text) : NodeType :=
  if generalTag.isPrefixOf tag then
    (namedTypes.lookup (tag.drop generalTag.length)).getD .unknown
  else .unknown

/-! ### Forms -/

/-- A text without a newline at its end: forms take one there. -/
def withoutLastBreak (t : Text) : Text := if t.getLast? = some '\n' then t.dropLast else t

def matchWhole? (source : String) (t : Text) : Option Match :=
  match Regex.read ("(?:".toList ++ source.toList ++ ")$".toList) with
  | .ok r => r.pattern.matchAt false (Regex.Cursor.start t)
  | .error _ => none

def hasForm (source : String) (t : Text) : Bool := (matchWhole? source t).isSome

def boolForm : Version → String
  | .usual => "true|True|TRUE|false|False|FALSE"
  | .old => "y|Y|yes|Yes|YES|n|N|no|No|NO|true|True|TRUE|false|False|FALSE|on|On|ON|off|Off|OFF"

def floatForm : Version → String
  | .usual =>
    "[-+]?[0-9][0-9_]*\\.[0-9_]*(?:[eE][-+]?[0-9]+)?|[-+]?[0-9][0-9_]*[eE][-+]?[0-9]+|" ++
      "[-+]?\\.[0-9_]+(?:[eE][-+][0-9]+)?|[-+]?\\.(?:inf|Inf|INF)|\\.(?:nan|NaN|NAN)"
  | .old =>
    "[-+]?[0-9][0-9_]*\\.[0-9_]*(?:[eE][-+]?[0-9]+)?|[-+]?[0-9][0-9_]*[eE][-+]?[0-9]+|" ++
      "\\.[0-9_]+(?:[eE][-+][0-9]+)?|[-+]?[0-9][0-9_]*(?::[0-5]?[0-9])+\\.[0-9_]*|" ++
      "[-+]?\\.(?:inf|Inf|INF)|\\.(?:nan|NaN|NAN)"

def intForm : Version → String
  | .usual => "[-+]?0b[01_]+|[-+]?0o?[0-7_]+|(?!_)[-+]?[0-9_]+|[-+]?0x[0-9a-fA-F_]+"
  | .old =>
    "[-+]?0b[01_]+|(?!_)[-+]?0?[0-7_]+|[-+]?(?:0|[1-9][0-9_]*)|[-+]?0x[0-9a-fA-F_]+|" ++
      "[-+]?[1-9][0-9_]*(?::[0-5]?[0-9])+"

def timestampForm : String :=
  "[0-9][0-9][0-9][0-9]-[0-9][0-9]-[0-9][0-9]|" ++
    "[0-9][0-9][0-9][0-9]-[0-9][0-9]?-[0-9][0-9]?(?:[Tt]|[ \\t]+)" ++
    "[0-9][0-9]?:[0-9][0-9]:[0-9][0-9](?:\\.[0-9]*)?" ++
    "(?:[ \\t]*(?:Z|[-+][0-9][0-9]?(?::[0-9][0-9])?))?"

/-- The type of a scalar that has no quotes and no tag. A text with a newline at its end counts as if
it had none, except that a newline alone is a text. -/
def NodeType.ofPlain (version : Version) (written : Text) : NodeType :=
  let t := withoutLastBreak written
  if written.isEmpty then .null
  else if t.isEmpty then .text
  else if hasForm (boolForm version) t then .bool
  else if hasForm (floatForm version) t then .float
  else if hasForm (intForm version) t then .int
  else if t = ['<', '<'] then .merge
  else if ["~", "null", "Null", "NULL"].any (·.toList = t) then .null
  else if hasForm timestampForm t then .timestamp
  else if t = ['='] then .default
  else if ["!", "&", "*"].any (·.toList = t) then .unknown
  else .text

/-! ### Values -/

def truthOf (t : Text) : Except Error Bool :=
  let word := toLower t
  if ["yes", "y", "true", "on"].any (·.toList = word) then .ok true
  else if ["no", "n", "false", "off"].any (·.toList = word) then .ok false
  else .error (.notTruth word)

/-- A text without underscores. -/
def withoutUnderscores (t : Text) : Text := t.filter (· != '_')

/-- A number whose parts are sixtieths of one another, the greatest first. -/
def sexagesimal (parts : List Int) : Int := parts.foldl (fun n part => n * 60 + part) 0

/-- The value of a whole number without its sign. -/
def sizeOf (version : Version) (t : Text) : Except Error Int :=
  let whole := fun base digits => (Numeral.whole base digits).mapError Error.numeral
  match t with
  | '0' :: 'b' :: digits => whole 2 digits
  | '0' :: 'x' :: digits => whole 16 digits
  | '0' :: 'o' :: digits => whole 8 digits
  | _ =>
    if version = .usual || t = ['0'] then whole 10 t
    else if t.isEmpty then .error .emptyNumber
    else if t.head? = some '0' then whole 8 t
    else if t.contains ':' then (splitOn ':' t).mapM (whole 10) |>.map sexagesimal
    else whole 10 t

def intOf (version : Version) (t : Text) : Except Error Int :=
  match withoutUnderscores t with
  | [] => .error .emptyNumber
  | written =>
    let (negative, rest) := Numeral.signed written
    (sizeOf version rest).map fun n => if negative then -n else n

/-- A floating-point number, or the one that is written as no number. -/
inductive FloatValue where
  /-- A number, or none that has been computed. -/
  | computed (x : Binary64)
  /-- What is written as no number. -/
  | nan

def floatOf (version : Version) (t : Text) : Except Error FloatValue :=
  match toLower (withoutUnderscores t) with
  | [] => .error .emptyNumber
  | written =>
    let (negative, rest) := Numeral.signed written
    let fraction := fun part => (Numeral.fraction part).mapError Error.numeral
    let signed := fun (x : Binary64) => FloatValue.computed (if negative then x.negate else x)
    if rest = ".inf".toList then .ok (.computed (.infinite negative))
    else if rest = ".nan".toList then .ok .nan
    else if version = .old && rest.contains ':' then
      (splitOn ':' rest).mapM fraction |>.map fun parts => signed (Binary64.sexagesimal parts)
    else (fraction rest).map signed

/-! ### Bytes -/

def sixBits? (c : Char) : Option Nat :=
  if 'A' ≤ c ∧ c ≤ 'Z' then some (c.toNat - 'A'.toNat)
  else if 'a' ≤ c ∧ c ≤ 'z' then some (c.toNat - 'a'.toNat + 26)
  else if '0' ≤ c ∧ c ≤ '9' then some (c.toNat - '0'.toNat + 52)
  else if c = '+' then some 62
  else if c = '/' then some 63
  else none

/-- The bytes that characters stand for, four for three bytes, behind `place` characters of a group
whose unused bits are given. Padding that completes a group ends the bytes; all other characters are
passed over. -/
def bytesFrom (place left pads : Nat) : Text → Option Bytes
  | [] => if place = 0 then some [] else none
  | c :: rest =>
    if c = '=' then
      if 2 ≤ place ∧ 4 ≤ place + (pads + 1) then some []
      else bytesFrom place left (if 2 ≤ place then pads + 1 else pads) rest
    else match sixBits? c with
      | none => bytesFrom place left pads rest
      | some n =>
        if place = 0 then bytesFrom 1 n 0 rest
        else if place = 1 then
          (bytesFrom 2 (n % 16) 0 rest).map ((left * 4 + n / 16).toUInt8 :: ·)
        else if place = 2 then
          (bytesFrom 3 (n % 4) 0 rest).map ((left * 16 + n / 4).toUInt8 :: ·)
        else (bytesFrom 0 0 0 rest).map ((left * 64 + n).toUInt8 :: ·)

def bytesOf (t : Text) : Except Error Bytes :=
  if t.all (·.toNat < 0x80) then
    match bytesFrom 0 0 0 t with
    | some bytes => .ok bytes
    | none => .error .malformed
  else .error .malformed

end GrammarKit.Yaml
