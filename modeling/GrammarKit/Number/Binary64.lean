/-!
# Binary floating-point numbers

Numbers of 53 binary digits as exact integers: the number nearest to a decimal fraction, and the
shortest decimal digits from which a number is read back.
-/

namespace GrammarKit

inductive Binary64 where
  | finite (negative : Bool) (significand : Nat) (exponent : Int)
  | infinite (negative : Bool)
  | nan
  deriving DecidableEq, Repr

namespace Binary64

def leastExponent : Int := -1074

def greatestExponent : Int := 971

/-- The whole part of `base` to the power of `e`, from which `base ^ e` is got with `below`. -/
def above (base : Nat) (e : Int) : Nat := base.pow e.toNat

/-- The divisor in `base ^ e = above base e / below base e`. -/
def below (base : Nat) (e : Int) : Nat := base.pow (-e).toNat

/-- The nearest whole number to a quotient; of two equally near ones the even one. -/
def roundDiv (n d : Nat) : Nat :=
  let q := n / d
  let twice := 2 * (n % d)
  if twice < d || (twice = d && q % 2 = 0) then q else q + 1

/-- Nearest to `n / d` with the given sign, for `n` and `d` greater than zero. -/
def ofQuotient (negative : Bool) (n d : Nat) : Binary64 :=
  let size : Int := (Nat.log2 n : Int) - Nat.log2 d
  let low := max (size - 53) leastExponent
  let floorAt := fun e : Int => (n * below 2 e) / (d * above 2 e)
  let e := if Nat.pow 2 53 ≤ floorAt low then low + 1 else low
  let m := roundDiv (n * below 2 e) (d * above 2 e)
  let (m, e) := if m = Nat.pow 2 53 then (Nat.pow 2 52, e + 1) else (m, e)
  if greatestExponent < e then .infinite negative else .finite negative m e

/-- Nearest to `digits` times ten to the power of `exponent`. Beyond the bounds on the number of
digits before and behind the point every number is infinite or zero. -/
def ofDecimal (negative : Bool) (digits : Nat) (exponent : Int) : Binary64 :=
  let places : Int := (Nat.toDigits 10 digits).length
  if digits = 0 || places + exponent < -400 then .finite negative 0 leastExponent
  else if 400 < places + exponent then .infinite negative
  else ofQuotient negative (digits * above 10 exponent) (below 10 exponent)

def isZero : Binary64 → Bool
  | .finite _ 0 _ => true
  | _ => false

def ofScaled (negative : Bool) (m : Nat) (e : Int) : Binary64 :=
  if m = 0 then .finite negative 0 leastExponent
  else ofQuotient negative (m * above 2 e) (below 2 e)

def negate : Binary64 → Binary64
  | .finite negative m e => .finite (!negative) m e
  | .infinite negative => .infinite (!negative)
  | .nan => .nan

def signedPart (negative : Bool) (m : Nat) : Int := if negative then -(m : Int) else m

def plus : Binary64 → Binary64 → Binary64
  | .finite a m d, .finite b n e =>
    let low := min d e
    let sum := signedPart a (m * above 2 (d - low)) + signedPart b (n * above 2 (e - low))
    ofScaled (if sum = 0 then a && b else sum < 0) sum.natAbs low
  | .infinite a, .infinite b => if a = b then .infinite a else .nan
  | .infinite a, .finite _ _ _ => .infinite a
  | .finite _ _ _, .infinite b => .infinite b
  | _, _ => .nan

def times : Binary64 → Binary64 → Binary64
  | .finite a m d, .finite b n e => ofScaled (a != b) (m * n) (d + e)
  | .infinite a, .finite b m _ => if m = 0 then .nan else .infinite (a != b)
  | .finite a m _, .infinite b => if m = 0 then .nan else .infinite (a != b)
  | .infinite a, .infinite b => .infinite (a != b)
  | _, _ => .nan

/-- The sum of parts, the greatest first, of which each is worth sixty of the next. The smallest is
added first. -/
def sexagesimal (parts : List Binary64) : Binary64 :=
  (parts.reverse.foldl
    (fun (sum, unit) part => (sum.plus (part.times (ofScaled false unit 0)), unit * 60))
    (Binary64.finite false 0 leastExponent, 1)).1

/-- Compares `c * 10 ^ e` with `x * 2 ^ q`. -/
def compareScaled (c : Nat) (e : Int) (x : Nat) (q : Int) : Ordering :=
  compare (c * above 10 e * below 2 q) (x * above 2 q * below 10 e)

/-- The digits of a decimal number and the place of the point behind its first digit. -/
structure Digits where
  digits : Nat
  exponent : Int

/-- Whether `c * 10 ^ e` is read back as the number `m * 2 ^ q`: it lies nearer to it than to its
neighbours, or half way and the significand is even. -/
def readsBack (m : Nat) (q : Int) (c : Nat) (e : Int) : Bool :=
  let lowGap := if m = Nat.pow 2 52 && leastExponent < q then 1 else 2
  let atLow := compareScaled c e (4 * m - lowGap) (q - 2)
  let atHigh := compareScaled c e (4 * m + 2) (q - 2)
  (atLow == .gt && atHigh == .lt) || (m % 2 = 0 && (atLow == .eq || atHigh == .eq))

/-- Of the two multiples of `10 ^ e` around `m * 2 ^ q` the one that is read back; of two the
nearer, of equally near ones the even one. -/
def neighbour? (m : Nat) (q : Int) (e : Int) : Option Nat :=
  let floor := (m * above 2 q * below 10 e) / (below 2 q * above 10 e)
  match readsBack m q floor e, readsBack m q (floor + 1) e with
  | true, false => some floor
  | false, true => some (floor + 1)
  | false, false => none
  | true, true =>
    match compareScaled (2 * floor + 1) e (2 * m) q with
    | .gt => some floor
    | .lt => some (floor + 1)
    | .eq => some (if floor % 2 = 0 then floor else floor + 1)

/-- The first exponent from `e` downwards at which a multiple of the power of ten is read back. -/
def shortestFrom (m : Nat) (q : Int) : Nat → Int → Digits
  | 0, e => ⟨m, e⟩
  | fuel + 1, e =>
    match neighbour? m q e with
    | some c => ⟨c, e⟩
    | none => shortestFrom m q fuel (e - 1)

/-- The number of decimal digits before the point, negative if zeros follow it. -/
def magnitude (m : Nat) (q : Int) : Int :=
  let whole := (m * above 2 q) / below 2 q
  if whole ≠ 0 then (Nat.toDigits 10 whole).length
  else
    let inverse := below 2 q / (m * above 2 q)
    1 - (Nat.toDigits 10 inverse).length

/-- The fewest digits from which `m * 2 ^ q` is read back. Seventeen are always enough. -/
def shortest (m : Nat) (q : Int) : Digits := shortestFrom m q 40 (magnitude m q)

/-- Decimal digits without zeros at the end, and how many there were of these. -/
def dropZeros : Nat → Nat → Int → Digits
  | 0, n, e => ⟨n, e⟩
  | fuel + 1, n, e => if n ≠ 0 && n % 10 = 0 then dropZeros fuel (n / 10) (e + 1) else ⟨n, e⟩

/-- How numbers are written: positionally while the point stands less than four places before the
digits and at most sixteen behind their start, otherwise with an exponent of two digits or more. -/
def positional (point : Int) : Bool := -4 < point && point ≤ 16

/-- The text of digits with a point `point` places behind their start. -/
def layOut (ds : List Char) (point : Int) : List Char :=
  if positional point then
    if point ≤ 0 then ['0', '.'] ++ List.replicate (-point).toNat '0' ++ ds
    else if ds.length ≤ point.toNat then
      ds ++ List.replicate (point.toNat - ds.length) '0' ++ ['.', '0']
    else ds.take point.toNat ++ ['.'] ++ ds.drop point.toNat
  else
    let power := point - 1
    let powerDigits := Nat.toDigits 10 power.natAbs
    ds.take 1 ++ (if ds.length ≤ 1 then [] else '.' :: ds.drop 1) ++
      ['e', if power < 0 then '-' else '+'] ++
      List.replicate (2 - powerDigits.length) '0' ++ powerDigits

/-- A number with the fewest digits from which it is read back. -/
def text : Binary64 → List Char
  | .nan => ['n', 'a', 'n']
  | .infinite negative => (if negative then ['-'] else []) ++ ['i', 'n', 'f']
  | .finite negative m q =>
    (if negative then ['-'] else []) ++
      if m = 0 then ['0', '.', '0']
      else
        let found := shortest m q
        let kept := dropZeros 400 found.digits found.exponent
        let ds := Nat.toDigits 10 kept.digits
        layOut ds (kept.exponent + ds.length)

end Binary64
end GrammarKit
