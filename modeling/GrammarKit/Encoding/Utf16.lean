import GrammarKit.Encoding.Basic

/-!
# UTF-16

Units of two bytes, one for most characters and a pair for those beyond U+FFFF.
-/

namespace GrammarKit.Encoding.Utf16

/-- The order of the two bytes of a unit. -/
inductive ByteOrder where
  /-- The low byte comes first. -/
  | lowFirst
  /-- The high byte comes first. -/
  | highFirst
  deriving DecidableEq, Repr

def units (c : Char) : List Nat :=
  let n := c.toNat
  if n < 0x10000 then [n]
  else [0xd800 + (n - 0x10000) / 0x400, 0xdc00 + (n - 0x10000) % 0x400]

/-- The bytes of a unit, the low one first. -/
def unitBytes (n : Nat) : Bytes := [(n % 256).toUInt8, (n / 256).toUInt8]

/-- The bytes of a text, low bytes first. -/
def encode (t : Text) : Bytes := t.flatMap fun c => (units c).flatMap unitBytes

/-- The mark of texts with low bytes first. -/
def mark : Bytes := [0xff, 0xfe]

def encodeMarked (t : Text) : Bytes := mark ++ encode t

def unitOf (order : ByteOrder) (a b : UInt8) : Nat :=
  match order with
  | .lowFirst => b.toNat * 256 + a.toNat
  | .highFirst => a.toNat * 256 + b.toNat

def isHigh (n : Nat) : Bool := 0xd800 ≤ n && n < 0xdc00

def isLow (n : Nat) : Bool := 0xdc00 ≤ n && n < 0xe000

def joined (high low : Nat) : Nat := 0x10000 + (high - 0xd800) * 0x400 + (low - 0xdc00)

def consChar (n : Nat) (t : Except DecodeError Text) : Except DecodeError Text :=
  t.map (Char.ofNat n :: ·)

/-- The text that bytes hold, the first of them at the given place. -/
def decodeFrom (order : ByteOrder) (start : Nat) : Bytes → Except DecodeError Text
  | [] => .ok []
  | [a] => .error (.badBytes .truncated start [a])
  | a :: b :: rest =>
    let n := unitOf order a b
    if isLow n then .error (.badBytes .illegalEncoding start [a, b])
    else if isHigh n then
      match rest with
      | c :: d :: later =>
        let m := unitOf order c d
        if isLow m then consChar (joined n m) (decodeFrom order (start + 4) later)
        else .error (.badBytes .illegalSurrogate start [a, b])
      | _ => .error (.badBytes .unexpectedEnd start (a :: b :: rest))
    else consChar n (decodeFrom order (start + 2) rest)

/-- The text that bytes with low bytes first hold; a mark is a character like any other. -/
def decode (bs : Bytes) : Except DecodeError Text := decodeFrom .lowFirst 0 bs

/-- The text that bytes behind a mark hold. Without a mark only nothing is a text. -/
def decodeMarked : Bytes → Except DecodeError Text
  | 0xff :: 0xfe :: rest => decodeFrom .lowFirst 2 rest
  | 0xfe :: 0xff :: rest => decodeFrom .highFirst 2 rest
  | [] => .ok []
  | bs =>
    match decodeFrom .lowFirst 0 bs with
    | .ok _ => .error .noMark
    | .error e => .error e

end GrammarKit.Encoding.Utf16
