import GrammarKit.Encoding.Basic
import GrammarKit.Encoding.Tables
import GrammarKit.Text.Basic

/-!
# Single-byte encodings

One byte for a character. The first 128 bytes are ASCII; the others are given by a table or stand
for nothing.
-/

namespace GrammarKit.Encoding.SingleByte

/-- What the bytes from 0x80 on stand for; a zero or a missing entry marks a byte without meaning. -/
abbrev UpperHalf := List Nat

/-- The upper half of the encoding in which a byte is the code point. -/
def latin1 : UpperHalf := List.range' 0x80 0x80

def charOf? (upper : UpperHalf) (b : UInt8) : Option Char :=
  if b.toNat < 0x80 then some (Char.ofNat b.toNat)
  else match upper[b.toNat - 0x80]? with
    | some 0 => none
    | some n => some (Char.ofNat n)
    | none => none

def byteOf? (upper : UpperHalf) (c : Char) : Option UInt8 :=
  if c.toNat < 0x80 then some c.toNat.toUInt8
  else (upper.idxOf? c.toNat).map fun i => (0x80 + i).toUInt8

/-- The text that bytes hold, the first of them at the given place. -/
def decodeFrom (upper : UpperHalf) (reason : DecodeReason) (start : Nat) :
    Bytes → Except DecodeError Text
  | [] => .ok []
  | b :: rest =>
    match charOf? upper b with
    | none => .error (.badBytes reason start [b])
    | some c =>
      match decodeFrom upper reason (start + 1) rest with
      | .ok t => .ok (c :: t)
      | .error e => .error e

/-- The bytes of a text whose first character is at the given place. -/
def encodeFrom (upper : UpperHalf) (codec reason : Text) (start : Nat) :
    Text → Except EncodeError Bytes
  | [] => .ok []
  | c :: rest =>
    match byteOf? upper c with
    | none =>
      .error ⟨codec, start, c :: rest.takeWhile fun d => (byteOf? upper d).isNone, reason⟩
    | some b =>
      match encodeFrom upper codec reason (start + 1) rest with
      | .ok bs => .ok (b :: bs)
      | .error e => .error e

end GrammarKit.Encoding.SingleByte
