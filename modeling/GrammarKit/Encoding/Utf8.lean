import GrammarKit.Encoding.Basic

/-!
# UTF-8

One to four bytes for a character. The first byte tells how many follow, and each of these lies in
the range that leaves out longer forms than needed, surrogates and what is beyond the last code
point.
-/

namespace GrammarKit.Encoding.Utf8

def encodeChar (c : Char) : Bytes :=
  let n := c.toNat
  if n < 0x80 then [n.toUInt8]
  else if n < 0x800 then [(0xc0 + n / 64).toUInt8, (0x80 + n % 64).toUInt8]
  else if n < 0x10000 then
    [(0xe0 + n / 4096).toUInt8, (0x80 + n / 64 % 64).toUInt8, (0x80 + n % 64).toUInt8]
  else
    [(0xf0 + n / 262144).toUInt8, (0x80 + n / 4096 % 64).toUInt8, (0x80 + n / 64 % 64).toUInt8,
      (0x80 + n % 64).toUInt8]

def encode (t : Text) : Bytes := t.flatMap encodeChar

/-- What a first byte says: its share of the code point, and the ranges of the bytes behind it. -/
def lead? (b : UInt8) : Option (Nat × List (Nat × Nat)) :=
  let n := b.toNat
  let tail := (0x80, 0xbf)
  if n < 0x80 then some (n, [])
  else if n < 0xc2 then none
  else if n < 0xe0 then some (n - 0xc0, [tail])
  else if n = 0xe0 then some (0, [(0xa0, 0xbf), tail])
  else if n = 0xed then some (0xd, [(0x80, 0x9f), tail])
  else if n < 0xf0 then some (n - 0xe0, [tail, tail])
  else if n = 0xf0 then some (0, [(0x90, 0xbf), tail, tail])
  else if n < 0xf4 then some (n - 0xf0, [tail, tail, tail])
  else if n = 0xf4 then some (4, [(0x80, 0x8f), tail, tail])
  else none

/-- The code point made of a share and of the bytes behind it, and what comes after; or what is wrong
and the bytes that are in order up to there. -/
def continued (share : Nat) : List (Nat × Nat) → Bytes → Except (DecodeReason × Bytes) (Nat × Bytes)
  | [], bs => .ok (share, bs)
  | _, [] => .error (.unexpectedEnd, [])
  | (low, high) :: ranges, b :: bs =>
    if low ≤ b.toNat ∧ b.toNat ≤ high then
      (continued (share * 64 + b.toNat % 64) ranges bs).mapError fun (reason, good) =>
        (reason, b :: good)
    else .error (.invalidContinuation, [])

theorem length_of_continued {share : Nat} {ranges : List (Nat × Nat)} {bs rest : Bytes} {n : Nat}
    (h : continued share ranges bs = .ok (n, rest)) : rest.length ≤ bs.length := by
  induction ranges generalizing share bs with
  | nil =>
    simp only [continued, Except.ok.injEq, Prod.mk.injEq] at h
    exact Nat.le_of_eq (congrArg List.length h.2.symm)
  | cons range ranges ih =>
    obtain ⟨low, high⟩ := range
    cases bs with
    | nil => simp [continued] at h
    | cons b bs =>
      simp only [continued] at h
      split at h
      · cases hc : continued (share * 64 + b.toNat % 64) ranges bs with
        | error e =>
          rw [hc] at h
          cases h
        | ok r =>
          rw [hc] at h
          exact Nat.le_succ_of_le (ih (Except.ok.inj h ▸ hc))
      · simp at h

/-- The text that bytes hold, the first of them at the given place. -/
def decodeFrom (start : Nat) (bs : Bytes) : Except DecodeError Text :=
  match bs with
  | [] => .ok []
  | b :: rest =>
    match lead? b with
    | none => .error (.badBytes .invalidStart start [b])
    | some (share, ranges) =>
      match _h : continued share ranges rest with
      | .error (reason, good) => .error (.badBytes reason start (b :: good))
      | .ok (n, later) =>
        match decodeFrom (start + 1 + ranges.length) later with
        | .ok t => .ok (Char.ofNat n :: t)
        | .error e => .error e
termination_by bs.length
decreasing_by
  exact Nat.lt_succ_of_le (length_of_continued ‹_›)

def decode (bs : Bytes) : Except DecodeError Text := decodeFrom 0 bs

def mark : Bytes := [0xef, 0xbb, 0xbf]

def encodeMarked (t : Text) : Bytes := mark ++ encode t

/-- The text that bytes hold, without the mark if there is one. Places are counted behind the mark;
a part of the mark and nothing else is an empty text. -/
def decodeMarked (bs : Bytes) : Except DecodeError Text :=
  match mark.isPrefixOf? bs with
  | some rest => decode rest
  | none => if bs.isPrefixOf mark then .ok [] else decode bs

end GrammarKit.Encoding.Utf8
