import GrammarKit.Encoding.Codec
import Mathlib.Data.List.Basic

/-!
# Reading back what was written

Every encoding has bytes for the characters that it can read, and a text of such characters is read
back from its bytes. For single bytes this rests on the tables alone; for the Unicode encodings it
is one computation for each length that the bytes of a character can have.
-/

namespace GrammarKit.Encoding

open Text

theorem toNat_toUInt8 {n : Nat} (h : n < 256) : n.toUInt8.toNat = n := by
  have hmod : n.toUInt8.toNat = n % 256 := UInt8.toNat_ofNat'
  omega

/-- A code point is none of those that stand for the halves of a pair. -/
theorem toNat_lt_or (c : Char) :
    c.toNat < 0xd800 ∨ (0xdfff < c.toNat ∧ c.toNat < 0x110000) := c.valid

/-- A number that is no code point stands for the null character. -/
theorem toNat_ofNat_or (n : Nat) : (Char.ofNat n).toNat = n ∨ (Char.ofNat n).toNat = 0 := by
  by_cases hvalid : n.isValidChar
  · left
    rw [Char.ofNat, dif_pos hvalid]
    rfl
  · right
    rw [Char.ofNat, dif_neg hvalid]
    rfl

/-! ### Single bytes -/

namespace SingleByte

variable {upper : UpperHalf}

theorem charOf_of_byteOf (hlength : upper.length ≤ 0x80) {c : Char} {b : UInt8}
    (h : byteOf? upper c = some b) : charOf? upper b = some c := by
  unfold byteOf? at h
  split at h
  · next hsmall =>
    have hb : b.toNat = c.toNat := by
      rw [← Option.some.inj h]
      exact toNat_toUInt8 (by omega)
    rw [charOf?, hb, if_pos hsmall, Char.ofNat_toNat]
  · next hlarge =>
    obtain ⟨i, hi, hbyte⟩ := Option.map_eq_some_iff.1 h
    obtain ⟨hbound, hvalue, -⟩ := List.idxOf?_eq_some_iff.1 hi
    have hb : b.toNat = 0x80 + i := by
      rw [← hbyte]
      exact toNat_toUInt8 (by omega)
    have hentry : upper[b.toNat - 0x80]? = some c.toNat := by
      rw [hb, Nat.add_sub_cancel_left, List.getElem?_eq_getElem hbound, hvalue]
    rw [charOf?, if_neg (by omega), hentry]
    split
    · next hzero =>
      have hc : c.toNat = 0 := Option.some.inj hzero
      omega
    · next n _ hn => rw [← Option.some.inj hn, Char.ofNat_toNat]
    · next hnone => cases hnone

theorem toNat_of_charOf {b : UInt8} {c : Char} (h : charOf? upper b = some c) :
    c.toNat < 0x80 ∨ c.toNat ∈ upper := by
  unfold charOf? at h
  split at h
  · next hsmall =>
    left
    rw [← Option.some.inj h]
    have hc := toNat_ofNat_or b.toNat
    omega
  · split at h
    · cases h
    · next n _ hentry =>
      rw [← Option.some.inj h]
      rcases toNat_ofNat_or n with hn | hzero
      · right
        rw [hn]
        exact List.mem_of_getElem? hentry
      · left
        omega
    · cases h

theorem isSome_byteOf {c : Char} (h : c.toNat < 0x80 ∨ c.toNat ∈ upper) :
    (byteOf? upper c).isSome = true := by
  unfold byteOf?
  split
  · rfl
  · next hlarge =>
    have hmem : c.toNat ∈ upper := h.resolve_left hlarge
    rw [Option.isSome_map, ← Option.ne_none_iff_isSome]
    exact fun hnone => List.idxOf?_eq_none_iff.1 hnone hmem

theorem isSome_byteOf_of_decodeFrom {reason : DecodeReason} {start : Nat} {bs : Bytes} {t : Text}
    (h : decodeFrom upper reason start bs = .ok t) :
    ∀ c ∈ t, (byteOf? upper c).isSome = true := by
  induction bs generalizing start t with
  | nil =>
    rw [← Except.ok.inj h]
    simp
  | cons b bs ih =>
    unfold decodeFrom at h
    split at h
    · cases h
    · next c hc =>
      split at h
      · next rest hrest =>
        rw [← Except.ok.inj h]
        intro d hd
        rcases List.mem_cons.1 hd with rfl | hd
        · exact isSome_byteOf (toNat_of_charOf hc)
        · exact ih hrest d hd
      · cases h

theorem decodeFrom_encodeFrom (hlength : upper.length ≤ 0x80) {t : Text}
    (ht : ∀ c ∈ t, (byteOf? upper c).isSome = true) (codec wording : Text) (reason : DecodeReason)
    (start place : Nat) :
    ∃ bs, encodeFrom upper codec wording start t = .ok bs ∧
      decodeFrom upper reason place bs = .ok t := by
  induction t generalizing start place with
  | nil => exact ⟨[], rfl, rfl⟩
  | cons c t ih =>
    obtain ⟨b, hb⟩ := Option.isSome_iff_exists.1 (ht c List.mem_cons_self)
    obtain ⟨bs, hbs, hback⟩ := ih (fun d hd => ht d (List.mem_cons_of_mem _ hd)) (start + 1) (place + 1)
    refine ⟨b :: bs, ?_, ?_⟩
    · simp only [encodeFrom, hb, hbs]
    · simp only [decodeFrom, charOf_of_byteOf hlength hb, hback]

end SingleByte

/-! ### UTF-8 -/

namespace Utf8

theorem lead_of_two {b : UInt8} (hb : 0xc2 ≤ b.toNat ∧ b.toNat < 0xe0) :
    lead? b = some (b.toNat - 0xc0, [(0x80, 0xbf)]) := by
  simp only [lead?]
  rw [if_neg (by omega), if_neg (by omega), if_pos hb.2]

/-- The first of three bytes asks more of the second one where a shorter form would do, and where
the code point would be half of a pair. -/
theorem lead_of_three {b d : UInt8} (hb : 0xe0 ≤ b.toNat ∧ b.toNat < 0xf0)
    (hd : 0x80 ≤ d.toNat ∧ d.toNat ≤ 0xbf) (hshort : b.toNat = 0xe0 → 0xa0 ≤ d.toNat)
    (hhalf : b.toNat = 0xed → d.toNat ≤ 0x9f) :
    ∃ low high, lead? b = some (b.toNat - 0xe0, [(low, high), (0x80, 0xbf)]) ∧
      low ≤ d.toNat ∧ d.toNat ≤ high := by
  simp only [lead?]
  by_cases hfirst : b.toNat = 0xe0
  · refine ⟨0xa0, 0xbf, ?_, hshort hfirst, hd.2⟩
    simp [hfirst]
  · by_cases hpair : b.toNat = 0xed
    · refine ⟨0x80, 0x9f, ?_, hd.1, hhalf hpair⟩
      simp [hpair]
    · refine ⟨0x80, 0xbf, ?_, hd⟩
      rw [if_neg (by omega), if_neg (by omega), if_neg (by omega), if_neg hfirst, if_neg hpair,
        if_pos hb.2]

/-- The first of four bytes asks more of the second one where a shorter form would do, and where
the code point would be beyond the last one. -/
theorem lead_of_four {b d : UInt8} (hb : 0xf0 ≤ b.toNat ∧ b.toNat ≤ 0xf4)
    (hd : 0x80 ≤ d.toNat ∧ d.toNat ≤ 0xbf) (hshort : b.toNat = 0xf0 → 0x90 ≤ d.toNat)
    (hbeyond : b.toNat = 0xf4 → d.toNat ≤ 0x8f) :
    ∃ low high, lead? b = some (b.toNat - 0xf0, [(low, high), (0x80, 0xbf), (0x80, 0xbf)]) ∧
      low ≤ d.toNat ∧ d.toNat ≤ high := by
  simp only [lead?]
  by_cases hfirst : b.toNat = 0xf0
  · refine ⟨0x90, 0xbf, ?_, hshort hfirst, hd.2⟩
    simp [hfirst]
  · by_cases hlast : b.toNat = 0xf4
    · refine ⟨0x80, 0x8f, ?_, hd.1, hbeyond hlast⟩
      simp [hlast]
    · refine ⟨0x80, 0xbf, ?_, hd⟩
      rw [if_neg (by omega), if_neg (by omega), if_neg (by omega), if_neg (by omega),
        if_neg (by omega), if_neg (by omega), if_neg hfirst, if_pos (by omega)]

theorem continued_nil {share n : Nat} {bs : Bytes} (h : share = n) :
    continued share [] bs = .ok (n, bs) := by
  rw [continued, h]

theorem continued_cons {share low high : Nat} {b : UInt8} {ranges : List (Nat × Nat)}
    {bs : Bytes} {r : Nat × Bytes} (hb : low ≤ b.toNat ∧ b.toNat ≤ high)
    (h : continued (share * 64 + b.toNat % 64) ranges bs = .ok r) :
    continued share ((low, high) :: ranges) (b :: bs) = .ok r := by
  rw [continued, if_pos hb, h]
  rfl

/-- The bytes are read as one code point, whatever comes after them. -/
def Spells (bytes : Bytes) (n : Nat) : Prop :=
  ∃ b rest share ranges, bytes = b :: rest ∧ lead? b = some (share, ranges) ∧
    ∀ later, continued share ranges (rest ++ later) = .ok (n, later)

variable {n : Nat}

theorem toNat_tail : (0x80 + n % 64).toUInt8.toNat = 0x80 + n % 64 := toNat_toUInt8 (by omega)

theorem spells_one (h : n < 0x80) : Spells [n.toUInt8] n := by
  have hb : n.toUInt8.toNat = n := toNat_toUInt8 (by omega)
  refine ⟨n.toUInt8, [], n, [], rfl, ?_, fun later => continued_nil rfl⟩
  simp only [lead?, hb]
  exact if_pos h

theorem spells_two (h : 0x80 ≤ n ∧ n < 0x800) :
    Spells [(0xc0 + n / 64).toUInt8, (0x80 + n % 64).toUInt8] n := by
  have hb : (0xc0 + n / 64).toUInt8.toNat = 0xc0 + n / 64 := toNat_toUInt8 (by omega)
  have hlast : (0x80 + n % 64).toUInt8.toNat = 0x80 + n % 64 := toNat_tail
  refine ⟨_, _, _, _, rfl, lead_of_two (by omega), fun later => ?_⟩
  apply continued_cons (by omega)
  apply continued_nil
  omega

theorem spells_three (h : 0x800 ≤ n ∧ n < 0x10000) (hhalf : n < 0xd800 ∨ 0xdfff < n) :
    Spells [(0xe0 + n / 4096).toUInt8, (0x80 + n / 64 % 64).toUInt8, (0x80 + n % 64).toUInt8]
      n := by
  have hb : (0xe0 + n / 4096).toUInt8.toNat = 0xe0 + n / 4096 := toNat_toUInt8 (by omega)
  have hsecond : (0x80 + n / 64 % 64).toUInt8.toNat = 0x80 + n / 64 % 64 := toNat_tail
  have hlast : (0x80 + n % 64).toUInt8.toNat = 0x80 + n % 64 := toNat_tail
  obtain ⟨low, high, hlead, hrange⟩ := lead_of_three (b := (0xe0 + n / 4096).toUInt8)
    (d := (0x80 + n / 64 % 64).toUInt8) (by omega) (by omega) (by omega) (by omega)
  refine ⟨_, _, _, _, rfl, hlead, fun later => ?_⟩
  apply continued_cons hrange
  apply continued_cons (by omega)
  apply continued_nil
  omega

theorem spells_four (h : 0x10000 ≤ n ∧ n < 0x110000) :
    Spells [(0xf0 + n / 262144).toUInt8, (0x80 + n / 4096 % 64).toUInt8,
      (0x80 + n / 64 % 64).toUInt8, (0x80 + n % 64).toUInt8] n := by
  have hb : (0xf0 + n / 262144).toUInt8.toNat = 0xf0 + n / 262144 := toNat_toUInt8 (by omega)
  have hsecond : (0x80 + n / 4096 % 64).toUInt8.toNat = 0x80 + n / 4096 % 64 := toNat_tail
  have hthird : (0x80 + n / 64 % 64).toUInt8.toNat = 0x80 + n / 64 % 64 := toNat_tail
  have hlast : (0x80 + n % 64).toUInt8.toNat = 0x80 + n % 64 := toNat_tail
  obtain ⟨low, high, hlead, hrange⟩ := lead_of_four (b := (0xf0 + n / 262144).toUInt8)
    (d := (0x80 + n / 4096 % 64).toUInt8) (by omega) (by omega) (by omega) (by omega)
  refine ⟨_, _, _, _, rfl, hlead, fun later => ?_⟩
  apply continued_cons hrange
  apply continued_cons (by omega)
  apply continued_cons (by omega)
  apply continued_nil
  omega

theorem spells_encodeChar (c : Char) : Spells (encodeChar c) c.toNat := by
  have hvalid := toNat_lt_or c
  unfold encodeChar
  dsimp only
  split
  · next hone => exact spells_one hone
  · split
    · next hone htwo => exact spells_two (by omega)
    · split
      · next htwo hthree => exact spells_three (by omega) (by omega)
      · next htwo hthree => exact spells_four (by omega)

theorem decodeFrom_cons {b : UInt8} {share start : Nat} {ranges : List (Nat × Nat)}
    {rest later : Bytes} {t : Text} (hlead : lead? b = some (share, ranges))
    (hcode : continued share ranges rest = .ok (n, later))
    (hlater : decodeFrom (start + 1 + ranges.length) later = .ok t) :
    decodeFrom start (b :: rest) = .ok (Char.ofNat n :: t) := by
  rw [decodeFrom, hlead]
  dsimp only
  split
  · next reason good herror =>
    rw [hcode] at herror
    cases herror
  · next m remaining hok =>
    rw [hcode] at hok
    obtain ⟨rfl, rfl⟩ := Prod.mk.inj (Except.ok.inj hok)
    rw [hlater]

theorem decodeFrom_encode (start : Nat) (t : Text) : decodeFrom start (encode t) = .ok t := by
  induction t generalizing start with
  | nil => rw [encode, List.flatMap_nil, decodeFrom]
  | cons c t ih =>
    obtain ⟨b, rest, share, ranges, hbytes, hlead, hcode⟩ := spells_encodeChar c
    have hall : encode (c :: t) = b :: (rest ++ encode t) := by
      rw [encode, List.flatMap_cons, hbytes, List.cons_append, encode]
    rw [hall, decodeFrom_cons hlead (hcode (encode t)) (ih _), Char.ofNat_toNat]

theorem decode_encode (t : Text) : decode (encode t) = .ok t := decodeFrom_encode 0 t

theorem decodeMarked_encodeMarked (t : Text) : decodeMarked (encodeMarked t) = .ok t := by
  have hmark : mark.isPrefixOf? (encodeMarked t) = some (encode t) :=
    List.isPrefixOf?_eq_some_iff_append_eq.2 rfl
  simp only [decodeMarked, hmark, decode_encode]

end Utf8

/-! ### UTF-16 -/

namespace Utf16

theorem unitOf_unitBytes {n : Nat} (h : n < 0x10000) :
    unitOf .lowFirst (n % 256).toUInt8 (n / 256).toUInt8 = n := by
  have hlow : (n % 256).toUInt8.toNat = n % 256 := toNat_toUInt8 (by omega)
  have hhigh : (n / 256).toUInt8.toNat = n / 256 := toNat_toUInt8 (by omega)
  rw [unitOf, hlow, hhigh]
  omega

theorem isHigh_iff {n : Nat} : isHigh n = true ↔ 0xd800 ≤ n ∧ n < 0xdc00 := by
  simp [isHigh]

theorem isLow_iff {n : Nat} : isLow n = true ↔ 0xdc00 ≤ n ∧ n < 0xe000 := by
  simp [isLow]

theorem decodeFrom_unit {n : Nat} (h : n < 0xd800 ∨ (0xdfff < n ∧ n < 0x10000)) (start : Nat)
    (rest : Bytes) :
    decodeFrom .lowFirst start (unitBytes n ++ rest) =
      consChar n (decodeFrom .lowFirst (start + 2) rest) := by
  have hlow : ¬ isLow n = true := by
    rw [isLow_iff]
    omega
  have hhigh : ¬ isHigh n = true := by
    rw [isHigh_iff]
    omega
  rw [unitBytes, List.cons_append, List.cons_append, List.nil_append]
  conv_lhs => unfold decodeFrom
  simp only [unitOf_unitBytes (show n < 0x10000 by omega), if_neg hlow, if_neg hhigh]

theorem decodeFrom_pair {high low : Nat} (hhigh : 0xd800 ≤ high ∧ high < 0xdc00)
    (hlow : 0xdc00 ≤ low ∧ low < 0xe000) (start : Nat) (rest : Bytes) :
    decodeFrom .lowFirst start (unitBytes high ++ (unitBytes low ++ rest)) =
      consChar (joined high low) (decodeFrom .lowFirst (start + 4) rest) := by
  have hfirst : ¬ isLow high = true := by
    rw [isLow_iff]
    omega
  rw [unitBytes, unitBytes]
  simp only [List.cons_append, List.nil_append]
  rw [decodeFrom, unitOf_unitBytes (by omega), unitOf_unitBytes (by omega), if_neg hfirst,
    if_pos (isHigh_iff.2 hhigh)]
  exact if_pos (isLow_iff.2 hlow)

theorem decodeFrom_units (c : Char) (start : Nat) {rest : Bytes} {t : Text}
    (h : ∀ start, decodeFrom .lowFirst start rest = .ok t) :
    decodeFrom .lowFirst start ((units c).flatMap unitBytes ++ rest) = .ok (c :: t) := by
  have hvalid := toNat_lt_or c
  have hcons : ∀ n, n = c.toNat → consChar n (.ok t) = .ok (c :: t) := by
    intro n hn
    rw [hn, consChar, Except.map, Char.ofNat_toNat]
  unfold units
  dsimp only
  split
  · next hone =>
    rw [List.flatMap_singleton, decodeFrom_unit (by omega), h]
    exact hcons _ rfl
  · next htwo =>
    have hpair : joined (0xd800 + (c.toNat - 0x10000) / 0x400)
        (0xdc00 + (c.toNat - 0x10000) % 0x400) = c.toNat := by
      unfold joined
      omega
    rw [List.flatMap_cons, List.flatMap_singleton, List.append_assoc,
      decodeFrom_pair (by omega) (by omega), h]
    exact hcons _ hpair

theorem decodeFrom_encode (start : Nat) (t : Text) :
    decodeFrom .lowFirst start (encode t) = .ok t := by
  induction t generalizing start with
  | nil => rfl
  | cons c t ih =>
    rw [encode, List.flatMap_cons, ← encode]
    exact decodeFrom_units c start ih

theorem decodeMarked_encodeMarked (t : Text) : decodeMarked (encodeMarked t) = .ok t :=
  decodeFrom_encode 2 t

end Utf16

/-! ### Every encoding -/

/-- What the bytes from 0x80 on stand for in an encoding of single bytes. -/
def upperHalf? : Encoding → Option SingleByte.UpperHalf
  | .ascii => some []
  | .latin1 => some SingleByte.latin1
  | .cp1251 => some windowsCyrillic
  | .cp1252 => some windowsWestern
  | .koi8r => some koi8Russian
  | .utf8 => none
  | .utf8Marked => none
  | .utf16 => none
  | .utf16le => none

/-- Whether an encoding has bytes for a character. -/
def Holds (e : Encoding) (c : Char) : Prop :=
  ∀ upper ∈ e.upperHalf?, (SingleByte.byteOf? upper c).isSome = true

theorem holds_ascii (e : Encoding) {c : Char} (hc : c.toNat < 0x80) : e.Holds c :=
  fun _ _ => SingleByte.isSome_byteOf (Or.inl hc)

theorem length_upperHalf {e : Encoding} {upper : SingleByte.UpperHalf}
    (h : upper ∈ e.upperHalf?) : upper.length ≤ 0x80 := by
  cases e <;> cases h <;> decide +kernel

theorem holds_of_decode {e : Encoding} {bs : Bytes} {t : Text} (h : e.decode bs = .ok t) :
    ∀ c ∈ t, e.Holds c := by
  intro c hc upper hupper
  cases e <;> cases hupper <;> exact SingleByte.isSome_byteOf_of_decodeFrom h c hc

/-- A text of characters that an encoding has is read back from its bytes. -/
theorem decode_encode {e : Encoding} {t : Text} (h : ∀ c ∈ t, e.Holds c) :
    ∃ bs, e.encode t = .ok bs ∧ e.decode bs = .ok t := by
  have single : ∀ upper ∈ e.upperHalf?, ∀ codec wording reason,
      ∃ bs, SingleByte.encodeFrom upper codec wording 0 t = .ok bs ∧
        SingleByte.decodeFrom upper reason 0 bs = .ok t := by
    intro upper hupper codec wording reason
    exact SingleByte.decodeFrom_encodeFrom (length_upperHalf hupper) (fun c hc => h c hc upper hupper)
      codec wording reason 0 0
  cases e with
  | utf8 => exact ⟨_, rfl, Utf8.decode_encode t⟩
  | utf8Marked => exact ⟨_, rfl, Utf8.decodeMarked_encodeMarked t⟩
  | utf16 => exact ⟨_, rfl, Utf16.decodeMarked_encodeMarked t⟩
  | utf16le => exact ⟨_, rfl, Utf16.decodeFrom_encode 0 t⟩
  | ascii => exact single [] rfl _ _ _
  | latin1 => exact single SingleByte.latin1 rfl _ _ _
  | cp1251 => exact single windowsCyrillic rfl _ _ _
  | cp1252 => exact single windowsWestern rfl _ _ _
  | koi8r => exact single koi8Russian rfl _ _ _

/-! ### Text files -/

theorem mem_of_mem_unifyNewlines {t : Text} {c : Char} (h : c ∈ unifyNewlines t) :
    c = '\n' ∨ c ∈ t := by
  fun_induction unifyNewlines t <;> grind

/-- A text that was read has no carriage return, and only characters that the encoding has. -/
theorem holds_of_readText {e : Encoding} {bs : Bytes} {t : Text} (h : e.readText bs = .ok t) :
    '\r' ∉ t ∧ ∀ c ∈ t, e.Holds c := by
  unfold readText at h
  cases hdecode : e.decode bs with
  | error cause =>
    rw [hdecode] at h
    cases h
  | ok decoded =>
    rw [hdecode] at h
    rw [← Except.ok.inj h]
    refine ⟨not_mem_unifyNewlines decoded, ?_⟩
    intro c hc
    rcases mem_of_mem_unifyNewlines hc with rfl | hc
    · exact holds_ascii e (by decide)
    · exact holds_of_decode hdecode c hc

theorem readText_encode {e : Encoding} {t : Text} (hreturn : '\r' ∉ t) (h : ∀ c ∈ t, e.Holds c) :
    ∃ bs, e.encode t = .ok bs ∧ e.readText bs = .ok t := by
  obtain ⟨bs, hbytes, hback⟩ := decode_encode h
  refine ⟨bs, hbytes, ?_⟩
  rw [readText, hback, Except.map, unifyNewlines_of_not_mem hreturn]

end GrammarKit.Encoding
