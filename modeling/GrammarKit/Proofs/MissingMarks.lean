import GrammarKit.Encoding.Codec

/-!
# Bytes without a mark

Only one encoding asks for a mark in front of a text, and it asks for it last: bytes lack the mark if
they would be a text without it.
-/

namespace GrammarKit.Encoding

theorem SingleByte.decodeFrom_ne_noMark (upper : UpperHalf) (reason : DecodeReason) (start : Nat)
    (bs : Bytes) : decodeFrom upper reason start bs ≠ .error .noMark := by
  induction bs generalizing start with
  | nil => exact nofun
  | cons b rest ih =>
    unfold decodeFrom
    split
    · exact nofun
    · split
      · exact nofun
      · next e he =>
        rintro ⟨⟩
        exact ih (start + 1) he

theorem Utf8.decodeFrom_ne_noMark (start : Nat) (bs : Bytes) :
    decodeFrom start bs ≠ .error .noMark := by
  fun_induction decodeFrom start bs
  case case5 he ih =>
    rintro ⟨⟩
    exact ih he
  all_goals exact nofun

namespace Utf16

theorem consChar_ne_noMark {n : Nat} {t : Except DecodeError Text} (h : t ≠ .error .noMark) :
    consChar n t ≠ .error .noMark := by
  cases t with
  | ok text => exact nofun
  | error e =>
    rintro ⟨⟩
    exact h rfl

theorem decodeFrom_ne_noMark (order : ByteOrder) (start : Nat) (bs : Bytes) :
    decodeFrom order start bs ≠ .error .noMark := by
  fun_induction decodeFrom order start bs
  case case4 ih => exact consChar_ne_noMark ih
  case case7 ih => exact consChar_ne_noMark ih
  all_goals exact nofun

/-- Bytes without a mark that would be a text if the low bytes came first. -/
def LacksMark (bs : Bytes) : Prop :=
  bs ≠ [] ∧ ¬ [0xff, 0xfe] <+: bs ∧ ¬ [0xfe, 0xff] <+: bs ∧ ∃ t, decode bs = .ok t

theorem decodeMarked_eq_noMark_iff {bs : Bytes} :
    decodeMarked bs = .error .noMark ↔ LacksMark bs := by
  unfold decodeMarked
  split
  · next rest =>
    exact ⟨fun h => absurd h (decodeFrom_ne_noMark _ _ _), fun h => absurd ⟨rest, rfl⟩ h.2.1⟩
  · next rest =>
    exact ⟨fun h => absurd h (decodeFrom_ne_noMark _ _ _), fun h => absurd ⟨rest, rfl⟩ h.2.2.1⟩
  · exact ⟨nofun, fun h => absurd rfl h.1⟩
  · next hlow hhigh hne =>
    have hplain : ¬ [0xff, 0xfe] <+: bs ∧ ¬ [0xfe, 0xff] <+: bs :=
      ⟨fun ⟨rest, h⟩ => hlow rest h.symm, fun ⟨rest, h⟩ => hhigh rest h.symm⟩
    cases hdecode : decodeFrom .lowFirst 0 bs with
    | ok t => exact ⟨fun _ => ⟨hne, hplain.1, hplain.2, t, hdecode⟩, fun _ => rfl⟩
    | error e =>
      constructor
      · rintro ⟨⟩
        exact absurd hdecode (decodeFrom_ne_noMark _ _ _)
      · rintro ⟨-, -, -, t, ht⟩
        rw [decode, hdecode] at ht
        cases ht

end Utf16

theorem decode_ne_noMark {e : Encoding} (he : e ≠ .utf16) (bs : Bytes) :
    e.decode bs ≠ .error .noMark := by
  cases e with
  | utf16 => exact absurd rfl he
  | utf16le => exact Utf16.decodeFrom_ne_noMark _ _ _
  | utf8 => exact Utf8.decodeFrom_ne_noMark _ _
  | utf8Marked =>
    unfold decode Utf8.decodeMarked
    dsimp only
    split
    · exact Utf8.decodeFrom_ne_noMark _ _
    · split
      · exact nofun
      · exact Utf8.decodeFrom_ne_noMark _ _
  | ascii | latin1 | cp1251 | cp1252 | koi8r => exact SingleByte.decodeFrom_ne_noMark _ _ _ _

theorem readText_eq_noMark_iff {e : Encoding} {bs : Bytes} :
    e.readText bs = .error .noMark ↔ e = .utf16 ∧ Utf16.LacksMark bs := by
  have hread : e.readText bs = .error .noMark ↔ e.decode bs = .error .noMark := by
    unfold readText
    cases e.decode bs with
    | ok t => exact ⟨nofun, nofun⟩
    | error cause => exact Iff.rfl
  rw [hread]
  by_cases he : e = .utf16
  · rw [he, ← Utf16.decodeMarked_eq_noMark_iff]
    exact ⟨fun h => ⟨rfl, h⟩, fun h => h.2⟩
  · exact ⟨fun h => absurd h (decode_ne_noMark he bs), fun h => absurd h.1 he⟩

end GrammarKit.Encoding
