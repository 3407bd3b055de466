import GrammarKit.Descriptor.TokenRule
import GrammarKit.Proofs.FirstWays
import GrammarKit.Proofs.Results
import GrammarKit.Regex.Reader

/-!
# Number literals

The engine's mode for numbers begins with a pattern of which the first way to match counts. That it
takes the longest number literal is seen part by part: the digits in front, the fraction and the
exponent, each as long as it can be. A literal that goes on behind one of the parts has all of that
part, since what can follow never looks like more of it.
-/

namespace GrammarKit

open Text Regex

namespace Text

/-- The longest front of a text that is of a kind. -/
structure LongestFront (kind : Text → Prop) (t front : Text) : Prop where
  isFront : front <+: t
  ofKind : kind front
  longest : ∀ other, other <+: t → kind other → other.length ≤ front.length

/-- A part of one kind and behind it one of another. -/
def Joined (first second : Text → Prop) (t : Text) : Prop :=
  ∃ front back, first front ∧ second back ∧ t = front ++ back

/-- The part is of the kind. Whatever begins like `part ++ rest`, with some part of the kind and what may
follow such a part, ends inside of `part` or has all of it. -/
structure Leads (kind follows : Text → Prop) (part rest : Text) : Prop where
  ofKind : kind part
  settles : ∀ other more, kind other → follows more → other ++ more <+: part ++ rest →
    (more = [] ∧ other.length ≤ part.length) ∨ (other = part ∧ more <+: rest)

theorem Leads.longestFront {kind follows later : Text → Prop} {part rest front : Text}
    (hpart : Leads kind follows part rest) (hrest : LongestFront later rest front)
    (hfollows : ∀ more, later more → follows more) :
    LongestFront (Joined kind later) (part ++ rest) (part ++ front) where
  isFront := (List.prefix_append_right_inj part).2 hrest.isFront
  ofKind := ⟨part, front, hpart.ofKind, hrest.ofKind, rfl⟩
  longest := by
    rintro _ hfront ⟨other, more, hother, hmore, rfl⟩
    rcases hpart.settles other more hother (hfollows more hmore) hfront with
      ⟨rfl, hlength⟩ | ⟨rfl, hbehind⟩
    · simp only [List.append_nil, List.length_append]
      omega
    · have hlength := hrest.longest more hbehind hmore
      simp only [List.length_append]
      omega

/-! ### Runs at the front -/

/-- Characters that all pass a test, at least one. -/
def IsRun (p : Char → Bool) (t : Text) : Prop := t ≠ [] ∧ ∀ c ∈ t, p c = true

section

variable {p : Char → Bool} {run rest other more : Text}

theorem exists_front_run (p : Char → Bool) (t : Text) : ∃ run rest, t = run ++ rest ∧
    (∀ c ∈ run, p c = true) ∧ ∀ c ∈ rest.head?, p c = false :=
  ⟨_, _, List.takeWhile_append_dropWhile.symm, List.all_eq_true.1 List.all_takeWhile,
    eq_false_of_head_dropWhile t⟩

theorem exists_isRun {t : Text} (h : ∃ c ∈ t.head?, p c = true) :
    ∃ run rest, t = run ++ rest ∧ IsRun p run ∧ ∀ c ∈ rest.head?, p c = false := by
  obtain ⟨run, rest, rfl, hrun, hrest⟩ := exists_front_run p t
  refine ⟨run, rest, rfl, ⟨?_, hrun⟩, hrest⟩
  rintro rfl
  obtain ⟨c, hc, hpc⟩ := h
  rw [hrest c hc] at hpc
  cases hpc

theorem IsRun.exists_head (h : IsRun p run) (rest : Text) :
    ∃ c ∈ (run ++ rest).head?, p c = true := by
  obtain ⟨c, run, rfl⟩ := List.exists_cons_of_ne_nil h.1
  exact ⟨c, rfl, h.2 c List.mem_cons_self⟩

/-- What begins with characters that pass and goes on with others has the whole run in it. -/
theorem front_of_runs (hrun : ∀ c ∈ run, p c = true) (hrest : ∀ c ∈ rest.head?, p c = false)
    (hother : ∀ c ∈ other, p c = true) (hmore : ∀ c ∈ more.head?, p c = false)
    (h : other ++ more <+: run ++ rest) :
    (more = [] ∧ other <+: run) ∨ (other = run ∧ more <+: rest) := by
  obtain ⟨after, he⟩ := h
  cases more with
  | nil =>
    rw [List.append_nil] at he
    refine .inl ⟨rfl, ?_⟩
    rw [← takeWhile_append_of_head hrun hrest, ← he, List.takeWhile_append_of_pos hother]
    exact List.prefix_append _ _
  | cons c more =>
    have hafter : ∀ d ∈ (c :: more ++ after).head?, p d = false := hmore
    have hsame : other = run := by
      rw [← takeWhile_append_of_head hrun hrest, ← he, List.append_assoc,
        takeWhile_append_of_head hother hafter]
    rw [hsame, List.append_assoc] at he
    exact .inr ⟨hsame, after, List.append_cancel_left he⟩

theorem IsRun.leads (hrun : IsRun p run) (hrest : ∀ c ∈ rest.head?, p c = false) :
    Leads (IsRun p) (fun more => ∀ c ∈ more.head?, p c = false) run rest where
  ofKind := hrun
  settles _ _ hother hmore hfront :=
    (front_of_runs hrun.2 hrest hother.2 hmore hfront).imp (And.imp_right List.IsPrefix.length_le) id

theorem IsRun.longestFront (hrun : IsRun p run) (hrest : ∀ c ∈ rest.head?, p c = false) :
    LongestFront (IsRun p) (run ++ rest) run where
  isFront := List.prefix_append run rest
  ofKind := hrun
  longest other hfront hother := by
    have hnone : ∀ c ∈ ([] : Text).head?, p c = false := nofun
    rw [← List.append_nil other] at hfront
    rcases (hrun.leads hrest).settles other [] hother hnone hfront with ⟨-, hlength⟩ | ⟨rfl, -⟩
    · exact hlength
    · exact Nat.le_refl _

end

/-! ### Decimal digits -/

theorem exists_range_of_covers {ranges : CharRanges} {n : Nat} (h : ranges.covers n = true) :
    ∃ range ∈ ranges, range.1 ≤ n ∧ n ≤ range.2 := by
  induction ranges with
  | nil => cases h
  | cons range ranges ih =>
    obtain ⟨first, last⟩ := range
    rw [CharRanges.covers] at h
    split at h
    · cases h
    · next hfirst =>
      rcases Bool.or_eq_true_iff.1 h with hlast | hlater
      · exact ⟨_, List.mem_cons_self, Nat.not_lt.1 hfirst, of_decide_eq_true hlast⟩
      · obtain ⟨range, hrange, hn⟩ := ih hlater
        exact ⟨range, List.mem_cons_of_mem _ hrange, hn⟩

/-- Whether one of the ranges holds all code points from the first to the last. -/
def CharRanges.coversAll : CharRanges → Nat → Nat → Bool
  | [], _, _ => false
  | (low, high) :: rest, first, last =>
    low ≤ first && (last ≤ high || CharRanges.coversAll rest first last)

theorem covers_of_coversAll {ranges : CharRanges} {first last n : Nat}
    (h : ranges.coversAll first last = true) (hfirst : first ≤ n) (hlast : n ≤ last) :
    ranges.covers n = true := by
  induction ranges with
  | nil => cases h
  | cons range ranges ih =>
    obtain ⟨low, high⟩ := range
    simp only [CharRanges.coversAll, Bool.and_eq_true, Bool.or_eq_true, decide_eq_true_eq] at h
    obtain ⟨hlow, hhigh | hrest⟩ := h
    · rw [CharRanges.covers, if_neg (by omega), decide_eq_true (by omega), Bool.true_or]
    · rw [CharRanges.covers, if_neg (by omega), ih hrest, Bool.or_true]

theorem isWord_of_isDecimal {c : Char} (h : isDecimal c = true) : isWord c = true := by
  have hall : ∀ range ∈ decimalRanges, wordRanges.coversAll range.1 range.2 = true := by
    decide +kernel
  obtain ⟨range, hrange, hfirst, hlast⟩ := exists_range_of_covers h
  exact covers_of_coversAll (hall range hrange) hfirst hlast

end Text

namespace Regex

/-- The set of the given characters. -/
def CharSet.listing (cs : List Char) : CharSet := { items := cs.map fun c => .char c.toNat }

theorem CharSet.covers_listing {cs : List Char} {c : Char} :
    (CharSet.listing cs).covers c = true ↔ c ∈ cs := by
  simp only [listing, covers, Item.covers, Bool.false_eq_true, if_false, Bool.bne_false,
    List.any_map, List.any_eq_true, Function.comp_apply, decide_eq_true_eq, Char.toNat_inj]
  constructor
  · rintro ⟨d, hd, rfl⟩
    exact hd
  · exact fun hc => ⟨c, hc, rfl⟩

end Regex

namespace NumberLiteral

/-! ### What a literal is -/

/-- Nothing, or a point with any number of decimal digits behind it. -/
inductive IsFraction : Text → Prop
  | none : IsFraction []
  | point {digits : Text} (hdigits : ∀ c ∈ digits, isDecimal c = true) :
    IsFraction ('.' :: digits)

def isSign (c : Char) : Bool := c = '-' || c = '+'

/-- Nothing, or a mark, perhaps a sign, and at least one decimal digit. -/
inductive IsExponent : Text → Prop
  | none : IsExponent []
  | marked {mark : Char} {sign : Option Char} {digits : Text} (hmark : mark ∈ ['e', 'E'])
    (hsign : ∀ c ∈ sign, isSign c = true) (hdigits : IsRun isDecimal digits) :
    IsExponent (mark :: (sign.toList ++ digits))

/-- A zero, a mark and at least one hexadecimal digit. -/
inductive IsHexadecimal : Text → Prop
  | mk {mark : Char} {digits : Text} (hmark : mark ∈ ['x', 'X'])
    (hdigits : IsRun isHexDigit digits) : IsHexadecimal ('0' :: mark :: digits)

/-- Decimal digits, at least one, with a fraction and an exponent behind them. -/
def IsDecimal : Text → Prop := Joined (IsRun isDecimal) (Joined IsFraction IsExponent)

def IsLiteral (t : Text) : Prop := IsHexadecimal t ∨ IsDecimal t

/-! ### The pattern -/

def digitSet : CharSet := .ofClass .decimal

def hexDigitSet : CharSet :=
  { items := [.range 'a'.toNat 'f'.toNat, .range 'A'.toNat 'F'.toNat, .range '0'.toNat '9'.toNat] }

def hexadecimalPattern : Pattern :=
  .seq (.one (.listing ['0'])) (.seq (.one (.listing ['x', 'X'])) (.many1 (.one hexDigitSet)))

def fractionPattern : Pattern :=
  .group 3 (.seq (.one (.listing ['.'])) (.many (.one digitSet)))

def exponentPattern : Pattern :=
  .group 4 (.seq (.one (.listing ['e', 'E']))
    (.seq (.optional (.one (.listing ['-', '+']))) (.many1 (.one digitSet))))

def decimalPattern : Pattern :=
  .seq
    (.group 2 (.alt (.seq (.many1 (.one digitSet)) (.optional fractionPattern))
      (.seq (.one (.listing ['.'])) (.many1 (.one digitSet)))))
    (.optional exponentPattern)

def numberRegex : Regex where
  source := Primitives.numberPattern
  pattern := .seq (.anchor .wordBoundary) (.group 1 (.alt hexadecimalPattern decimalPattern))
  groups := 4

theorem read_numberPattern : Regex.read Primitives.numberPattern = .ok numberRegex := by
  apply eq_ok_of_toOption
  decide +kernel

theorem covers_digitSet : digitSet.covers = isDecimal :=
  funext fun c => CharSet.covers_ofClass .decimal c

theorem covers_hexDigitSet : hexDigitSet.covers = isHexDigit := by
  funext c
  rw [Bool.eq_iff_iff]
  simp only [hexDigitSet, CharSet.covers, CharSet.Item.covers, isHexDigit, isAsciiDigit,
    List.any_cons, List.any_nil, Bool.false_eq_true, if_false, Bool.or_false, Bool.bne_false,
    Bool.or_eq_true, Bool.and_eq_true, decide_eq_true_eq, Char.le_def, UInt32.le_iff_toNat_le,
    Char.toNat]
  omega

theorem covers_signs : (CharSet.listing ['-', '+']).covers = isSign := by
  funext c
  rw [Bool.eq_iff_iff, CharSet.covers_listing]
  simp [isSign]

theorem takesFirst_digits (front : Text) {digits rest : Text} (hdigits : IsRun isDecimal digits)
    (hrest : ∀ c ∈ rest.head?, isDecimal c = false) :
    (Pattern.many1 (.one digitSet)).TakesFirst front digits rest := by
  rw [← covers_digitSet] at hdigits hrest
  exact Pattern.takesFirst_many1_one hdigits.1 hdigits.2 hrest

theorem refuses_digits {front back : Text} (h : ∀ c ∈ back.head?, isDecimal c = false) :
    (Pattern.many1 (.one digitSet)).Refuses front back := by
  rw [← covers_digitSet] at h
  exact Pattern.refuses_many1_one h

theorem not_decimal_of_mark : ∀ c ∈ ['.', 'e', 'E', '-', '+', 'x', 'X'], isDecimal c = false := by
  simp only [List.mem_cons, List.not_mem_nil, or_false, forall_eq_or_imp, forall_eq]
  decide

/-! ### Fractions -/

theorem leads_point {digits rest : Text} (hdigits : ∀ c ∈ digits, isDecimal c = true)
    (hrest : ∀ c ∈ rest.head?, isDecimal c = false) :
    Leads IsFraction (fun more => ∀ c ∈ more.head?, c ∈ ['e', 'E']) ('.' :: digits) rest where
  ofKind := .point hdigits
  settles other more hother hmore hfront := by
    cases hother with
    | none =>
      cases more with
      | nil => exact .inl ⟨rfl, Nat.zero_le _⟩
      | cons c more =>
        obtain ⟨rfl, -⟩ := List.cons_prefix_cons.1 hfront
        exact absurd (hmore '.' rfl) (by decide)
    | point hother =>
      have hend : ∀ c ∈ more.head?, isDecimal c = false := fun c hc =>
        not_decimal_of_mark c (List.mem_cons_of_mem _ (List.mem_append_left _ (hmore c hc)))
      have hbehind := (List.cons_prefix_cons.1 hfront).2
      rcases front_of_runs hdigits hrest hother hend hbehind with ⟨rfl, hshort⟩ | ⟨rfl, hmore⟩
      · exact .inl ⟨rfl, Nat.succ_le_succ hshort.length_le⟩
      · exact .inr ⟨rfl, hmore⟩

theorem leads_no_fraction {t : Text} (h : ∀ c ∈ t.head?, c ≠ '.') :
    Leads IsFraction (fun more => ∀ c ∈ more.head?, c ∈ ['e', 'E']) [] t where
  ofKind := .none
  settles other more hother hmore hfront := by
    cases hother with
    | none => exact .inr ⟨rfl, hfront⟩
    | point hdigits =>
      obtain ⟨after, rfl⟩ := hfront
      exact absurd rfl (h '.' rfl)

theorem exists_fraction (front t : Text) : ∃ fraction rest, t = fraction ++ rest ∧
    Leads IsFraction (fun more => ∀ c ∈ more.head?, c ∈ ['e', 'E']) fraction rest ∧
    (Pattern.optional fractionPattern).TakesFirst front fraction rest := by
  by_cases hpoint : t.head? = some '.'
  · obtain ⟨t, rfl⟩ := List.head?_eq_some_iff.1 hpoint
    obtain ⟨digits, rest, rfl, hdigits, hrest⟩ := exists_front_run isDecimal t
    refine ⟨'.' :: digits, rest, rfl, leads_point hdigits hrest, ?_⟩
    rw [← covers_digitSet] at hdigits hrest
    have hmark : (CharSet.listing ['.']).covers '.' = true := by decide
    exact (((Pattern.takesFirst_one hmark).seq
      (Pattern.takesFirst_many_one hdigits hrest)).group 3).optional
  · have hnone : ∀ c ∈ t.head?, c ≠ '.' := by
      rintro c hc rfl
      exact hpoint hc
    refine ⟨[], t, rfl, leads_no_fraction hnone, ?_⟩
    have hrefuses : (Pattern.one (.listing ['.'])).Refuses front t := Pattern.refuses_one fun c hc =>
      eq_false_of_ne_true fun hcovers =>
        hnone c hc (List.mem_singleton.1 (CharSet.covers_listing.1 hcovers))
    exact ((hrefuses.seq _).group 3).optional

/-! ### Exponents -/

theorem not_sign_of_decimal {c : Char} (h : isDecimal c = true) : isSign c = false := by
  refine eq_false_of_ne_true fun hsign => ?_
  have hmark : c ∈ ['.', 'e', 'E', '-', '+', 'x', 'X'] := by
    simp only [isSign, Bool.or_eq_true, decide_eq_true_eq] at hsign
    rcases hsign with rfl | rfl <;> decide
  rw [not_decimal_of_mark c hmark] at h
  cases h

theorem not_sign_of_run {digits : Text} (h : IsRun isDecimal digits) (rest : Text) :
    ∀ c ∈ (digits ++ rest).head?, isSign c = false := by
  obtain ⟨d, hd, hdecimal⟩ := h.exists_head rest
  intro c hc
  obtain rfl := Option.mem_unique hd hc
  exact not_sign_of_decimal hdecimal

section

variable {mark : Char} {sign : Option Char} {digits rest : Text} (hmark : mark ∈ ['e', 'E'])
  (hsign : ∀ c ∈ sign, isSign c = true) (hdigits : IsRun isDecimal digits)
  (hrest : ∀ c ∈ rest.head?, isDecimal c = false)
include hmark hsign hdigits hrest

/-- Which exponent a text begins with is settled by the mark, the sign and the digits. -/
theorem longestFront_exponent :
    LongestFront IsExponent (mark :: (sign.toList ++ (digits ++ rest)))
      (mark :: (sign.toList ++ digits)) where
  isFront := by simp
  ofKind := .marked hmark hsign hdigits
  longest := by
    have hsigns : ∀ {s : Option Char}, (∀ c ∈ s, isSign c = true) →
        ∀ c ∈ s.toList, isSign c = true := fun hs c hc => hs c (Option.mem_toList.1 hc)
    intro other hfront hother
    cases hother with
    | none => exact Nat.zero_le _
    | @marked _ other more hmark' hother hmore =>
      obtain ⟨rfl, hbehind⟩ := List.cons_prefix_cons.1 hfront
      have hend := not_sign_of_run hmore []
      rw [List.append_nil] at hend
      rcases front_of_runs (hsigns hsign) (not_sign_of_run hdigits rest) (hsigns hother) hend hbehind
        with ⟨hnil, -⟩ | ⟨hsame, hlater⟩
      · exact absurd hnil hmore.1
      · have hlength := (hdigits.longestFront hrest).longest more hlater hmore
        rw [hsame]
        simpa using hlength

theorem takesFirst_exponent (front : Text) :
    exponentPattern.TakesFirst front (mark :: (sign.toList ++ digits)) rest := by
  have hsigned : ∀ front, (Pattern.optional (.one (.listing ['-', '+']))).TakesFirst front sign.toList
      (digits ++ rest) := by
    intro front
    cases sign with
    | none =>
      refine Pattern.Refuses.optional (Pattern.refuses_one fun c hc => ?_)
      rw [covers_signs]
      exact not_sign_of_run hdigits rest c hc
    | some c =>
      have hc : (CharSet.listing ['-', '+']).covers c = true := by
        rw [covers_signs]
        exact hsign c rfl
      exact (Pattern.takesFirst_one hc).optional
  have hmarked : (CharSet.listing ['e', 'E']).covers mark = true := CharSet.covers_listing.2 hmark
  exact ((Pattern.takesFirst_one hmarked).seq
    ((hsigned _).seq (takesFirst_digits _ hdigits hrest))).group 4

end

theorem refuses_exponent {front t : Text}
    (h : ∀ other, other ≠ [] → IsExponent other → ¬ other <+: t) :
    exponentPattern.Refuses front t := by
  refine Pattern.Refuses.group (Pattern.refuses_one_seq fun mark t' ht hmark => ?_) 4
  -- one digit behind the mark, or behind a sign, would make an exponent
  have hnone : ∀ (sign : Option Char) (back : Text), (∀ c ∈ sign, isSign c = true) →
      t' = sign.toList ++ back → ∀ c ∈ back.head?, isDecimal c = false := by
    rintro sign back hsign rfl c hc
    obtain ⟨back, rfl⟩ := List.head?_eq_some_iff.1 hc
    refine eq_false_of_ne_true fun hdecimal => ?_
    have hdigits : IsRun isDecimal [c] := ⟨by simp, by simpa using hdecimal⟩
    refine h _ (by simp) (.marked (CharSet.covers_listing.1 hmark) hsign hdigits) ?_
    rw [ht]
    simp
  refine Pattern.refuses_optional_one_seq (refuses_digits (hnone none t' nofun rfl)) ?_
  intro sign back ht' hsign
  rw [covers_signs] at hsign
  exact refuses_digits (hnone (some sign) back (by rintro c ⟨rfl⟩; exact hsign) ht')

theorem exists_exponent (front t : Text) : ∃ exponent rest, t = exponent ++ rest ∧
    LongestFront IsExponent t exponent ∧
    (Pattern.optional exponentPattern).TakesFirst front exponent rest := by
  by_cases h : ∃ other, other ≠ [] ∧ IsExponent other ∧ other <+: t
  · obtain ⟨other, hne, hother, after, rfl⟩ := h
    cases hother with
    | none => exact absurd rfl hne
    | @marked mark sign digits hmark hsign hdigits =>
      obtain ⟨all, rest, he, hall, hrest⟩ := exists_isRun (hdigits.exists_head after)
      rw [List.cons_append, List.append_assoc, he]
      exact ⟨mark :: (sign.toList ++ all), rest, by simp, longestFront_exponent hmark hsign hall hrest,
        (takesFirst_exponent hmark hsign hall hrest front).optional⟩
  · refine ⟨[], t, rfl, ⟨List.nil_prefix, .none, fun other hfront hother => ?_⟩,
      (refuses_exponent fun other hne hother hfront => h ⟨other, hne, hother, hfront⟩).optional⟩
    by_contra hlonger
    exact h ⟨other, fun hnil => hlonger (by simp [hnil]), hother, hfront⟩

/-! ### Decimal literals -/

theorem head_of_exponent {t : Text} (h : IsExponent t) : ∀ c ∈ t.head?, c ∈ ['e', 'E'] := by
  cases h with
  | none => exact nofun
  | marked hmark =>
    rintro c ⟨rfl⟩
    exact hmark

theorem head_of_joined {t : Text} (h : Joined IsFraction IsExponent t) :
    ∀ c ∈ t.head?, c ∈ ['.', 'e', 'E'] := by
  obtain ⟨fraction, exponent, hfraction, hexponent, rfl⟩ := h
  cases hfraction with
  | none => exact fun c hc => List.mem_cons_of_mem _ (head_of_exponent hexponent c hc)
  | point =>
    rintro c ⟨rfl⟩
    exact List.mem_cons_self

/-- Behind its first digits, a decimal literal goes on with no digit. -/
theorem longestFront_decimal {digits behind front : Text} (hdigits : IsRun isDecimal digits)
    (hbehind : ∀ c ∈ behind.head?, isDecimal c = false)
    (h : LongestFront (Joined IsFraction IsExponent) behind front) :
    LongestFront IsDecimal (digits ++ behind) (digits ++ front) :=
  (hdigits.leads hbehind).longestFront h fun _ hmore c hc =>
    not_decimal_of_mark c (List.mem_append_left ['-', '+', 'x', 'X'] (head_of_joined hmore c hc))

theorem exists_decimal (front : Text) {t : Text} (h : ∃ c ∈ t.head?, isDecimal c = true) :
    ∃ number rest, t = number ++ rest ∧ LongestFront IsDecimal t number ∧
      decimalPattern.TakesFirst front number rest := by
  obtain ⟨digits, behind, rfl, hdigits, hbehind⟩ := exists_isRun h
  obtain ⟨fraction, later, rfl, hfraction, htakesFraction⟩ := exists_fraction (front ++ digits) behind
  obtain ⟨exponent, rest, rfl, hexponent, htakesExponent⟩ :=
    exists_exponent (front ++ (digits ++ fraction)) later
  refine ⟨digits ++ (fraction ++ exponent), rest, by simp, ?_, ?_⟩
  · exact longestFront_decimal hdigits hbehind
      (hfraction.longestFront hexponent fun _ => head_of_exponent)
  · rw [← List.append_assoc]
    exact ((((takesFirst_digits front hdigits hbehind).seq htakesFraction).alt _).group 2).seq
      htakesExponent

/-! ### Hexadecimal literals -/

section

variable {mark : Char} {digits rest : Text} (hmark : mark ∈ ['x', 'X'])
  (hdigits : IsRun isHexDigit digits) (hrest : ∀ c ∈ rest.head?, isHexDigit c = false)
include hmark hdigits hrest

theorem takesFirst_hexadecimal (front : Text) :
    hexadecimalPattern.TakesFirst front ('0' :: mark :: digits) rest := by
  rw [← covers_hexDigitSet] at hdigits hrest
  have hzero : (CharSet.listing ['0']).covers '0' = true := by decide
  have hmarked : (CharSet.listing ['x', 'X']).covers mark = true := CharSet.covers_listing.2 hmark
  exact (Pattern.takesFirst_one hzero).seq
    ((Pattern.takesFirst_one hmarked).seq (Pattern.takesFirst_many1_one hdigits.1 hdigits.2 hrest))

/-- A decimal literal in the place of a hexadecimal one is no more than the zero. -/
theorem longestFront_hexadecimal :
    LongestFront IsLiteral ('0' :: mark :: (digits ++ rest)) ('0' :: mark :: digits) where
  isFront := by simp
  ofKind := .inl (.mk hmark hdigits)
  longest := by
    rintro other hfront (hother | hother)
    · cases hother with
      | @mk _ others _ hothers =>
        have hbehind := (List.cons_prefix_cons.1 (List.cons_prefix_cons.1 hfront).2).2
        have hlength := (hdigits.longestFront hrest).longest others hbehind hothers
        exact Nat.succ_le_succ (Nat.succ_le_succ hlength)
    · have hzero : IsRun isDecimal ['0'] := ⟨by simp, List.forall_mem_singleton.2 (by decide)⟩
      have hnone : LongestFront (Joined IsFraction IsExponent) (mark :: (digits ++ rest)) [] := by
        refine ⟨List.nil_prefix, ⟨[], [], .none, .none, rfl⟩, fun more hmore hjoined => ?_⟩
        cases more with
        | nil => exact Nat.le_refl _
        | cons c more =>
          obtain ⟨rfl, -⟩ := List.cons_prefix_cons.1 hmore
          have hnot : c ∉ ['.', 'e', 'E'] := by
            rcases List.mem_pair.1 hmark with rfl | rfl <;> decide
          exact absurd (head_of_joined hjoined c rfl) hnot
      have hbehind : ∀ c ∈ (mark :: (digits ++ rest)).head?, isDecimal c = false := by
        rintro c ⟨rfl⟩
        exact not_decimal_of_mark mark (List.mem_append_right ['.', 'e', 'E', '-', '+'] hmark)
      have hlength := (longestFront_decimal hzero hbehind hnone).longest other hfront hother
      exact Nat.le_trans hlength (by simp)

end

theorem refuses_hexadecimal {front t : Text} (h : ∀ other, IsHexadecimal other → ¬ other <+: t) :
    hexadecimalPattern.Refuses front t := by
  refine Pattern.refuses_one_seq fun zero t' ht hzero => ?_
  refine Pattern.refuses_one_seq fun mark back ht' hmark => Pattern.refuses_many1_one fun c hc => ?_
  obtain rfl : zero = '0' := List.mem_singleton.1 (CharSet.covers_listing.1 hzero)
  obtain ⟨back, rfl⟩ := List.head?_eq_some_iff.1 hc
  rw [covers_hexDigitSet]
  refine eq_false_of_ne_true fun hdigit => ?_
  have hdigits : IsRun isHexDigit [c] := ⟨by simp, by simpa using hdigit⟩
  refine h ['0', mark, c] (.mk (CharSet.covers_listing.1 hmark) hdigits) ?_
  rw [ht, ht']
  simp

/-! ### Literals at the start of a text -/

theorem exists_literal (front : Text) {t : Text} (h : ∃ c ∈ t.head?, isDecimal c = true) :
    ∃ number rest, t = number ++ rest ∧ LongestFront IsLiteral t number ∧
      (Pattern.alt hexadecimalPattern decimalPattern).TakesFirst front number rest := by
  by_cases hhex : ∃ other, IsHexadecimal other ∧ other <+: t
  · obtain ⟨other, hother, after, rfl⟩ := hhex
    cases hother with
    | @mk mark digits hmark hdigits =>
      obtain ⟨all, rest, he, hall, hrest⟩ := exists_isRun (hdigits.exists_head after)
      rw [List.cons_append, List.cons_append, he]
      exact ⟨'0' :: mark :: all, rest, rfl, longestFront_hexadecimal hmark hall hrest,
        (takesFirst_hexadecimal hmark hall hrest front).alt _⟩
  · obtain ⟨number, rest, rfl, hlongest, htakes⟩ := exists_decimal front h
    refine ⟨number, rest, rfl, ⟨hlongest.isFront, .inr hlongest.ofKind, ?_⟩, ?_⟩
    · rintro other hfront (hother | hother)
      · exact absurd ⟨other, hother, hfront⟩ hhex
      · exact hlongest.longest other hfront hother
    · exact (refuses_hexadecimal fun other hother hfront => hhex ⟨other, hother, hfront⟩).alt htakes

theorem isBoundary_of_decimal {t : Text} (h : ∃ c ∈ t.head?, isDecimal c = true) :
    isBoundary [] t = true := by
  obtain ⟨c, hc, hdecimal⟩ := h
  obtain ⟨t, rfl⟩ := List.head?_eq_some_iff.1 hc
  simp [isBoundary, isWord_of_isDecimal hdecimal]

end NumberLiteral

open NumberLiteral

/-- At the start of a text that begins with a decimal digit, the pattern for numbers matches, and the
match is the longest front of the text that is a number literal. -/
theorem Primitives.number_takes_longest {t : Text} (h : ∃ c ∈ t.head?, isDecimal c = true) :
    ∃ regex m, Regex.read Primitives.engine.number.opening = .ok regex ∧
      regex.pattern.matchAt false (Cursor.start t) = some m ∧ m.start = Cursor.start t ∧
      LongestFront IsLiteral t m.text := by
  obtain ⟨number, rest, rfl, hlongest, htakes⟩ := exists_literal [] h
  have hpattern : numberRegex.pattern.TakesFirst [] ([] ++ number) rest :=
    (Pattern.takesFirst_wordBoundary (isBoundary_of_decimal h)).seq (htakes.group 1)
  obtain ⟨groups, hmatch⟩ := hpattern.matchAt
  refine ⟨numberRegex, _, read_numberPattern, hmatch, rfl, ?_⟩
  have htext : Match.text ⟨.between [] (number ++ rest), .between ([] ++ number) rest, groups⟩ =
      number := Cursor.upTo_between _ _ _ _
  exact htext.symm ▸ hlongest

/-- An exponent that lacks its digits is no part of the number. -/
theorem Primitives.number_takes_longest_openExponent :
    ∃ m, numberRegex.pattern.matchAt false (Cursor.start "7.50e+x".toList) = some m ∧
      m.text = "7.50".toList ∧ LongestFront IsLiteral "7.50e+x".toList "7.50".toList := by
  have hdigit : ∃ c ∈ "7.50e+x".toList.head?, isDecimal c = true := ⟨'7', by decide, by decide⟩
  obtain ⟨regex, m, hread, hmatch, -, hlongest⟩ := Primitives.number_takes_longest hdigit
  obtain rfl : numberRegex = regex := Except.ok.inj (read_numberPattern.symm.trans hread)
  have htaken : (numberRegex.pattern.matchAt false (Cursor.start "7.50e+x".toList)).map Match.text =
      some "7.50".toList := by decide +kernel
  rw [hmatch, Option.map_some, Option.some.injEq] at htaken
  rw [htaken] at hlongest
  exact ⟨m, hmatch, htaken, hlongest⟩

end GrammarKit
