import GrammarKit.Text.Blank

/-!
# Trimmed texts

Trimming at the two ends is independent and leaves nothing to trim. What is trimmed from a text is
also trimmed from every text that ends or starts like it.
-/

namespace GrammarKit.Text

theorem trimStart_cons_of_blank {c : Char} (hc : isBlank c = true) (t : Text) :
    trimStart (c :: t) = trimStart t := by
  simp [trimStart, hc]

theorem trimStart_cons_of_not_blank {c : Char} (hc : isBlank c = false) (t : Text) :
    trimStart (c :: t) = c :: t := by
  simp [trimStart, hc]

theorem trimEnd_cons_of_not_blank {c : Char} (hc : isBlank c = false) (t : Text) :
    trimEnd (c :: t) = c :: trimEnd t := by
  cases h : trimEnd t <;> simp [trimEnd, h, hc]

theorem trimEnd_cons_of_ne_nil {t : Text} (ht : trimEnd t ≠ []) (c : Char) :
    trimEnd (c :: t) = c :: trimEnd t := by
  cases h : trimEnd t with
  | nil => exact absurd h ht
  | cons d kept => simp [trimEnd, h]

theorem trimStart_trimStart (t : Text) : trimStart (trimStart t) = trimStart t := by
  induction t with
  | nil => rfl
  | cons c rest ih =>
    cases hc : isBlank c with
    | true => rw [trimStart_cons_of_blank hc, ih]
    | false => rw [trimStart_cons_of_not_blank hc, trimStart_cons_of_not_blank hc]

theorem trimStart_trimEnd (t : Text) : trimStart (trimEnd t) = trimEnd (trimStart t) := by
  induction t with
  | nil => rfl
  | cons c rest ih =>
    cases hc : isBlank c with
    | true =>
      rw [trimStart_cons_of_blank hc]
      by_cases hrest : trimEnd rest = []
      · have hnil : trimEnd (c :: rest) = [] := by simp [trimEnd, hrest, hc]
        rw [hnil, ← ih, hrest]
      · rw [trimEnd_cons_of_ne_nil hrest, trimStart_cons_of_blank hc, ih]
    | false =>
      rw [trimEnd_cons_of_not_blank hc, trimStart_cons_of_not_blank hc,
        trimStart_cons_of_not_blank hc, trimEnd_cons_of_not_blank hc]

theorem trim_trimEnd (t : Text) : trim (trimEnd t) = trim t := by
  rw [trim, trimStart_trimEnd, trimEnd_trimEnd, trim]

theorem trim_trimStart (t : Text) : trim (trimStart t) = trim t := by
  rw [trim, trimStart_trimStart, trim]

theorem trim_trim (t : Text) : trim (trim t) = trim t :=
  (trim_trimEnd (trimStart t)).trans (trim_trimStart t)

theorem trimStart_trim (t : Text) : trimStart (trim t) = trim t := by
  rw [trim, trimStart_trimEnd, trimStart_trimStart]

theorem trimEnd_trim (t : Text) : trimEnd (trim t) = trim t := trimEnd_trimEnd (trimStart t)

theorem trim_cons_of_blank {c : Char} (hc : isBlank c = true) (t : Text) :
    trim (c :: t) = trim t := by
  rw [trim, trimStart_cons_of_blank hc, trim]

theorem trim_append_of_blank (t : Text) {w : Text} (hw : ∀ c ∈ w, isBlank c = true) :
    trim (t ++ w) = trim t := by
  rw [← trim_trimEnd, trimEnd_append_of_blank t hw, trim_trimEnd]

/-! ### What is cut off, and what stays -/

theorem trimStart_suffix (t : Text) : trimStart t <:+ t := List.dropWhile_suffix isBlank

theorem exists_blank_tail (t : Text) : ∃ w, (∀ c ∈ w, isBlank c = true) ∧ t = trimEnd t ++ w := by
  induction t with
  | nil => exact ⟨[], by simp, rfl⟩
  | cons c rest ih =>
    obtain ⟨w, hw, he⟩ := ih
    by_cases hrest : trimEnd rest = []
    · cases hc : isBlank c with
      | true =>
        have hnil : trimEnd (c :: rest) = [] := by simp [trimEnd, hrest, hc]
        have hall := trimEnd_eq_nil_iff.1 hnil
        exact ⟨c :: rest, hall, by rw [hnil, List.nil_append]⟩
      | false =>
        refine ⟨w, hw, ?_⟩
        rw [trimEnd_cons_of_not_blank hc, List.cons_append, ← he]
    · refine ⟨w, hw, ?_⟩
      rw [trimEnd_cons_of_ne_nil hrest, List.cons_append, ← he]

theorem trimEnd_of_getLast {t : Text} (h : ∀ c ∈ t.getLast?, isBlank c = false) :
    trimEnd t = t := by
  obtain ⟨w, hw, ht⟩ := exists_blank_tail t
  cases hlast : w.getLast? with
  | none =>
    rw [List.getLast?_eq_none_iff.1 hlast, List.append_nil] at ht
    exact ht.symm
  | some c =>
    have hblank : isBlank c = true := hw c (List.mem_of_getLast? hlast)
    have hend : t.getLast? = some c := by rw [ht, List.getLast?_append, hlast, Option.some_or]
    rw [h c hend] at hblank
    cases hblank

theorem trimStart_of_head {t : Text} (h : ∀ c ∈ t.head?, isBlank c = false) : trimStart t = t := by
  cases t with
  | nil => rfl
  | cons c t => exact trimStart_cons_of_not_blank (h c rfl) t

theorem trim_of_forall {t : Text} (h : ∀ c ∈ t, isBlank c = false) : trim t = t := by
  have hstart : trimStart t = t := trimStart_of_head fun c hc => h c (List.mem_of_mem_head? hc)
  rw [trim, hstart]
  exact trimEnd_of_getLast fun c hc => h c (List.mem_of_getLast? hc)

theorem trim_isInfix (t : Text) : trim t <:+: t := by
  obtain ⟨w, -, he⟩ := exists_blank_tail (trimStart t)
  have hpre : trim t <+: trimStart t := ⟨w, he.symm⟩
  exact hpre.isInfix.trans (trimStart_suffix t).isInfix

theorem trimEnd_append_of_ne_nil (s : Text) {t : Text} (ht : trimEnd t ≠ []) :
    trimEnd (s ++ t) = s ++ trimEnd t := by
  induction s with
  | nil => rfl
  | cons c s ih =>
    have hne : trimEnd (s ++ t) ≠ [] := by
      rw [ih]
      exact fun h => ht (List.append_eq_nil_iff.1 h).2
    rw [List.cons_append, trimEnd_cons_of_ne_nil hne, ih, List.cons_append]

theorem not_blank_of_trimStart {c : Char} {t : Text} (h : trimStart (c :: t) = c :: t) :
    isBlank c = false := by
  cases hc : isBlank c with
  | false => rfl
  | true =>
    rw [trimStart_cons_of_blank hc] at h
    have hle := (trimStart_suffix t).length_le
    rw [h, List.length_cons] at hle
    omega

theorem trimStart_of_isPrefix {s t : Text} (hst : s <+: t) (ht : trimStart t = t) :
    trimStart s = s := by
  cases s with
  | nil => rfl
  | cons c s =>
    obtain ⟨after, rfl⟩ := hst
    exact trimStart_cons_of_not_blank (not_blank_of_trimStart ht) s

theorem not_blank_of_trimEnd {t : Text} (h : trimEnd t = t) : ∀ c ∈ t.getLast?, isBlank c = false := by
  intro c hc
  cases hblank : isBlank c with
  | false => rfl
  | true =>
    obtain ⟨front, rfl⟩ := List.getLast?_eq_some_iff.1 hc
    obtain ⟨w, -, hfront⟩ := exists_blank_tail front
    rw [trimEnd_append_of_blank front (by simpa using hblank)] at h
    have hlength := congrArg List.length hfront
    rw [h, List.length_append, List.length_append, List.length_singleton] at hlength
    omega

theorem trimEnd_of_isSuffix {s t : Text} (hst : s <:+ t) (ht : trimEnd t = t) : trimEnd s = s := by
  obtain ⟨front, rfl⟩ := hst
  apply trimEnd_of_getLast
  intro c hc
  apply not_blank_of_trimEnd ht
  rw [List.getLast?_append, Option.mem_def.1 hc, Option.some_or]
  rfl

theorem trimStart_append_of_ne_nil {s : Text} (hs : s ≠ []) (h : trimStart s = s) (t : Text) :
    trimStart (s ++ t) = s ++ t := by
  cases s with
  | nil => exact absurd rfl hs
  | cons c s => exact trimStart_cons_of_not_blank (not_blank_of_trimStart h) (s ++ t)

theorem trimStart_append {s : Text} (h : trimStart s ≠ []) (t : Text) :
    trimStart (s ++ t) = trimStart s ++ t := by
  have hne : (s.dropWhile isBlank).isEmpty ≠ true := fun hnil => h (List.isEmpty_iff.1 hnil)
  rw [trimStart, List.dropWhile_append, if_neg hne]
  rfl

/-- A character that is not blank is not trimmed away, nor is anything behind it. -/
theorem suffix_trimStart {c : Char} (hc : isBlank c = false) (s t : Text) :
    c :: t <:+ trimStart (s ++ c :: t) := by
  have hstay : trimStart (c :: t) = c :: t := trimStart_cons_of_not_blank hc t
  induction s with
  | nil => exact ⟨[], hstay.symm⟩
  | cons d s ih =>
    cases hd : isBlank d with
    | true =>
      rw [List.cons_append, trimStart_cons_of_blank hd]
      exact ih
    | false =>
      rw [List.cons_append, trimStart_cons_of_not_blank hd]
      exact List.suffix_append (d :: s) (c :: t)

end GrammarKit.Text
