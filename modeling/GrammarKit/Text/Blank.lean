import GrammarKit.Text.Basic

/-!
# White space

The characters that separate words, trimming at both ends of a text, and its words.
-/

namespace GrammarKit.Text

/-- White space: the ASCII blanks, the four separators U+001C to U+001F, the next-line control and
the spaces and line ends of Unicode. The zero-width space and the byte order mark are none. -/
def isBlank (c : Char) : Bool :=
  let n := c.toNat
  (9 ≤ n && n ≤ 13) || (28 ≤ n && n ≤ 32) || n == 0x85 || n == 0xa0 || n == 0x1680 ||
    (0x2000 ≤ n && n ≤ 0x200a) || n == 0x2028 || n == 0x2029 || n == 0x202f || n == 0x205f ||
    n == 0x3000

def trimStart (t : Text) : Text := t.dropWhile isBlank

def trimEnd : Text → Text
  | [] => []
  | c :: rest =>
    match trimEnd rest with
    | [] => if isBlank c then [] else [c]
    | kept => c :: kept

def trim (t : Text) : Text := trimEnd (trimStart t)

theorem trimStart_append_of_blank {w : Text} (hw : ∀ c ∈ w, isBlank c) (t : Text) :
    trimStart (w ++ t) = trimStart t := by
  induction w with
  | nil => rfl
  | cons c w ih =>
    simp only [trimStart, List.cons_append, List.dropWhile_cons, hw c List.mem_cons_self, if_true]
    exact ih fun d hd => hw d (List.mem_cons_of_mem _ hd)

theorem trimEnd_eq_nil_iff {t : Text} : trimEnd t = [] ↔ ∀ c ∈ t, isBlank c := by
  induction t with
  | nil => simp [trimEnd]
  | cons c rest ih =>
    unfold trimEnd
    split
    · next h =>
      by_cases hc : isBlank c
      · simpa [hc] using ih.1 h
      · simp [hc]
    · next h =>
      constructor
      · intro hnil
        simp at hnil
      · intro hall
        exact absurd (ih.2 fun d hd => hall d (List.mem_cons_of_mem _ hd)) h

theorem trimEnd_append_of_blank (t : Text) {w : Text} (hw : ∀ c ∈ w, isBlank c) :
    trimEnd (t ++ w) = trimEnd t := by
  induction t with
  | nil => simpa [trimEnd] using trimEnd_eq_nil_iff.2 hw
  | cons c rest ih => rw [List.cons_append, trimEnd, ih, trimEnd]

theorem trimEnd_trimEnd (t : Text) : trimEnd (trimEnd t) = trimEnd t := by
  induction t with
  | nil => rfl
  | cons c rest ih =>
    rw [trimEnd]
    split
    · split
      · rfl
      · next hc => simp [trimEnd, hc]
    · next h =>
      rw [trimEnd, ih]
      split
      · next hn => exact absurd hn h
      · rfl

/-- The words of a text: its longest stretches without white space. -/
def words (t : Text) : List Text := (splitWhen isBlank t).filter (!·.isEmpty)

theorem words_append_cons {c : Char} (hc : isBlank c) (s t : Text) :
    words (s ++ c :: t) = words s ++ words t := by
  rw [words, splitWhen_append_cons hc, List.filter_append, words, words]

theorem words_of_forall {w : Text} (hne : w ≠ []) (h : ∀ c ∈ w, isBlank c = false) :
    words w = [w] := by
  rw [words, splitWhen_of_forall h]
  simp [hne]

theorem not_blank_of_mem_words {t w : Text} (h : w ∈ words t) :
    w ≠ [] ∧ ∀ c ∈ w, isBlank c = false := by
  obtain ⟨hw, hne⟩ := List.mem_filter.1 h
  exact ⟨by simpa using hne, fun c hc => eq_false_of_mem_splitWhen hw hc⟩

end GrammarKit.Text
