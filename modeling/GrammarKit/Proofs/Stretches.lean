import GrammarKit.Proofs.WordRuns

/-!
# Cutting a text at the characters between words

A text is a piece of word characters, perhaps empty, and then any number of other characters, each
with the piece of word characters behind it. Unlike runs, these stretches stay what they are when
something is put in the place of a piece.
-/

namespace GrammarKit.Text

/-- The pieces of word characters between the other characters of a text, empty where two of those
meet. -/
def wordPieces (t : Text) : List Text := splitWhen (fun c => !isWord c) t

/-- A character that no word has in it, and the word characters behind it. -/
structure Stretch where
  mark : Char
  word : Text
  isWord_mark : isWord mark = false
  isWord_word : ∀ c ∈ word, isWord c = true

def Stretch.text (s : Stretch) : Text := s.mark :: s.word

def glue (first : Text) (later : List Stretch) : Text := first ++ later.flatMap Stretch.text

theorem glue_nil (first : Text) : glue first [] = first := List.append_nil first

theorem glue_cons (first : Text) (s : Stretch) (later : List Stretch) :
    glue first (s :: later) = first ++ s.mark :: glue s.word later := rfl

theorem glue_append (first : Text) (front back : List Stretch) :
    glue first (front ++ back) = glue first front ++ back.flatMap Stretch.text := by
  rw [glue, glue, List.flatMap_append, List.append_assoc]

theorem exists_glue (t : Text) :
    ∃ first later, (∀ c ∈ first, isWord c = true) ∧ glue first later = t := by
  induction t with
  | nil => exact ⟨[], [], by simp, rfl⟩
  | cons c t ih =>
    obtain ⟨first, later, hfirst, rfl⟩ := ih
    cases hc : isWord c with
    | true =>
      refine ⟨c :: first, later, ?_, rfl⟩
      intro d hd
      rcases List.mem_cons.1 hd with rfl | hd
      · exact hc
      · exact hfirst d hd
    | false => exact ⟨[], ⟨c, first, hc, hfirst⟩ :: later, by simp, rfl⟩

theorem head_flatMap_text (later : List Stretch) :
    (later.flatMap Stretch.text).head?.any isWord = false := by
  cases later with
  | nil => rfl
  | cons s later => exact s.isWord_mark

theorem length_le_glue (first : Text) (later : List Stretch) :
    later.length ≤ (glue first later).length := by
  induction later generalizing first with
  | nil => exact Nat.zero_le _
  | cons s later ih =>
    have hlater := ih s.word
    rw [glue_cons, List.length_append, List.length_cons, List.length_cons]
    omega

/-! ### Pieces -/

theorem wordPieces_of_word {word : Text} (hword : ∀ c ∈ word, isWord c = true) :
    wordPieces word = [word] := splitWhen_of_forall fun c hc => by rw [hword c hc]; rfl

theorem wordPieces_append_cons {c : Char} (hc : isWord c = false) (s t : Text) :
    wordPieces (s ++ c :: t) = wordPieces s ++ wordPieces t :=
  splitWhen_append_cons (by rw [hc]; rfl) s t

theorem mem_wordPieces_append {word rest : Text} (hword : ∀ c ∈ word, isWord c = true)
    (hrest : rest.head?.any isWord = false) : word ∈ wordPieces (word ++ rest) := by
  cases rest with
  | nil =>
    rw [List.append_nil, wordPieces_of_word hword]
    exact List.mem_cons_self
  | cons c rest =>
    rw [wordPieces_append_cons hrest, wordPieces_of_word hword]
    exact List.mem_cons_self

theorem wordPieces_ne_nil (t : Text) : wordPieces t ≠ [] := splitWhen_ne_nil _ t

theorem wordPieces_glue {first : Text} (hfirst : ∀ c ∈ first, isWord c = true)
    (later : List Stretch) : wordPieces (glue first later) = first :: later.map Stretch.word := by
  induction later generalizing first with
  | nil => rw [glue_nil, wordPieces_of_word hfirst, List.map_nil]
  | cons s later ih =>
    rw [glue_cons, wordPieces_append_cons s.isWord_mark, wordPieces_of_word hfirst,
      ih s.isWord_word, List.map_cons, List.singleton_append]

/-- The piece with which a text ends. -/
def lastPiece (first : Text) : List Stretch → Text
  | [] => first
  | s :: later => lastPiece s.word later

theorem getLast?_wordPieces_glue {first : Text} (hfirst : ∀ c ∈ first, isWord c = true)
    (later : List Stretch) : (wordPieces (glue first later)).getLast? = some (lastPiece first later) := by
  rw [wordPieces_glue hfirst]
  clear hfirst
  induction later generalizing first with
  | nil => rfl
  | cons s later ih => rw [List.map_cons, List.getLast?_cons_cons, ih, lastPiece]

theorem eq_of_wordPieces_eq_singleton {t word : Text} (h : wordPieces t = [word]) : t = word := by
  obtain ⟨first, later, hfirst, rfl⟩ := exists_glue t
  rw [wordPieces_glue hfirst] at h
  obtain ⟨rfl, hlater⟩ := List.cons.inj h
  obtain rfl := List.map_eq_nil_iff.1 hlater
  exact List.append_nil first

theorem takeWhile_word_append {word rest : Text} (hword : ∀ c ∈ word, isWord c = true)
    (hrest : rest.head?.any isWord = false) : (word ++ rest).takeWhile isWord = word :=
  takeWhile_append_of_head hword ((Option.any_eq_false _ _).1 hrest)

/-- A word with no word character behind it is read off the text. -/
theorem word_append_inj {word other s t : Text} (hword : ∀ c ∈ word, isWord c = true)
    (hother : ∀ c ∈ other, isWord c = true) (h : word ++ s = other ++ t)
    (hs : s.head?.any isWord = false) (ht : t.head?.any isWord = false) :
    word = other ∧ s = t := by
  have hsame : word = other := by
    rw [← takeWhile_word_append hword hs, h, takeWhile_word_append hother ht]
  subst hsame
  exact ⟨rfl, List.append_cancel_left h⟩

/-- A word in front of a mark is told from what follows it. -/
theorem word_append_cons_inj {word other s t : Text} {c d : Char}
    (hword : ∀ e ∈ word, isWord e = true) (hother : ∀ e ∈ other, isWord e = true)
    (hc : isWord c = false) (hd : isWord d = false) (h : word ++ c :: s = other ++ d :: t) :
    word = other ∧ c = d ∧ s = t := by
  obtain ⟨hsame, hrest⟩ := word_append_inj hword hother h hc hd
  exact ⟨hsame, List.cons.inj hrest⟩

/-! ### Runs -/

theorem runs_append {p : Char → Bool} {kind : Bool} {run t : Text} (hne : run ≠ [])
    (hrun : ∀ c ∈ run, p c = kind) (ht : ∀ c ∈ t.head?, p c ≠ kind) :
    runs p (run ++ t) = run :: runs p t := by
  induction run with
  | nil => exact absurd rfl hne
  | cons c run ih =>
    have hc : p c = kind := hrun c List.mem_cons_self
    cases run with
    | nil =>
      cases t with
      | nil => rfl
      | cons d t =>
        have hd : p d ≠ p c := by
          rw [hc]
          exact ht d rfl
        have hruns := alternating_runs_cons p d t
        rw [List.singleton_append, runs]
        cases hr : runs p (d :: t) with
        | nil => rfl
        | cons first later =>
          rw [hr] at hruns
          cases first with
          | nil => exact absurd rfl hruns.1.1
          | cons e more =>
            have he : p e = p d := hruns.1.2 e List.mem_cons_self
            exact if_neg fun h => hd (he ▸ h).symm
    | cons d run =>
      have hd : p d = kind := hrun d (by simp)
      have hrest := ih (by simp) fun x hx => hrun x (List.mem_cons_of_mem _ hx)
      rw [List.cons_append, runs, hrest]
      simp [hc, hd]

end GrammarKit.Text
