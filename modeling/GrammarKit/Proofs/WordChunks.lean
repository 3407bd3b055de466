import GrammarKit.Proofs.Pieces
import GrammarKit.Proofs.Sorting
import GrammarKit.Proofs.WordCategories

/-!
# Word lists in chunks

A list of words may be written in several chunks. A word of the list is a word of one of them: it
stands there with white space or nothing on either side, and where two chunks meet, nothing grows
together. So chunks may be cut anywhere between words, repeated and put into any order, and no word is
empty or padded.
-/

namespace GrammarKit

open Text

namespace Text

/-- The word stands in the text with white space or nothing on either side, and with none inside. -/
structure IsWordOf (word t : Text) : Prop where
  ne_nil : word ≠ []
  solid : ∀ c ∈ word, isBlank c = false
  place : ∃ front back, t = front ++ word ++ back ∧ (∀ c ∈ front.getLast?, isBlank c = true) ∧
    ∀ c ∈ back.head?, isBlank c = true

theorem IsWordOf.mem {word t : Text} {c : Char} (h : IsWordOf word t) (hc : c ∈ word) : c ∈ t := by
  obtain ⟨front, back, rfl, -⟩ := h.place
  exact List.mem_append_left _ (List.mem_append_right _ hc)

/-! ### Words of texts -/

theorem words_nil : words [] = [] := rfl

theorem words_append_of_getLast {s : Text} (h : ∀ c ∈ s.getLast?, isBlank c = true) (t : Text) :
    words (s ++ t) = words s ++ words t := by
  rcases List.eq_nil_or_concat s with rfl | ⟨front, c, rfl⟩
  · rfl
  · have hc : isBlank c = true := h c (by simp)
    rw [List.concat_eq_append, List.append_assoc, List.singleton_append, words_append_cons hc,
      words_append_cons hc, words_nil, List.append_nil]

theorem words_append_of_head {t : Text} (h : ∀ c ∈ t.head?, isBlank c = true) (s : Text) :
    words (s ++ t) = words s ++ words t := by
  cases t with
  | nil => rw [words_nil, List.append_nil, List.append_nil]
  | cons c t =>
    have hc : isBlank c = true := h c rfl
    have hrest : words (c :: t) = words t := words_append_cons hc [] t
    rw [words_append_cons hc, hrest]

theorem mem_words_iff {t word : Text} : word ∈ words t ↔ IsWordOf word t := by
  constructor
  · intro h
    obtain ⟨hne, hsolid⟩ := not_blank_of_mem_words h
    exact ⟨hne, hsolid, exists_place_of_mem_splitWhen (List.mem_filter.1 h).1⟩
  · rintro ⟨hne, hsolid, front, back, rfl, hfront, hback⟩
    rw [words_append_of_head hback, words_append_of_getLast hfront, words_of_forall hne hsolid]
    simp

/-- One blank between any two chunks is enough to keep their words apart. -/
theorem words_join (chunks : List Text) : words (join [' '] chunks) = chunks.flatMap words := by
  induction chunks with
  | nil => rfl
  | cons chunk chunks ih =>
    cases chunks with
    | nil => rw [join_singleton, List.flatMap_singleton]
    | cons next later =>
      have hblank : isBlank ' ' = true := by decide
      rw [join_cons_cons, List.singleton_append, words_append_cons hblank, ih, ← List.flatMap_cons]

end Text

/-! ### Words of chunks -/

section

variable {chunks : List Text} {word : Text}

theorem mem_wordsFrom_iff : word ∈ wordsFrom chunks ↔ ∃ chunk ∈ chunks, IsWordOf word chunk := by
  rw [wordsFrom, mem_distinct, words_join, List.mem_flatMap]
  simp only [mem_words_iff]

theorem mem_wordsFrom_singleton {chunk : Text} : word ∈ wordsFrom [chunk] ↔ IsWordOf word chunk := by
  rw [mem_wordsFrom_iff]
  simp

theorem wordsFrom_eq_of_mem_iff {others : List Text} (h : ∀ chunk, chunk ∈ others ↔ chunk ∈ chunks) :
    wordsFrom others = wordsFrom chunks := by
  apply distinct_eq_of_mem_iff
  intro word
  rw [words_join, words_join, List.mem_flatMap, List.mem_flatMap]
  simp only [h]

theorem wordsFrom_append (chunks later : List Text) :
    wordsFrom (chunks ++ later) = distinct (wordsFrom chunks ++ wordsFrom later) := by
  apply distinct_eq_of_mem_iff
  intro word
  rw [words_join, List.flatMap_append, List.mem_append, List.mem_append, wordsFrom, wordsFrom,
    mem_distinct, mem_distinct, words_join, words_join]

/-- Words found in chunks are fit for a category. -/
theorem trimmed_of_mem_wordsFrom (h : word ∈ wordsFrom chunks) : word ≠ [] ∧ trim word = word := by
  obtain ⟨chunk, -, hword⟩ := mem_wordsFrom_iff.1 h
  exact ⟨hword.ne_nil, trim_of_forall hword.solid⟩

end

namespace Descriptor

theorem build_ne_badWord {spec : Spec}
    (h : ∀ entry ∈ spec.categories.entries, ∃ chunks, entry.2 = wordsFrom chunks)
    (category word : Text) : spec.build ≠ .error (.badWord category word) := by
  intro hbuild
  unfold Spec.build at hbuild
  split at hbuild
  · rcases make_eq_error hbuild with he | ⟨entry, hentry, other, hother, he, hpadded⟩ | ⟨_, _, _, he⟩
    · cases he
    · obtain ⟨chunks, hchunks⟩ := h entry hentry
      rw [hchunks] at hother
      exact hpadded (trimmed_of_mem_wordsFrom hother)
    · cases he
  · cases hbuild

end Descriptor

/-- The words of chunks are the words of each chunk, and a word of a chunk is what stands there between
white space. It makes no difference in what order the chunks come, how often each does, or how
they are shared out. No word is empty or has white space in it, so that a descriptor with such words is
never refused for one of them. -/
theorem wordsFrom_unites (chunks : List Text) :
    (∀ word, word ∈ wordsFrom chunks ↔ ∃ chunk ∈ chunks, word ∈ wordsFrom [chunk]) ∧
    (∀ chunk word, word ∈ wordsFrom [chunk] ↔ IsWordOf word chunk) ∧
    (∀ others, (∀ chunk, chunk ∈ others ↔ chunk ∈ chunks) → wordsFrom others = wordsFrom chunks) ∧
    (∀ later, wordsFrom (chunks ++ later) = distinct (wordsFrom chunks ++ wordsFrom later)) ∧
    (∀ word ∈ wordsFrom chunks, word ≠ [] ∧ ∀ c ∈ word, isBlank c = false) ∧
    ∀ spec : Descriptor.Spec,
      (∀ entry ∈ spec.categories.entries, ∃ pieces, entry.2 = wordsFrom pieces) →
      ∀ category word, spec.build ≠ .error (.badWord category word) := by
  refine ⟨fun word => ?_, fun _ _ => mem_wordsFrom_singleton, fun _ => wordsFrom_eq_of_mem_iff,
    wordsFrom_append chunks, fun word hword => ?_, fun _ => Descriptor.build_ne_badWord⟩
  · rw [mem_wordsFrom_iff]
    simp only [mem_wordsFrom_singleton]
  · obtain ⟨chunk, -, hfound⟩ := mem_wordsFrom_iff.1 hword
    exact ⟨hfound.ne_nil, hfound.solid⟩

/-- Chunks that end inside white space, between words and with nothing in them. -/
def sampleChunks : List Text := ["if\telse ".toList, [], "\u3000then".toList, "do".toList]

def chunkedSpec : Descriptor.Spec where
  caseSensitive := true
  tokenPattern := "\\w+".toList
  categories := .ofList [("keyword".toList, wordsFrom sampleChunks)]

theorem wordsFrom_unites_sampleChunks :
    wordsFrom ("then".toList :: sampleChunks.reverse) =
        ["do".toList, "else".toList, "if".toList, "then".toList] ∧
      wordsFrom (sampleChunks.reverse ++ sampleChunks) = wordsFrom sampleChunks ∧
      ∀ category word, chunkedSpec.build ≠ .error (.badWord category word) := by
  obtain ⟨-, -, hsame, -, -, hbuild⟩ := wordsFrom_unites sampleChunks
  refine ⟨by decide +kernel, hsame _ fun chunk => ?_, hbuild chunkedSpec ?_⟩
  · simp
  · intro entry hentry
    have hkeyword : chunkedSpec.categories.entries = [("keyword".toList, wordsFrom sampleChunks)] := by
      rfl
    rw [hkeyword, List.mem_singleton] at hentry
    exact ⟨sampleChunks, by rw [hentry]⟩

end GrammarKit
