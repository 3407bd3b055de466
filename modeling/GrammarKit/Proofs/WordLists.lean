import GrammarKit.Proofs.BodyShortening
import GrammarKit.Proofs.JsonStrings
import GrammarKit.Proofs.MapEntries
import GrammarKit.Proofs.Sorting
import GrammarKit.Proofs.WordCategories

/-!
# Lists of words in a grammar

The words of a category are written with blanks between them, as one JSON string. Whoever loads the
grammar reads the string and cuts it at white space. That gives the words back unless there is white
space inside one of them, and descriptors with such words can be made.
-/

namespace GrammarKit

open Text

namespace Text

/-- The stretches of a text between separating characters, empty ones left out. -/
def cutAt (separates : Char → Bool) (t : Text) : List Text :=
  (splitWhen separates t).filter (!·.isEmpty)

variable {separates : Char → Bool}

theorem cutAt_append_cons {c : Char} (hc : separates c = true) (s t : Text) :
    cutAt separates (s ++ c :: t) = cutAt separates s ++ cutAt separates t := by
  rw [cutAt, splitWhen_append_cons hc, List.filter_append, cutAt, cutAt]

theorem cutAt_of_forall {w : Text} (hne : w ≠ []) (h : ∀ c ∈ w, separates c = false) :
    cutAt separates w = [w] := by
  rw [cutAt, splitWhen_of_forall h]
  simp [hne]

theorem separates_of_mem_cutAt {t w : Text} (h : w ∈ cutAt separates t) :
    ∀ c ∈ w, separates c = false :=
  fun _ hc => eq_false_of_mem_splitWhen (List.mem_filter.1 h).1 hc

theorem cutAt_join (hblank : separates ' ' = true) {ws : List Text}
    (h : ∀ word ∈ ws, word ≠ [] ∧ ∀ c ∈ word, separates c = false) :
    cutAt separates (join [' '] ws) = ws := by
  induction ws with
  | nil => rfl
  | cons word ws ih =>
    obtain ⟨hne, hword⟩ := h word List.mem_cons_self
    have hlater := ih fun other hother => h other (List.mem_cons_of_mem _ hother)
    cases ws with
    | nil => rw [join_singleton, cutAt_of_forall hne hword]
    | cons next rest =>
      rw [join_cons_cons, List.singleton_append, cutAt_append_cons hblank, hlater,
        cutAt_of_forall hne hword, List.singleton_append]

/-- Texts with blanks between them are got back by cutting exactly if no separating character stands
in one of them. -/
theorem count_cutAt_join_iff (hblank : separates ' ' = true) {ws : List Text} (hnodup : ws.Nodup)
    (hne : ∀ word ∈ ws, word ≠ []) :
    (∀ word, (cutAt separates (join [' '] ws)).count word = if word ∈ ws then 1 else 0) ↔
      ∀ word ∈ ws, ∀ c ∈ word, separates c = false := by
  constructor
  · intro hcount word hword
    have hone : (cutAt separates (join [' '] ws)).count word = 1 := by rw [hcount, if_pos hword]
    exact separates_of_mem_cutAt (List.count_pos_iff.1 (hone ▸ Nat.one_pos))
  · intro hwhole word
    rw [cutAt_join hblank fun other hother => ⟨hne other hother, hwhole other hother⟩]
    split
    · next hword => exact List.count_eq_one_of_mem hnodup hword
    · next hword => exact List.count_eq_zero.2 hword

end Text

namespace Descriptor

/-- The descriptor is one that can be made. -/
def Accepted (d : Descriptor) : Prop :=
  ∃ caseSensitive regex categories rules, make caseSensitive regex categories rules = .ok d

theorem Accepted.of_build {spec : Spec} {d : Descriptor} (h : spec.build = .ok d) : d.Accepted := by
  unfold Spec.build at h
  split at h
  · exact ⟨_, _, _, _, h⟩
  · cases h

theorem Accepted.words {d : Descriptor} (h : d.Accepted) {category : Text × List Text}
    (hcategory : category ∈ d.categories.entries) :
    category.2.Nodup ∧ ∀ word ∈ category.2, word ≠ [] := by
  obtain ⟨caseSensitive, regex, categories, rules, hmake⟩ := h
  obtain ⟨hconsistent, rfl⟩ := make_eq_ok_iff.1 hmake
  obtain ⟨vs, hvs, hdistinct⟩ := mem_mapValues_distinct.1 hcategory
  rw [← hdistinct]
  refine ⟨nodup_distinct vs, fun word hword => ?_⟩
  exact (hconsistent.trimmed _ hvs word (mem_distinct.1 hword)).1

theorem readString_wordList (ws : List Text) (rest : Text) :
    Json.readString (wordList ws ++ rest) = some (join [' '] ws, rest) :=
  Json.readString_quoted true _ rest

theorem exists_commaLines_of_mem {l : Text} {ls : List Text} (h : l ∈ ls) :
    ∃ front back, commaLines ls = front ++ l ++ back := by
  induction ls with
  | nil => cases h
  | cons first ls ih =>
    cases ls with
    | nil =>
      obtain rfl := List.mem_singleton.1 h
      exact ⟨[], [], by rw [commaLines_singleton, List.nil_append, List.append_nil]⟩
    | cons next rest =>
      rw [commaLines_cons_cons]
      rcases List.mem_cons.1 h with rfl | hlater
      · exact ⟨[], _, rfl⟩
      · obtain ⟨front, back, he⟩ := ih hlater
        exact ⟨first ++ ',' :: '\n' :: front, back, by simp [he]⟩

/-- The categories of a grammar stand one behind the other in its field of keywords. -/
theorem exists_renderBody_keywords (d : Descriptor) (table : Option AbbreviationTable)
    (hne : d.categories.entries ≠ []) :
    ∃ front back, d.renderBody table =
      front ++ (fieldName table "keywords".toList ++ ": \x7b\n".toList ++
        commaLines (d.sortedCategories.map categoryLine) ++ "\n    \x7d".toList) ++ back := by
  have hempty : d.categories.entries.isEmpty = false := by simpa using hne
  have hfield : fieldName table "keywords".toList ++ ": \x7b\n".toList ++
      commaLines (d.sortedCategories.map categoryLine) ++ "\n    \x7d".toList ∈
        d.bodyFields table := by
    simp only [bodyFields, hempty, Bool.false_eq_true, if_false, List.mem_append,
      List.mem_singleton]
    exact Or.inl (Or.inr rfl)
  obtain ⟨front, back, he⟩ := exists_commaLines_of_mem
    (List.mem_map_of_mem (f := fun field => "    ".toList ++ field) hfield)
  refine ⟨"function(hljs) \x7b\n  return \x7b\n".toList ++ (front ++ "    ".toList),
    back ++ "\n  \x7d;\n\x7d\n".toList, ?_⟩
  unfold renderBody
  rw [he]
  simp only [List.append_assoc]

/-- What a grammar has for a category is a JSON string. Cut at separating characters, the text that
it stands for gives every word of the category once and nothing else exactly if there is no such
character inside a word. -/
theorem cutAt_written_words_iff {d : Descriptor} (haccepted : d.Accepted)
    (table : Option AbbreviationTable) {category : Text} {ws : List Text}
    (hcategory : d.categories.get? category = some ws) {separates : Char → Bool}
    (hblank : separates ' ' = true) :
    ∃ front earlier value later back t,
      (∃ before after, d.sortedCategories = before ++ (category, ws) :: after ∧
        earlier = before.map categoryLine ∧ later = after.map categoryLine) ∧
      d.renderBody table = front ++ (fieldName table "keywords".toList ++ ": \x7b\n".toList ++
        commaLines (earlier ++ ("      ".toList ++ category ++ ": ".toList ++ value) :: later) ++
        "\n    \x7d".toList) ++ back ∧
      Json.readString value = some (t, []) ∧
      ((∀ word, (cutAt separates t).count word = if word ∈ ws then 1 else 0) ↔
        ∀ word ∈ ws, ∀ c ∈ word, separates c = false) := by
  have hentry := (d.categories.get?_eq_some_iff category ws).1 hcategory
  obtain ⟨hnodup, hwords⟩ := haccepted.words hentry
  obtain ⟨before, after, hsplit⟩ := List.append_of_mem (mem_sortedCategories.2 hentry)
  obtain ⟨front, back, hbody⟩ := exists_renderBody_keywords d table (List.ne_nil_of_mem hentry)
  have hvalue := readString_wordList ws []
  rw [List.append_nil] at hvalue
  rw [hsplit, List.map_append, List.map_cons] at hbody
  exact ⟨front, _, wordList ws, _, back, _, ⟨before, after, hsplit, rfl, rfl⟩, hbody, hvalue,
    count_cutAt_join_iff hblank hnodup hwords⟩

/-- A grammar with a keyword that has a blank in it. -/
def spacedSpec : Spec where
  caseSensitive := true
  tokenPattern := "\\w+".toList
  categories := .ofList [("keyword".toList, ["a b".toList]),
    ("type".toList, ["\"/\\".toList, "ü".toList])]

def spacedGrammar : Descriptor where
  caseSensitive := true
  tokenRegex := { source := "\\w+".toList, pattern := .many1 (.one (.ofClass .word)) }
  categories := .ofList [("keyword".toList, ["a b".toList]),
    ("type".toList, ["\"/\\".toList, "ü".toList])]
  tokenRules := []

theorem build_spacedSpec : spacedSpec.build = .ok spacedGrammar := by
  have hread : (Regex.read spacedSpec.tokenPattern spacedSpec.options).toOption =
      some spacedGrammar.tokenRegex := by decide +kernel
  have hconsistent : Consistent (foldWord true) spacedSpec.categories.entries := by
    constructor <;> decide +kernel
  unfold Spec.build
  cases hpattern : Regex.read spacedSpec.tokenPattern spacedSpec.options with
  | error e =>
    rw [hpattern] at hread
    cases hread
  | ok regex =>
    rw [hpattern] at hread
    obtain rfl : regex = spacedGrammar.tokenRegex := Option.some.inj hread
    exact make_eq_ok_iff.2 ⟨hconsistent, rfl⟩

theorem cutAt_written_words_spacedGrammar :
    spacedGrammar.Accepted ∧ isBlank ' ' = true ∧
      spacedGrammar.categories.get? "type".toList = some ["\"/\\".toList, "ü".toList] ∧
      ∃ front value back t,
        spacedGrammar.renderBody none =
          front ++ ("      ".toList ++ "type".toList ++ ": ".toList ++ value) ++ back ∧
        Json.readString value = some (t, []) ∧
        ∀ word, (cutAt isBlank t).count word =
          if word ∈ ["\"/\\".toList, "ü".toList] then 1 else 0 := by
  have haccepted : spacedGrammar.Accepted := .of_build build_spacedSpec
  have hblank : isBlank ' ' = true := by decide
  have hcategory : spacedGrammar.categories.get? "type".toList =
      some ["\"/\\".toList, "ü".toList] := by decide +kernel
  obtain ⟨front, earlier, value, later, back, t, -, hbody, hread, hwords⟩ :=
    cutAt_written_words_iff haccepted none hcategory hblank
  have hline : "      ".toList ++ "type".toList ++ ": ".toList ++ value ∈
      earlier ++ ("      ".toList ++ "type".toList ++ ": ".toList ++ value) :: later :=
    List.mem_append_right _ List.mem_cons_self
  obtain ⟨above, below, hlines⟩ := exists_commaLines_of_mem hline
  have hall : ∀ word ∈ ["\"/\\".toList, "ü".toList], word.all (isBlank · == false) = true := by
    decide +kernel
  have hwhole : ∀ word ∈ ["\"/\\".toList, "ü".toList], ∀ c ∈ word, isBlank c = false :=
    fun word hword c hc => eq_of_beq (List.all_eq_true.1 (hall word hword) c hc)
  refine ⟨haccepted, hblank, hcategory,
    front ++ fieldName none "keywords".toList ++ ": \x7b\n".toList ++ above, value,
    below ++ "\n    \x7d".toList ++ back, t, ?_, hread, hwords.2 hwhole⟩
  rw [hbody, hlines]
  simp only [List.append_assoc]

/-- The words that come back are two, and neither is the keyword. -/
theorem not_cutAt_written_words_spaced :
    spacedSpec.build = .ok spacedGrammar ∧
      spacedGrammar.categories.get? "keyword".toList = some ["a b".toList] ∧
      spacedGrammar.renderBody none =
        ("function(hljs) \x7b\n  return \x7b\n    lexemes: /\\w+/,\n    keywords: \x7b\n" ++
          "      keyword: \"a b\",\n      type: \"\\\"/\\\\ \\u00fc\"\n" ++
          "    \x7d\n  \x7d;\n\x7d\n").toList ∧
      Json.readString "\"a b\"".toList = some ("a b".toList, []) ∧
      cutAt isBlank "a b".toList = ["a".toList, "b".toList] := by
  have hread : Json.readString "\"a b\"".toList = some ("a b".toList, []) :=
    Json.readString_quoted true "a b".toList []
  exact ⟨build_spacedSpec, by decide +kernel, by decide +kernel, hread, by decide⟩

end Descriptor
end GrammarKit
