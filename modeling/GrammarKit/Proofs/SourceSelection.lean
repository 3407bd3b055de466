import GrammarKit.Descriptor.Printer
import GrammarKit.Proofs.HeaderRoundTrip
import GrammarKit.Selection.Qualifiers

/-!
# Choosing files that were written

A grammar file that was written with representable fields is chosen for its name or for a category
of the header it was written with, whatever its body holds and wherever it lies.
-/

namespace GrammarKit

open Text

/-! ### Names of files -/

theorem Path.baseName_append {dir base : Text} (hdir : dir = [] ∨ dir.getLast? = some '/')
    (hbase : isPart base = true) (hslash : '/' ∉ base) : baseName (dir ++ base) = base := by
  have hone : splitOn '/' base = [base] := by
    apply splitWhen_of_forall
    intro c hc
    exact decide_eq_false fun he => hslash (he ▸ hc)
  have hlast : ∃ pieces, splitOn '/' (dir ++ base) = pieces ++ [base] := by
    rcases hdir with rfl | hend
    · exact ⟨[], hone⟩
    · obtain ⟨front, rfl⟩ := List.getLast?_eq_some_iff.1 hend
      refine ⟨splitOn '/' front, ?_⟩
      rw [List.append_assoc, List.singleton_append, splitOn,
        splitWhen_append_cons (decide_eq_true rfl)]
      exact congrArg _ hone
  obtain ⟨pieces, hpieces⟩ := hlast
  have hparts : (splitOn '/' (dir ++ base)).filter isPart = pieces.filter isPart ++ [base] := by
    rw [hpieces, List.filter_append, List.filter_cons_of_pos hbase, List.filter_nil]
  simp only [baseName, ofText, name, hparts, List.getLastD_concat]

section

variable {dir stem suffix : Text} (hdir : dir = [] ∨ dir.getLast? = some '/') (hstem : stem ≠ [])
  (hsuffix : suffix ≠ []) (hslash : '/' ∉ stem) (hslash' : '/' ∉ suffix)
include hdir hstem hsuffix hslash hslash'

theorem baseName_written : Path.baseName (dir ++ (stem ++ suffix)) = stem ++ suffix := by
  have hslashes : '/' ∉ stem ++ suffix := by
    rw [List.mem_append, not_or]
    exact ⟨hslash, hslash'⟩
  apply Path.baseName_append hdir _ hslashes
  -- two characters at least, so this is neither nothing nor a dot
  obtain ⟨c, stem, rfl⟩ := List.exists_cons_of_ne_nil hstem
  obtain ⟨d, suffix, rfl⟩ := List.exists_cons_of_ne_nil hsuffix
  simp [Path.isPart]

theorem languageOf_written : languageOf suffix (dir ++ (stem ++ suffix)) = stem := by
  have hbase := baseName_written hdir hstem hsuffix hslash hslash'
  have hne : stem ++ suffix ≠ suffix := fun he => hstem (List.append_left_eq_self.1 he)
  have hdrop : dropEnd? suffix (stem ++ suffix) = some stem := dropEnd?_eq_some_iff.2 rfl
  rw [languageOf, hbase, if_neg (by simp [hsuffix, hne]), hdrop, Option.getD_some]

end

/-! ### Qualifiers -/

namespace Qualifiers

theorem category_eq_some_iff {q c : Text} : category? q = some c ↔ q = ':' :: c := by
  unfold category?
  split
  · next rest => simp
  · next hno =>
    constructor
    · intro h
      cases h
    · intro h
      exact absurd h (hno c)

theorem category_eq_none_iff {q : Text} : category? q = none ↔ q.head? ≠ some ':' := by
  cases q with
  | nil => simp [category?]
  | cons d rest =>
    by_cases hd : d = ':'
    · simp [category?, hd]
    · have hnone : category? (d :: rest) = none := by
        rw [Option.eq_none_iff_forall_ne_some]
        intro c hc
        exact hd (List.cons.inj (category_eq_some_iff.1 hc)).1
      simp [hnone, hd]

theorem mem_languages_iff {t : Text} {qs : List Text} :
    t ∈ (ofList qs).languages ↔ t ∈ qs ∧ t.head? ≠ some ':' := by
  rw [ofList, mem_distinct, List.mem_filter, Option.isNone_iff_eq_none, category_eq_none_iff]

theorem mem_categories_iff {c : Text} {qs : List Text} :
    c ∈ (ofList qs).categories ↔ ':' :: c ∈ qs := by
  rw [ofList, mem_distinct, List.mem_filterMap]
  simp only [category_eq_some_iff, exists_eq_right]

theorem isEmpty_ofList_iff {qs : List Text} : (ofList qs).isEmpty = true ↔ qs = [] := by
  rw [isEmpty, Bool.and_eq_true, List.isEmpty_iff, List.isEmpty_iff]
  constructor
  · rintro ⟨hlanguages, hcategories⟩
    rw [List.eq_nil_iff_forall_not_mem] at hlanguages hcategories ⊢
    intro q hq
    cases hcategory : category? q with
    | none => exact hlanguages q (mem_languages_iff.2 ⟨hq, category_eq_none_iff.1 hcategory⟩)
    | some c =>
      rw [category_eq_some_iff.1 hcategory] at hq
      exact hcategories c (mem_categories_iff.2 hq)
  · rintro rfl
    exact ⟨rfl, rfl⟩

end Qualifiers

/-! ### Categories of a written header -/

namespace Header

theorem mem_items_iff {h : Header} {key t : Text} :
    t ∈ h.items key ↔ ∃ value, h.get? key = some value ∧ t ∈ value.toList := by
  unfold items
  cases h.get? key <;> simp

theorem mem_items_of_kept {h g : Header} (hg : g.entries = h.entries.filter isKept)
    (hfields : ∀ f ∈ h.entries, isKept f = true → Representable f) {key t : Text}
    (hkey : isScalar key = false) :
    t ∈ g.items key ↔
      ∃ ts, h.get? key = some (.items ts) ∧ ts ≠ [] ∧ ts ≠ [[]] ∧ t ∈ ts := by
  have hget : ∀ value, g.get? key = some value ↔
      h.get? key = some value ∧ isKept (key, value) = true := by
    intro value
    rw [OrderedMap.get?_eq_some_iff, OrderedMap.get?_eq_some_iff, hg, List.mem_filter]
  simp only [mem_items_iff, hget]
  constructor
  · rintro ⟨value, ⟨hvalue, hkept⟩, ht⟩
    obtain ⟨-, -, -, hfits⟩ := hfields _ ((OrderedMap.get?_eq_some_iff _ _ _).1 hvalue) hkept
    cases value with
    | text t => exact absurd hfits.1 (by simp [hkey])
    | items ts =>
      have hne : ts ≠ [] := List.ne_nil_of_mem ht
      refine ⟨ts, hvalue, hne, ?_, ht⟩
      intro hvoid
      rw [← line_items_eq_nil hne] at hvoid
      simp [isKept, hvoid] at hkept
  · rintro ⟨ts, hvalue, hne, hvoid, ht⟩
    refine ⟨.items ts, ⟨hvalue, ?_⟩, ht⟩
    rw [Ne, ← line_items_eq_nil hne] at hvoid
    simp [isKept, hvoid]

end Header

namespace Qualifiers

theorem chooses_of_read (q : Qualifiers) (naming : Naming) {b : Blob} {g : Header}
    (hread : Header.read? b.content = some g) :
    q.chooses naming b = true ↔ q.isEmpty = true ∨ Path.baseName b.name = naming.entryPoint ∨
      languageOf naming.suffix b.name ∈ q.languages ∨
      ∃ c ∈ g.items "Category".toList, c ∈ q.categories := by
  rw [or_left_comm]
  simp [chooses, admits, hread]

/-- A file that was written with representable fields is chosen if nothing is asked for, if it is
the entry point, if its stem is asked for as a language or one of its categories as a category. -/
theorem chooses_renderSource_iff (d : Descriptor) (table : Option AbbreviationTable) {h : Header}
    (hfields : ∀ f ∈ h.entries, Header.isKept f = true → Header.Representable f)
    {dir stem suffix : Text} (hdir : dir = [] ∨ dir.getLast? = some '/') (hstem : stem ≠ [])
    (hsuffix : suffix ≠ []) (hslash : '/' ∉ stem) (hslash' : '/' ∉ suffix) (entryPoint : Text)
    (qs : List Text) :
    (ofList qs).chooses ⟨suffix, entryPoint⟩
        ⟨dir ++ (stem ++ suffix), d.renderSource h table⟩ = true ↔
      qs = [] ∨ stem ++ suffix = entryPoint ∨ (stem ∈ qs ∧ stem.head? ≠ some ':') ∨
        ∃ ts, h.get? "Category".toList = some (.items ts) ∧ ts ≠ [] ∧ ts ≠ [[]] ∧
          ∃ c ∈ ts, ':' :: c ∈ qs := by
  have hentries := Header.read_render_of_representable hfields (w := []) (by simp)
    ('\n' :: d.renderBody table)
  obtain ⟨g, hread, hg⟩ := Option.map_eq_some_iff.1 hentries
  have hsource : [] ++ h.render ++ '\n' :: d.renderBody table = d.renderSource h table := by
    simp [Descriptor.renderSource]
  rw [hsource] at hread
  have hscalar : Header.isScalar "Category".toList = false := by decide
  have hcategories : (∃ c ∈ g.items "Category".toList, c ∈ (ofList qs).categories) ↔
      ∃ ts, h.get? "Category".toList = some (.items ts) ∧ ts ≠ [] ∧ ts ≠ [[]] ∧
        ∃ c ∈ ts, ':' :: c ∈ qs := by
    simp only [mem_categories_iff, Header.mem_items_of_kept hg hfields hscalar]
    constructor
    · rintro ⟨c, ⟨ts, hvalue, hne, hvoid, hc⟩, hasked⟩
      exact ⟨ts, hvalue, hne, hvoid, c, hc, hasked⟩
    · rintro ⟨ts, hvalue, hne, hvoid, c, hc, hasked⟩
      exact ⟨c, ⟨ts, hvalue, hne, hvoid, hc⟩, hasked⟩
  have hchosen := chooses_of_read (ofList qs) ⟨suffix, entryPoint⟩
    (b := ⟨dir ++ (stem ++ suffix), d.renderSource h table⟩) hread
  rw [hchosen, baseName_written hdir hstem hsuffix hslash hslash',
    languageOf_written hdir hstem hsuffix hslash hslash', isEmpty_ofList_iff, mem_languages_iff,
    hcategories]

/-- A grammar whose words begin and end comments. -/
def markedGrammar : Descriptor where
  caseSensitive := true
  tokenRegex := {
    source := "[*/]+".toList
    pattern := .many1 (.one { items := [.char 42, .char 47] }) }
  categories := .ofList [("mark".toList, ["*/".toList, "/*".toList])]
  tokenRules := []

def markedHeader : Header :=
  .ofList [("Language".toList, .text "marks".toList),
    ("Category".toList, .items ["".toList, "markup".toList])]

theorem chooses_renderSource_markedGrammar :
    (ofList [":".toList]).chooses ⟨".js".toList, "highlight.js".toList⟩
        ⟨"lang/".toList ++ ("a.js".toList ++ ".js".toList),
          markedGrammar.renderSource markedHeader none⟩ = true ∧
      ¬ (ofList ["a".toList, ":mark".toList]).chooses ⟨".js".toList, "highlight.js".toList⟩
        ⟨"lang/".toList ++ ("a.js".toList ++ ".js".toList),
          markedGrammar.renderSource markedHeader none⟩ = true := by
  have hfields : ∀ f ∈ markedHeader.entries, Header.isKept f = true → Header.Representable f := by
    decide +kernel
  have hcategory : markedHeader.get? "Category".toList =
      some (.items ["".toList, "markup".toList]) := by decide
  have hiff := chooses_renderSource_iff markedGrammar none hfields
    (Or.inr (by decide) : "lang/".toList = [] ∨ "lang/".toList.getLast? = some '/')
    (by decide : "a.js".toList ≠ []) (by decide : ".js".toList ≠ []) (by decide) (by decide)
    "highlight.js".toList
  constructor
  · apply (hiff _).2
    exact Or.inr (Or.inr (Or.inr ⟨_, hcategory, by decide, by decide, [], by decide, by decide⟩))
  · intro hchosen
    rcases (hiff _).1 hchosen with hnone | hentry | hlanguage | ⟨ts, hts, -, -, c, hc, hasked⟩
    · exact absurd hnone (by decide)
    · exact absurd hentry (by decide)
    · exact absurd hlanguage (by decide)
    · obtain rfl : ["".toList, "markup".toList] = ts :=
        FieldValue.items.inj (Option.some.inj (hcategory.symm.trans hts))
      have hno : ∀ c ∈ ["".toList, "markup".toList], ':' :: c ∉ ["a".toList, ":mark".toList] := by
        decide
      exact hno c hc hasked

end Qualifiers
end GrammarKit
