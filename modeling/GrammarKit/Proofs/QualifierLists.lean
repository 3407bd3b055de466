import GrammarKit.Proofs.FilterReports
import GrammarKit.Proofs.SourceSelection

/-!
# Lists of qualifiers

A list of qualifiers asks for what any one of them asks for, and only the empty list asks for
everything. So of a list that is not empty nothing counts but which qualifiers are in it, and two such
lists together choose what one of them chooses.
-/

namespace GrammarKit.Qualifiers

open Text

/-! ### One qualifier -/

/-- Whether a file has a header, and the language or a category that a qualifier names. -/
def Meets (suffix : Text) (b : Blob) (q : Text) : Prop :=
  ∃ h, Header.read? b.content = some h ∧
    ((q = languageOf suffix b.name ∧ q.head? ≠ some ':') ∨
      ∃ c ∈ h.items "Category".toList, q = ':' :: c)

theorem not_chooses_of_no_header {q : Qualifiers} {naming : Naming} {b : Blob}
    (hread : Header.read? b.content = none) :
    q.chooses naming b = true ↔ q.isEmpty = true ∨ Path.baseName b.name = naming.entryPoint := by
  simp [chooses, admits, hread, or_comm]

theorem chooses_ofList_iff {qs : List Text} {naming : Naming} {b : Blob} :
    (ofList qs).chooses naming b = true ↔
      qs = [] ∨ Path.baseName b.name = naming.entryPoint ∨ ∃ q ∈ qs, Meets naming.suffix b q := by
  cases hread : Header.read? b.content with
  | none =>
    have hnone : ¬ ∃ q ∈ qs, Meets naming.suffix b q := by
      rintro ⟨q, -, h, hh, -⟩
      rw [hread] at hh
      cases hh
    rw [not_chooses_of_no_header hread, isEmpty_ofList_iff, or_iff_left hnone]
  | some h =>
    have hmeets : ∀ q, Meets naming.suffix b q ↔
        (q = languageOf naming.suffix b.name ∧ q.head? ≠ some ':') ∨
          ∃ c ∈ h.items "Category".toList, q = ':' :: c := by
      intro q
      simp [Meets, hread]
    rw [chooses_of_read _ naming hread, isEmpty_ofList_iff, mem_languages_iff]
    simp only [hmeets, mem_categories_iff]
    refine or_congr_right (or_congr_right ⟨?_, ?_⟩)
    · rintro (⟨hmem, hplain⟩ | ⟨c, hc, hmem⟩)
      · exact ⟨_, hmem, Or.inl ⟨rfl, hplain⟩⟩
      · exact ⟨_, hmem, Or.inr ⟨c, hc, rfl⟩⟩
    · rintro ⟨q, hmem, ⟨rfl, hplain⟩ | ⟨c, hc, rfl⟩⟩
      · exact Or.inl ⟨hmem, hplain⟩
      · exact Or.inr ⟨c, hc, hmem⟩

/-! ### Several qualifiers -/

section

variable {qs rs : List Text} {naming : Naming} {b : Blob}

theorem chooses_nil : (ofList []).chooses naming b = true := chooses_ofList_iff.2 (Or.inl rfl)

theorem chooses_of_ne_nil (hqs : qs ≠ []) :
    (ofList qs).chooses naming b = true ↔
      Path.baseName b.name = naming.entryPoint ∨ ∃ q ∈ qs, Meets naming.suffix b q := by
  rw [chooses_ofList_iff, or_iff_right hqs]

theorem chooses_append (hqs : qs ≠ []) (hrs : rs ≠ []) :
    (ofList (qs ++ rs)).chooses naming b = true ↔
      (ofList qs).chooses naming b = true ∨ (ofList rs).chooses naming b = true := by
  have happend : qs ++ rs ≠ [] := fun h => hqs (List.append_eq_nil_iff.1 h).1
  rw [chooses_of_ne_nil happend, chooses_of_ne_nil hqs, chooses_of_ne_nil hrs]
  simp only [List.mem_append, or_and_right, exists_or]
  exact or_or_distrib_left

/-- More qualifiers choose more, unless the first list is empty and so chooses everything. -/
theorem chooses_of_subset (hqs : qs ≠ []) (hsubset : qs ⊆ rs)
    (h : (ofList qs).chooses naming b = true) : (ofList rs).chooses naming b = true := by
  rcases (chooses_of_ne_nil hqs).1 h with hentry | ⟨q, hq, hmeets⟩
  · exact chooses_ofList_iff.2 (Or.inr (Or.inl hentry))
  · exact chooses_ofList_iff.2 (Or.inr (Or.inr ⟨q, hsubset hq, hmeets⟩))

theorem chooses_of_same_members (hqs : qs ≠ []) (hsame : ∀ q, q ∈ rs ↔ q ∈ qs) :
    (ofList rs).chooses naming b = (ofList qs).chooses naming b := by
  obtain ⟨q, hq⟩ := List.exists_mem_of_ne_nil qs hqs
  have hrs : rs ≠ [] := List.ne_nil_of_mem ((hsame q).2 hq)
  rw [Bool.eq_iff_iff]
  exact ⟨chooses_of_subset hrs fun q hq => (hsame q).1 hq,
    chooses_of_subset hqs fun q hq => (hsame q).2 hq⟩

end

/-! ### Files that are kept -/

theorem sharedOut_select (q : Qualifiers) (naming : Naming) (bs : List Blob) :
    ∃ others, SharedOut (q.select naming bs) others bs ∧
      (∀ b ∈ q.select naming bs, q.chooses naming b = true) ∧
      ∀ b ∈ others, q.chooses naming b = false := by
  refine ⟨_, sharedOut_filter (q.chooses naming) bs, fun b hb => (List.mem_filter.1 hb).2, ?_⟩
  intro b hb
  simpa using (List.mem_filter.1 hb).2

theorem select_append (q : Qualifiers) (naming : Naming) (bs cs : List Blob) :
    q.select naming (bs ++ cs) = q.select naming bs ++ q.select naming cs := List.filter_append ..

theorem select_select (q : Qualifiers) (naming : Naming) (bs : List Blob) :
    q.select naming (q.select naming bs) = q.select naming bs :=
  List.filter_eq_self.2 fun _ hb => (List.mem_filter.1 hb).2

/-- Two lists of qualifiers together choose what either of them chooses. Order and repetition make no
difference, a further qualifier takes no file away, and no qualifier at all asks for every file. The
files that are kept are those that are chosen, in their order; keeping is done list by list, and once. -/
theorem choices_unite {qs rs : List Text} (hqs : qs ≠ []) (hrs : rs ≠ []) (naming : Naming) :
    (∀ b, (ofList (qs ++ rs)).chooses naming b = true ↔
      (ofList qs).chooses naming b = true ∨ (ofList rs).chooses naming b = true) ∧
    (∀ others, (∀ q, q ∈ others ↔ q ∈ qs) →
      ∀ b, (ofList others).chooses naming b = (ofList qs).chooses naming b) ∧
    (∀ more, qs ⊆ more → ∀ b, (ofList qs).chooses naming b = true →
      (ofList more).chooses naming b = true) ∧
    (∀ b, (ofList []).chooses naming b = true) ∧
    ∀ (ps : List Text) (bs cs : List Blob),
      (∃ others, SharedOut ((ofList ps).select naming bs) others bs ∧
        (∀ b ∈ (ofList ps).select naming bs, (ofList ps).chooses naming b = true) ∧
        ∀ b ∈ others, (ofList ps).chooses naming b = false) ∧
      (ofList ps).select naming (bs ++ cs) =
        (ofList ps).select naming bs ++ (ofList ps).select naming cs ∧
      (ofList ps).select naming ((ofList ps).select naming bs) = (ofList ps).select naming bs := by
  refine ⟨fun b => chooses_append hqs hrs, fun others hsame b => chooses_of_same_members hqs hsame,
    fun more hmore b => chooses_of_subset hqs hmore, fun b => chooses_nil, fun ps bs cs => ?_⟩
  exact ⟨sharedOut_select _ naming bs, select_append _ naming bs cs, select_select _ naming bs⟩

/-- Files for a language, for a category and for neither, and the entry point without a header. -/
def assortedFiles : List Blob := [
  ⟨"rao.js".toList, "/*\nCategory: simulation\n*/".toList⟩,
  ⟨"xml.js".toList, "/*\nCategory: common, markup\n*/".toList⟩,
  ⟨"ini.js".toList, "/**/".toList⟩,
  ⟨"highlight.js".toList, []⟩,
  ⟨"markup.js".toList, []⟩]

theorem choices_unite_assortedFiles :
    ["rao".toList] ≠ [] ∧ [":markup".toList] ≠ [] ∧
      ((ofList ["rao".toList, ":markup".toList]).select {} assortedFiles).map (·.name) =
        ["rao.js".toList, "xml.js".toList, "highlight.js".toList] ∧
      ∀ b ∈ assortedFiles, (ofList ["rao".toList, ":markup".toList]).chooses {} b = true ↔
        (ofList ["rao".toList]).chooses {} b = true ∨
          (ofList [":markup".toList]).chooses {} b = true := by
  have hlanguage : ["rao".toList] ≠ [] := by decide
  have hcategory : [":markup".toList] ≠ [] := by decide
  have hunite := (choices_unite hlanguage hcategory {}).1
  exact ⟨hlanguage, hcategory, by decide +kernel, fun b _ => hunite b⟩

end GrammarKit.Qualifiers
