import GrammarKit.Descriptor.Printer
import GrammarKit.Proofs.ShorteningTwice

/-!
# Two ways to a short grammar

A grammar is written with short names at once, or it is written with long names and the text is
shortened. The first way looks at names of fields and modes only, the second at every word that is
written. Both texts are cut by the same characters between words, so they are the same text exactly
if they agree between any two of these, which is for each part of a descriptor to say.
-/

namespace GrammarKit

open Text

namespace Text

theorem isWord_blank : isWord ' ' = false := by decide +kernel

theorem isWord_newline : isWord '\n' = false := by decide +kernel

theorem isWord_comma : isWord ',' = false := by decide +kernel

theorem isWord_colon : isWord ':' = false := by decide +kernel

/-- The characters of a text that belong to no word. -/
def marks (t : Text) : Text := t.filter fun c => !isWord c

theorem marks_append (s t : Text) : marks (s ++ t) = marks s ++ marks t := List.filter_append s t

theorem marks_cons_mark {c : Char} (hc : isWord c = false) (t : Text) :
    marks (c :: t) = c :: marks t := List.filter_cons_of_pos (by rw [hc]; rfl)

theorem marks_of_word {word : Text} (hword : ∀ c ∈ word, isWord c = true) : marks word = [] := by
  rw [marks, List.filter_eq_nil_iff]
  intro c hc
  rw [hword c hc]
  exact Bool.false_ne_true

theorem marks_append_cons {c : Char} (hc : isWord c = false) (s t : Text) :
    marks (s ++ c :: t) = marks s ++ c :: marks t := by
  rw [marks_append, marks_cons_mark hc]

theorem marks_ne_of_append_cons {c : Char} (hc : isWord c = false) {d : Char} {s t v : Text}
    (h : d :: s ++ c :: v = c :: t) : marks (d :: s) ≠ [] := by
  obtain rfl : d = c := (List.cons.inj h).1
  rw [marks_cons_mark hc]
  exact List.cons_ne_nil _ _

/-- Texts with the same marks in them end in front of the same mark. -/
theorem append_cons_inj_of_marks {c : Char} (hc : isWord c = false) {s u t v : Text}
    (hmarks : marks s = marks u) : s ++ c :: t = u ++ c :: v ↔ s = u ∧ t = v := by
  refine ⟨fun h => ?_, fun h => by rw [h.1, h.2]⟩
  induction s generalizing u with
  | nil =>
    cases u with
    | nil => exact ⟨rfl, (List.cons.inj h).2⟩
    | cons d u => exact absurd hmarks.symm (marks_ne_of_append_cons hc h.symm)
  | cons d s ih =>
    cases u with
    | nil => exact absurd hmarks (marks_ne_of_append_cons hc h)
    | cons e u =>
      obtain ⟨rfl, hrest⟩ := List.cons.inj h
      have htail : marks s = marks u := by
        have hboth : marks [d] ++ marks s = marks [d] ++ marks u := by
          rw [← marks_append, ← marks_append]
          exact hmarks
        exact List.append_cancel_left hboth
      obtain ⟨rfl, hback⟩ := ih htail hrest
      exact ⟨rfl, hback⟩

end Text

namespace Descriptor

theorem commaLines_singleton (t : Text) : commaLines [t] = t := by simp [commaLines, join]

theorem commaLines_cons_cons (s t : Text) (ts : List Text) :
    commaLines (s :: t :: ts) = s ++ ',' :: '\n' :: commaLines (t :: ts) := by
  simp [commaLines, join_cons_cons]

theorem mem_sortedCategories {d : Descriptor} {category : Text × List Text} :
    category ∈ d.sortedCategories ↔ category ∈ d.categories.entries :=
  (sortBy_perm _ _).mem_iff

def categoryLine (category : Text × List Text) : Text :=
  "      ".toList ++ category.1 ++ ": ".toList ++ wordList category.2

def modeLine (table : Option AbbreviationTable) (rule : TokenRule) : Text :=
  "      hljs.".toList ++ fieldName table rule.name

/-- A field with a list of lines, which is left out if there are none. -/
def linesField (table : Option AbbreviationTable) (name opening closing : Text) (ls : List Text) :
    List Text :=
  if ls.isEmpty then []
  else [fieldName table name ++ ':' :: (opening ++ '\n' :: (commaLines ls ++ '\n' :: closing))]

theorem bodyFields_eq (d : Descriptor) (table : Option AbbreviationTable) :
    d.bodyFields table =
      (if d.caseSensitive then []
        else [fieldName table "case_insensitive".toList ++ ": true".toList]) ++
      [fieldName table "lexemes".toList ++ ": ".toList ++ regexLiteral d.tokenRegex.source] ++
      linesField table "keywords".toList " \x7b".toList "    \x7d".toList
        (d.sortedCategories.map categoryLine) ++
      linesField table "contains".toList " [".toList "    ]".toList
        (d.tokenRules.map (modeLine table)) := by
  have hempty : d.sortedCategories.isEmpty = d.categories.entries.isEmpty :=
    (sortBy_perm _ _).isEmpty_eq
  have hopen : ": \x7b\n".toList = ':' :: (" \x7b".toList ++ ['\n']) := rfl
  have hclose : "\n    \x7d".toList = '\n' :: "    \x7d".toList := rfl
  have hopenList : ": [\n".toList = ':' :: (" [".toList ++ ['\n']) := rfl
  have hcloseList : "\n    ]".toList = '\n' :: "    ]".toList := rfl
  unfold bodyFields linesField categoryLine modeLine
  simp only [List.isEmpty_map, hempty, hopen, hclose, hopenList, hcloseList, List.append_assoc,
    List.cons_append, List.nil_append]

theorem renderBody_eq (d : Descriptor) (table : Option AbbreviationTable) :
    d.renderBody table = "function(hljs) \x7b\n  return \x7b".toList ++ '\n' ::
      (commaLines ((d.bodyFields table).map fun field => "   ".toList ++ ' ' :: field) ++
        '\n' :: "  \x7d;\n\x7d\n".toList) := by
  have hopen : "function(hljs) \x7b\n  return \x7b\n".toList =
      "function(hljs) \x7b\n  return \x7b".toList ++ ['\n'] := rfl
  have hclose : "\n  \x7d;\n\x7d\n".toList = '\n' :: "  \x7d;\n\x7d\n".toList := rfl
  have hindent : "    ".toList = "   ".toList ++ [' '] := rfl
  unfold renderBody
  simp only [hopen, hclose, hindent, List.append_assoc, List.cons_append, List.nil_append]

end Descriptor

namespace AbbreviationTable

variable {table : AbbreviationTable}

/-! ### Shortened names, from mark to mark -/

/-- A text with its names shortened, from its runs. -/
def namesShortened (table : AbbreviationTable) (t : Text) : Text :=
  (wordRuns t).flatMap table.shortenedRun

/-- No word of the text is a name. -/
def Spares (table : AbbreviationTable) (t : Text) : Prop :=
  ∀ piece ∈ wordPieces t, piece ∉ table.codes.keys

instance (t : Text) : Decidable (table.Spares t) :=
  inferInstanceAs (Decidable (∀ piece ∈ wordPieces t, piece ∉ table.codes.keys))

theorem spares_blank (hnames : table.NamesAreWords) {t : Text}
    (ht : ∀ piece ∈ wordPieces t, piece = []) : table.Spares t := by
  intro piece hpiece
  rw [ht piece hpiece]
  exact fun hkey => (hnames [] hkey).1 rfl

theorem spares_nil (hnames : table.NamesAreWords) : table.Spares [] :=
  spares_blank hnames (by simp [wordPieces, splitWhen])

theorem spares_word {word : Text} (hword : ∀ c ∈ word, isWord c = true)
    (hname : word ∉ table.codes.keys) : table.Spares word := by
  rw [Spares, wordPieces_of_word hword, List.forall_mem_singleton]
  exact hname

theorem apply_shortenNames_eq (hnames : table.NamesAreWords) (t : Text) :
    (Rule.shortenNames table).apply t = .ok (table.namesShortened t) := by
  obtain ⟨first, later, hfirst, rfl⟩ := exists_glue t
  rw [apply_shortenNames hnames hfirst, namesShortened, flatMap_shortenedRun_glue hnames hfirst]

theorem namesShortened_eq_self_iff (hnames : table.NamesAreWords) (t : Text) :
    table.namesShortened t = t ↔ table.Spares t := by
  rw [← Except.ok.injEq (ε := SubstitutionError), ← apply_shortenNames_eq hnames]
  exact ⟨no_names_of_shortenNames hnames, shortenNames_of_no_names hnames⟩

theorem namesShortened_word (hnames : table.NamesAreWords) {word : Text}
    (hword : ∀ c ∈ word, isWord c = true) : table.namesShortened word = table.abbreviate word := by
  rw [namesShortened, ← glue_nil word, flatMap_shortenedRun_glue hnames hword, shortened_nil,
    glue_nil]

theorem namesShortened_append_cons (hnames : table.NamesAreWords) {c : Char}
    (hc : isWord c = false) (s t : Text) :
    table.namesShortened (s ++ c :: t) = table.namesShortened s ++ c :: table.namesShortened t := by
  -- a word in front of a mark is shortened apart from what follows
  have hword : ∀ {word : Text} {d : Char} (back : Text), (∀ e ∈ word, isWord e = true) →
      isWord d = false → table.namesShortened (word ++ d :: back) =
        table.abbreviate word ++ d :: table.namesShortened back := by
    intro word d back hall hd
    have hback : (d :: back).head?.any isWord = false := hd
    rw [namesShortened, flatMap_shortenedRun_word hnames hall hback, flatMap_shortenedRun_mark hd,
      namesShortened]
  obtain ⟨first, later, hfirst, rfl⟩ := exists_glue s
  induction later generalizing first with
  | nil =>
    rw [glue_nil, hword t hfirst hc, namesShortened_word hnames hfirst]
  | cons s later ih =>
    rw [glue_cons, List.append_assoc, List.cons_append, hword _ hfirst s.isWord_mark,
      hword _ hfirst s.isWord_mark, ih _ s.isWord_word, List.append_assoc, List.cons_append]

theorem marks_abbreviate (hcodes : ∀ code ∈ table.codes.values, ∀ c ∈ code, isWord c = true)
    {word : Text} (hword : ∀ c ∈ word, isWord c = true) : marks (table.abbreviate word) = [] := by
  by_cases hname : word ∈ table.codes.keys
  · exact marks_of_word (hcodes _ (abbreviate_mem_values hname))
  · rw [table.abbreviate_of_not_mem hname]
    exact marks_of_word hword

theorem marks_namesShortened (hnames : table.NamesAreWords)
    (hcodes : ∀ code ∈ table.codes.values, ∀ c ∈ code, isWord c = true) (t : Text) :
    marks (table.namesShortened t) = marks t := by
  obtain ⟨first, later, hfirst, rfl⟩ := exists_glue t
  rw [namesShortened, flatMap_shortenedRun_glue hnames hfirst]
  induction later generalizing first with
  | nil =>
    rw [shortened_nil, glue_nil, marks_abbreviate hcodes hfirst, marks_of_word hfirst]
  | cons s later ih =>
    rw [shortened_cons, glue_cons, marks_append_cons s.isWord_mark,
      marks_append_cons s.isWord_mark, ih _ s.isWord_word, marks_abbreviate hcodes hfirst,
      marks_of_word hfirst]

/-! ### Parts of a text -/

/-- What stands in the place of a text when names are written short: it has the same marks, and it
is the shortened text exactly under the given condition. -/
structure Counterpart (table : AbbreviationTable) (t u : Text) (agree : Prop) : Prop where
  marks_eq : marks u = marks t
  shortened_eq_iff : table.namesShortened t = u ↔ agree

inductive Counterparts (table : AbbreviationTable) : List Text → List Text → Prop → Prop
  | nil : Counterparts table [] [] True
  | cons {t u : Text} {ts us : List Text} {P Q : Prop} (head : table.Counterpart t u P)
      (tail : Counterparts table ts us Q) : Counterparts table (t :: ts) (u :: us) (P ∧ Q)

section

variable (hnames : table.NamesAreWords)
  (hcodes : ∀ code ∈ table.codes.values, ∀ c ∈ code, isWord c = true)

theorem Counterpart.congr {t u : Text} {P Q : Prop} (h : table.Counterpart t u P) (hPQ : P ↔ Q) :
    table.Counterpart t u Q := ⟨h.marks_eq, h.shortened_eq_iff.trans hPQ⟩

include hnames in
theorem counterpart_self (t : Text) : table.Counterpart t t (table.Spares t) :=
  ⟨rfl, namesShortened_eq_self_iff hnames t⟩

include hnames hcodes

theorem counterpart_abbreviate (name : Text) :
    table.Counterpart name (table.abbreviate name)
      (name ∈ table.codes.keys ∨ table.Spares name) := by
  by_cases hname : name ∈ table.codes.keys
  · have hword := (hnames name hname).2
    have hmarks : marks (table.abbreviate name) = marks name := by
      rw [marks_abbreviate hcodes hword, marks_of_word hword]
    have hshort := namesShortened_word hnames hword
    exact ⟨hmarks, fun _ => Or.inl hname, fun _ => hshort⟩
  · rw [table.abbreviate_of_not_mem hname]
    exact (counterpart_self hnames name).congr (or_iff_right hname).symm

theorem Counterpart.append_cons {c : Char} (hc : isWord c = false) {s t u v : Text} {P Q : Prop}
    (h : table.Counterpart s u P) (h' : table.Counterpart t v Q) :
    table.Counterpart (s ++ c :: t) (u ++ c :: v) (P ∧ Q) := by
  have hmarks : marks (table.namesShortened s) = marks u := by
    rw [marks_namesShortened hnames hcodes, h.marks_eq]
  constructor
  · rw [marks_append_cons hc, marks_append_cons hc, h.marks_eq, h'.marks_eq]
  · rw [namesShortened_append_cons hnames hc, append_cons_inj_of_marks hc hmarks,
      h.shortened_eq_iff, h'.shortened_eq_iff]

theorem Counterpart.behind (front : Text) {c : Char} (hc : isWord c = false)
    (hfront : table.Spares front) {t u : Text} {P : Prop} (h : table.Counterpart t u P) :
    table.Counterpart (front ++ c :: t) (front ++ c :: u) P := by
  have hself := counterpart_self hnames front
  exact (hself.append_cons hnames hcodes hc h).congr (and_iff_right hfront)

theorem Counterpart.before (back : Text) {c : Char} (hc : isWord c = false)
    (hback : table.Spares back) {t u : Text} {P : Prop} (h : table.Counterpart t u P) :
    table.Counterpart (t ++ c :: back) (u ++ c :: back) P := by
  have hself := counterpart_self hnames back
  exact (h.append_cons hnames hcodes hc hself).congr (and_iff_left hback)

end

/-! ### Lists of parts -/

theorem Counterparts.congr {ts us : List Text} {P Q : Prop} (h : table.Counterparts ts us P)
    (hPQ : P ↔ Q) : table.Counterparts ts us Q := propext hPQ ▸ h

theorem Counterpart.counterparts {t u : Text} {P : Prop} (h : table.Counterpart t u P) :
    table.Counterparts [t] [u] P := (Counterparts.cons h .nil).congr (and_iff_left trivial)

theorem Counterparts.append {ts us ts' us' : List Text} {P Q : Prop}
    (h : table.Counterparts ts us P) (h' : table.Counterparts ts' us' Q) :
    table.Counterparts (ts ++ ts') (us ++ us') (P ∧ Q) := by
  induction h with
  | nil => exact h'.congr (and_iff_right trivial).symm
  | cons head _ ih => exact (Counterparts.cons head ih).congr and_assoc.symm

theorem counterparts_map {α : Type} {f g : α → Text} {P : α → Prop} {xs : List α}
    (h : ∀ x ∈ xs, table.Counterpart (f x) (g x) (P x)) :
    table.Counterparts (xs.map f) (xs.map g) (∀ x ∈ xs, P x) := by
  induction xs with
  | nil => exact Counterparts.nil.congr (by simp)
  | cons x xs ih =>
    have hx := h x List.mem_cons_self
    have hrest := ih fun y hy => h y (List.mem_cons_of_mem _ hy)
    exact (Counterparts.cons hx hrest).congr List.forall_mem_cons.symm

section

variable (hnames : table.NamesAreWords)
  (hcodes : ∀ code ∈ table.codes.values, ∀ c ∈ code, isWord c = true)
include hnames hcodes

theorem Counterparts.behind (front : Text) {c : Char} (hc : isWord c = false)
    (hfront : table.Spares front) {ts us : List Text} {P : Prop} (h : table.Counterparts ts us P) :
    table.Counterparts (ts.map fun t => front ++ c :: t) (us.map fun u => front ++ c :: u) P := by
  induction h with
  | nil => exact .nil
  | cons head _ ih => exact .cons (head.behind hnames hcodes front hc hfront) ih

theorem Counterparts.commaLines {ts us : List Text} {P : Prop} (h : table.Counterparts ts us P) :
    table.Counterpart (Descriptor.commaLines ts) (Descriptor.commaLines us) P := by
  induction h with
  | nil => exact (counterpart_self hnames []).congr (iff_true_intro (spares_nil hnames))
  | cons head tail ih =>
    cases tail with
    | nil =>
      rw [Descriptor.commaLines_singleton, Descriptor.commaLines_singleton]
      exact head.congr (and_iff_left trivial).symm
    | cons next rest =>
      have hbehind := ih.behind hnames hcodes [] isWord_newline (spares_nil hnames)
      rw [Descriptor.commaLines_cons_cons, Descriptor.commaLines_cons_cons]
      exact head.append_cons hnames hcodes isWord_comma hbehind

end

/-! ### The parts of a grammar -/

/-- The words that every grammar has in it, names of fields and modes apart. -/
def frameWords : List Text := ["function".toList, "hljs".toList, "return".toList, "true".toList]

theorem spares_frame (hnames : table.NamesAreWords)
    (hfree : ∀ word ∈ frameWords, word ∉ table.codes.keys) {t : Text}
    (ht : ∀ piece ∈ wordPieces t, piece = [] ∨ piece ∈ frameWords) : table.Spares t := by
  intro piece hpiece
  rcases ht piece hpiece with rfl | hframe
  · exact fun hkey => (hnames [] hkey).1 rfl
  · exact hfree piece hframe

section

variable (hnames : table.NamesAreWords)
  (hcodes : ∀ code ∈ table.codes.values, ∀ c ∈ code, isWord c = true)
  (hfree : ∀ word ∈ frameWords, word ∉ table.codes.keys)

include hnames hcodes

theorem counterpart_fieldName {name : Text} (hname : name.all isWord = true) :
    table.Counterpart (Descriptor.fieldName none name) (Descriptor.fieldName (some table) name)
      True := by
  refine (counterpart_abbreviate hnames hcodes name).congr (iff_true_intro ?_)
  by_cases hkey : name ∈ table.codes.keys
  · exact Or.inl hkey
  · exact Or.inr (spares_word (List.all_eq_true.1 hname) hkey)

theorem Counterpart.keyed {name : Text} (hname : name.all isWord = true) {t u : Text}
    {P : Prop} (h : table.Counterpart t u P) :
    table.Counterpart (Descriptor.fieldName none name ++ ':' :: t)
      (Descriptor.fieldName (some table) name ++ ':' :: u) P := by
  have hkey := counterpart_fieldName hnames hcodes hname
  exact (hkey.append_cons hnames hcodes isWord_colon h).congr (and_iff_right trivial)

theorem Counterpart.enclosed {opening closing : Text} (hopening : table.Spares opening)
    (hclosing : table.Spares closing) {t u : Text} {P : Prop} (h : table.Counterpart t u P) :
    table.Counterpart (opening ++ '\n' :: (t ++ '\n' :: closing))
      (opening ++ '\n' :: (u ++ '\n' :: closing)) P := by
  have hbefore := h.before hnames hcodes closing isWord_newline hclosing
  exact hbefore.behind hnames hcodes opening isWord_newline hopening

theorem counterpart_categoryLine (category : Text × List Text) :
    table.Counterpart (Descriptor.categoryLine category) (Descriptor.categoryLine category)
      (table.Spares category.1 ∧ table.Spares (Descriptor.wordList category.2)) := by
  have hindent : table.Spares "     ".toList := spares_blank hnames (by decide +kernel)
  have hname := (counterpart_self hnames category.1).behind hnames hcodes _ isWord_blank hindent
  have hwords := (counterpart_self hnames (Descriptor.wordList category.2)).behind hnames hcodes []
    isWord_blank (spares_nil hnames)
  have hall := hname.append_cons hnames hcodes isWord_colon hwords
  unfold Descriptor.categoryLine
  simp only [List.append_assoc, List.cons_append, List.nil_append] at hall ⊢
  exact hall

theorem counterparts_lexemesField (pattern : Text) :
    table.Counterparts
      [Descriptor.fieldName none "lexemes".toList ++ ": ".toList ++ Descriptor.regexLiteral pattern]
      [Descriptor.fieldName (some table) "lexemes".toList ++ ": ".toList ++
        Descriptor.regexLiteral pattern]
      (table.Spares (Descriptor.regexLiteral pattern)) := by
  have hvalue := (counterpart_self hnames (Descriptor.regexLiteral pattern)).behind hnames hcodes []
    isWord_blank (spares_nil hnames)
  have hfield := hvalue.keyed hnames hcodes
    (by decide +kernel : "lexemes".toList.all isWord = true)
  simpa using hfield.counterparts

theorem Counterparts.linesField {name opening closing : Text} (hname : name.all isWord = true)
    (hopening : ∀ piece ∈ wordPieces opening, piece = [])
    (hclosing : ∀ piece ∈ wordPieces closing, piece = []) {ls ls' : List Text} {P : Prop}
    (h : table.Counterparts ls ls' P) :
    table.Counterparts (Descriptor.linesField none name opening closing ls)
      (Descriptor.linesField (some table) name opening closing ls') P := by
  have hvalue := (h.commaLines hnames hcodes).enclosed hnames hcodes (spares_blank hnames hopening)
    (spares_blank hnames hclosing)
  have hfield := (hvalue.keyed hnames hcodes hname).counterparts
  cases h with
  | nil => exact .nil
  | cons head tail => exact hfield

include hfree

theorem counterparts_caseField (caseSensitive : Bool) :
    table.Counterparts
      (if caseSensitive then []
        else [Descriptor.fieldName none "case_insensitive".toList ++ ": true".toList])
      (if caseSensitive then []
        else [Descriptor.fieldName (some table) "case_insensitive".toList ++ ": true".toList])
      True := by
  have htrue : table.Spares " true".toList := spares_frame hnames hfree (by decide +kernel)
  have hvalue := (counterpart_self hnames " true".toList).congr (iff_true_intro htrue)
  have hfield := hvalue.keyed hnames hcodes
    (by decide +kernel : "case_insensitive".toList.all isWord = true)
  cases caseSensitive with
  | true => exact .nil
  | false => simpa using hfield.counterparts

theorem counterpart_modeLine (rule : TokenRule) :
    table.Counterpart (Descriptor.modeLine none rule) (Descriptor.modeLine (some table) rule)
      (rule.name ∈ table.codes.keys ∨ table.Spares rule.name) := by
  have hengine : table.Spares "      hljs".toList := spares_frame hnames hfree (by decide +kernel)
  have hname := counterpart_abbreviate hnames hcodes rule.name
  exact hname.behind hnames hcodes _ isWord_point hengine

theorem counterparts_bodyFields (d : Descriptor) :
    table.Counterparts (d.bodyFields none) (d.bodyFields (some table))
      ((True ∧ table.Spares (Descriptor.regexLiteral d.tokenRegex.source)) ∧
        (∀ category ∈ d.sortedCategories,
          table.Spares category.1 ∧ table.Spares (Descriptor.wordList category.2)) ∧
        ∀ rule ∈ d.tokenRules, rule.name ∈ table.codes.keys ∨ table.Spares rule.name) := by
  have hcase := counterparts_caseField hnames hcodes hfree d.caseSensitive
  have hlexemes := counterparts_lexemesField hnames hcodes d.tokenRegex.source
  have hcategories := counterparts_map fun category (_ : category ∈ d.sortedCategories) =>
    counterpart_categoryLine hnames hcodes category
  have hkeywords := hcategories.linesField hnames hcodes
    (by decide +kernel : "keywords".toList.all isWord = true)
    (by decide +kernel : ∀ piece ∈ wordPieces " \x7b".toList, piece = [])
    (by decide +kernel : ∀ piece ∈ wordPieces "    \x7d".toList, piece = [])
  have hmodes := counterparts_map fun rule (_ : rule ∈ d.tokenRules) =>
    counterpart_modeLine hnames hcodes hfree rule
  have hcontains := hmodes.linesField hnames hcodes
    (by decide +kernel : "contains".toList.all isWord = true)
    (by decide +kernel : ∀ piece ∈ wordPieces " [".toList, piece = [])
    (by decide +kernel : ∀ piece ∈ wordPieces "    ]".toList, piece = [])
  rw [Descriptor.bodyFields_eq, Descriptor.bodyFields_eq]
  exact (((hcase.append hlexemes).append hkeywords).append hcontains).congr and_assoc

theorem counterpart_renderBody (d : Descriptor) :
    table.Counterpart (d.renderBody none) (d.renderBody (some table))
      ((True ∧ table.Spares (Descriptor.regexLiteral d.tokenRegex.source)) ∧
        (∀ category ∈ d.sortedCategories,
          table.Spares category.1 ∧ table.Spares (Descriptor.wordList category.2)) ∧
        ∀ rule ∈ d.tokenRules, rule.name ∈ table.codes.keys ∨ table.Spares rule.name) := by
  have hindent : table.Spares "   ".toList := spares_blank hnames (by decide +kernel)
  have hfields := (counterparts_bodyFields hnames hcodes hfree d).behind hnames hcodes _
    isWord_blank hindent
  have hopening : table.Spares "function(hljs) \x7b\n  return \x7b".toList :=
    spares_frame hnames hfree (by decide +kernel)
  have hclosing : table.Spares "  \x7d;\n\x7d\n".toList := spares_blank hnames (by decide +kernel)
  rw [Descriptor.renderBody_eq, Descriptor.renderBody_eq]
  exact (hfields.commaLines hnames hcodes).enclosed hnames hcodes hopening hclosing

end

theorem forall_sortedCategories (d : Descriptor) :
    (∀ category ∈ d.sortedCategories,
      table.Spares category.1 ∧ table.Spares (Descriptor.wordList category.2)) ↔
    (∀ name ∈ d.categories.keys, table.Spares name) ∧
      ∀ ws ∈ d.categories.values, table.Spares (Descriptor.wordList ws) := by
  simp only [Descriptor.mem_sortedCategories]
  unfold OrderedMap.keys OrderedMap.values
  rw [forall₂_and, List.forall_mem_map, List.forall_mem_map]

end AbbreviationTable

open AbbreviationTable in
/-- Shortening the names in a written grammar gives the grammar written with short names exactly if
no name stands in a category's name, in its words, in the pattern for words or, with more around
it, in the name of a mode. -/
theorem Descriptor.shortenNames_renderBody_iff (d : Descriptor) {table : AbbreviationTable}
    (hnames : table.NamesAreWords)
    (hcodes : ∀ code ∈ table.codes.values, ∀ c ∈ code, isWord c = true)
    (hfree : ∀ word ∈ frameWords, word ∉ table.codes.keys) :
    (Rule.shortenNames table).apply (d.renderBody none) = .ok (d.renderBody (some table)) ↔
      (∀ name ∈ d.categories.keys, table.Spares name) ∧
      (∀ ws ∈ d.categories.values, table.Spares (wordList ws)) ∧
      table.Spares (regexLiteral d.tokenRegex.source) ∧
      ∀ rule ∈ d.tokenRules, rule.name ∈ table.codes.keys ∨ table.Spares rule.name := by
  have hbody := counterpart_renderBody hnames hcodes hfree d
  rw [apply_shortenNames_eq hnames, Except.ok.injEq, hbody.shortened_eq_iff, true_and,
    forall_sortedCategories]
  constructor
  · rintro ⟨hpattern, ⟨hcategories, hwords⟩, hmodes⟩
    exact ⟨hcategories, hwords, hpattern, hmodes⟩
  · rintro ⟨hcategories, hwords, hpattern, hmodes⟩
    exact ⟨hpattern, ⟨hcategories, hwords⟩, hmodes⟩

/-- A grammar whose pattern has a slash in it, and with keywords of one's own. -/
def Descriptor.smallGrammar (keywords : List Text) : Descriptor where
  caseSensitive := false
  tokenRegex := {
    source := "[a-z/]+".toList
    pattern := .many1 (.one { items := [.range 97 122, .char 47] }) }
  categories := .ofList [("keyword".toList, keywords)]
  tokenRules := Primitives.engine.toList

theorem Descriptor.shortenNames_renderBody_smallGrammar :
    AbbreviationTable.standard.NamesAreWords ∧
      (∀ code ∈ AbbreviationTable.standard.codes.values, ∀ c ∈ code, isWord c = true) ∧
      (∀ word ∈ AbbreviationTable.frameWords, word ∉ AbbreviationTable.standard.codes.keys) ∧
      (Rule.shortenNames .standard).apply
          ((smallGrammar ["begins".toList, "ends".toList]).renderBody none) =
        .ok ((smallGrammar ["begins".toList, "ends".toList]).renderBody (some .standard)) ∧
      (Rule.shortenNames .standard).apply
          ((smallGrammar ["begin".toList, "end".toList]).renderBody none) ≠
        .ok ((smallGrammar ["begin".toList, "end".toList]).renderBody (some .standard)) := by
  have hnames : AbbreviationTable.standard.NamesAreWords := by decide +kernel
  have hall : ∀ code ∈ AbbreviationTable.standard.codes.values, code.all isWord = true := by
    decide +kernel
  have hcodes : ∀ code ∈ AbbreviationTable.standard.codes.values, ∀ c ∈ code, isWord c = true :=
    fun code hcode => List.all_eq_true.1 (hall code hcode)
  have hfree : ∀ word ∈ AbbreviationTable.frameWords,
      word ∉ AbbreviationTable.standard.codes.keys := by decide +kernel
  have hiff := fun keywords =>
    shortenNames_renderBody_iff (smallGrammar keywords) hnames hcodes hfree
  refine ⟨hnames, hcodes, hfree, (hiff _).2 (by decide +kernel), fun hequal => ?_⟩
  -- the list of keywords holds two names
  have hspares := ((hiff _).1 hequal).2.1
  revert hspares
  decide +kernel

end GrammarKit
