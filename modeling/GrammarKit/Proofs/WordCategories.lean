import GrammarKit.Descriptor.Basic
import GrammarKit.Proofs.LookUps
import Mathlib.Data.List.Basic

/-!
# Categories of words

A descriptor is made exactly if its categories are consistent: they have names, their words are
trimmed, and no word belongs to two of them. Each word then has one category at most, in whatever
order the categories are given.

The index that is filled on the way holds, at every moment, the words that have been seen with the
categories they were seen in. A word that is already there is accepted from its own category only,
so nothing that is entered is ever lost.
-/

namespace GrammarKit

open Text

/-- A word of the category is compared as `key`. -/
def Declares (fold : Text → Text) (categories : List (Text × List Text)) (category key : Text) :
    Prop :=
  ∃ ws, (category, ws) ∈ categories ∧ ∃ word ∈ ws, fold word = key

/-- Categories that have names, whose words are trimmed and belong to no other category. -/
structure Consistent (fold : Text → Text) (categories : List (Text × List Text)) : Prop where
  named : ∀ entry ∈ categories, entry.1 ≠ []
  trimmed : ∀ entry ∈ categories, ∀ word ∈ entry.2, word ≠ [] ∧ trim word = word
  apart : ∀ first ∈ categories, ∀ second ∈ categories, first.1 ≠ second.1 →
    ∀ word ∈ first.2, ∀ other ∈ second.2, fold word ≠ fold other

theorem declares_cons {fold : Text → Text} {name category key : Text} {ws : List Text}
    {rest : List (Text × List Text)} :
    Declares fold ((name, ws) :: rest) category key ↔
      (category = name ∧ ∃ word ∈ ws, fold word = key) ∨ Declares fold rest category key := by
  constructor
  · rintro ⟨found, hmem, hword⟩
    rcases List.mem_cons.1 hmem with he | hmem
    · obtain ⟨rfl, rfl⟩ := Prod.mk.inj he
      exact Or.inl ⟨rfl, hword⟩
    · exact Or.inr ⟨found, hmem, hword⟩
  · rintro (⟨rfl, hword⟩ | ⟨found, hmem, hword⟩)
    · exact ⟨ws, List.mem_cons_self, hword⟩
    · exact ⟨found, List.mem_cons_of_mem _ hmem, hword⟩

theorem apart_iff {fold : Text → Text} {categories : List (Text × List Text)} :
    (∀ first ∈ categories, ∀ second ∈ categories, first.1 ≠ second.1 →
      ∀ word ∈ first.2, ∀ other ∈ second.2, fold word ≠ fold other) ↔
    ∀ first second key, Declares fold categories first key → Declares fold categories second key →
      first = second := by
  constructor
  · rintro h first second key ⟨ws, hws, word, hword, hkey⟩ ⟨vs, hvs, other, hother, hsame⟩
    by_contra hne
    exact h (first, ws) hws (second, vs) hvs hne word hword other hother (hkey.trans hsame.symm)
  · intro h first hfirst second hsecond hne word hword other hother hsame
    exact hne (h first.1 second.1 (fold other) ⟨first.2, hfirst, word, hword, hsame⟩
      ⟨second.2, hsecond, other, hother, rfl⟩)

namespace WordIndex

variable {fold : Text → Text} {index more : WordIndex} {category : Text}

/-! ### One word -/

theorem addWord_eq_ok_iff {word : Text} :
    addWord fold index category word = .ok more ↔
      (word ≠ [] ∧ trim word = word) ∧
        (∀ owner, index.lookup (fold word) = some owner → owner = category) ∧
        more = (fold word, category) :: index := by
  unfold addWord
  by_cases hword : word ≠ [] ∧ trim word = word
  · have hgood : ¬ (word.isEmpty || word != trim word) = true := by
      simp [hword.1, hword.2]
    rw [if_neg hgood]
    cases hlookup : index.lookup (fold word) with
    | none => simp [hword, eq_comm]
    | some owner =>
      by_cases howner : owner = category
      · simp [hword, howner, eq_comm]
      · simp [howner]
  · have hbad : (word.isEmpty || word != trim word) = true := by
      by_cases hnil : word = []
      · simp [hnil]
      · have hpadded : word ≠ trim word := fun he => hword ⟨hnil, he.symm⟩
        simp [hpadded]
    simp [hbad, hword]

/-- A word is refused because it is not trimmed, or else because it belongs to another category. -/
theorem addWord_eq_error {word : Text} {e : DescriptorError}
    (h : addWord fold index category word = .error e) :
    (e = .badWord category word ∧ ¬ (word ≠ [] ∧ trim word = word)) ∨
      ∃ owner, e = .twoCategories word owner category := by
  unfold addWord at h
  split at h
  · next hbad =>
    refine .inl ⟨(Except.error.inj h).symm, ?_⟩
    rintro ⟨hne, htrim⟩
    simp [hne, htrim] at hbad
  · split at h
    · split at h
      · cases h
      · next owner _ _ => exact .inr ⟨owner, (Except.error.inj h).symm⟩
    · cases h

/-! ### The words of a category -/

theorem addWords_cons_eq_ok_iff {word : Text} {ws : List Text} :
    addWords fold category index (word :: ws) = .ok more ↔
      ∃ next, addWord fold index category word = .ok next ∧
        addWords fold category next ws = .ok more := by
  rw [addWords]
  cases addWord fold index category word <;> simp

theorem lookup_addWords {ws : List Text} (h : addWords fold category index ws = .ok more)
    (key owner : Text) :
    more.lookup key = some owner ↔
      index.lookup key = some owner ∨ (owner = category ∧ ∃ word ∈ ws, fold word = key) := by
  induction ws generalizing index with
  | nil =>
    rw [← Except.ok.inj h]
    simp
  | cons word ws ih =>
    obtain ⟨next, hword, hlater⟩ := addWords_cons_eq_ok_iff.1 h
    obtain ⟨-, howner, rfl⟩ := addWord_eq_ok_iff.1 hword
    rw [ih hlater, lookup_cons_eq_some_iff]
    by_cases hkey : key = fold word
    · subst hkey
      -- whoever owns the word already is the category itself
      constructor
      · rintro ((⟨-, hcat⟩ | ⟨hne, -⟩) | ⟨hcat, other, hother, hsame⟩)
        · exact Or.inr ⟨hcat, word, List.mem_cons_self, rfl⟩
        · exact absurd rfl hne
        · exact Or.inr ⟨hcat, other, List.mem_cons_of_mem _ hother, hsame⟩
      · rintro (hold | ⟨hcat, -⟩)
        · exact Or.inl (Or.inl ⟨rfl, howner owner hold⟩)
        · exact Or.inl (Or.inl ⟨rfl, hcat⟩)
    · have hne : fold word ≠ key := fun he => hkey he.symm
      simp [hkey, hne]

theorem addWords_eq_ok_iff {ws : List Text} :
    (∃ more, addWords fold category index ws = .ok more) ↔
      ∀ word ∈ ws, (word ≠ [] ∧ trim word = word) ∧
        ∀ owner, index.lookup (fold word) = some owner → owner = category := by
  induction ws generalizing index with
  | nil => simp [addWords]
  | cons word ws ih =>
    have hnext : ∀ other owner, ((fold word, category) :: index).lookup (fold other) = some owner →
        (∀ owner, index.lookup (fold other) = some owner → owner = category) →
        owner = category := by
      intro other owner hlookup hold
      rcases lookup_cons_eq_some_iff.1 hlookup with ⟨-, hcat⟩ | ⟨-, hlater⟩
      · exact hcat
      · exact hold owner hlater
    constructor
    · rintro ⟨more, h⟩
      obtain ⟨next, hword, hlater⟩ := addWords_cons_eq_ok_iff.1 h
      obtain ⟨hgood, howner, rfl⟩ := addWord_eq_ok_iff.1 hword
      have hrest := ih.1 ⟨more, hlater⟩
      intro other hother
      rcases List.mem_cons.1 hother with rfl | hother
      · exact ⟨hgood, howner⟩
      · refine ⟨(hrest other hother).1, ?_⟩
        intro owner hlookup
        by_cases hsame : fold other = fold word
        · rw [hsame] at hlookup
          exact howner owner hlookup
        · exact (hrest other hother).2 owner
            (lookup_cons_eq_some_iff.2 (Or.inr ⟨hsame, hlookup⟩))
    · intro h
      obtain ⟨hgood, howner⟩ := h word List.mem_cons_self
      have hword : addWord fold index category word = .ok ((fold word, category) :: index) :=
        addWord_eq_ok_iff.2 ⟨hgood, howner, rfl⟩
      have hrest : ∃ more, addWords fold category ((fold word, category) :: index) ws = .ok more := by
        apply ih.2
        intro other hother
        obtain ⟨hother, hold⟩ := h other (List.mem_cons_of_mem _ hother)
        exact ⟨hother, fun owner hlookup => hnext other owner hlookup hold⟩
      obtain ⟨more, hmore⟩ := hrest
      exact ⟨more, addWords_cons_eq_ok_iff.2 ⟨_, hword, hmore⟩⟩

/-! ### All categories -/

theorem addCategories_cons_eq_ok_iff {ws : List Text} {rest : List (Text × List Text)} :
    addCategories fold index ((category, ws) :: rest) = .ok more ↔
      category ≠ [] ∧ ∃ next, addWords fold category index ws = .ok next ∧
        addCategories fold next rest = .ok more := by
  rw [addCategories]
  cases category with
  | nil => simp
  | cons c name => cases addWords fold (c :: name) index ws <;> simp

theorem lookup_addCategories {categories : List (Text × List Text)}
    (h : addCategories fold index categories = .ok more) (key owner : Text) :
    more.lookup key = some owner ↔
      index.lookup key = some owner ∨ Declares fold categories owner key := by
  induction categories generalizing index with
  | nil =>
    rw [← Except.ok.inj h]
    simp [Declares]
  | cons entry rest ih =>
    obtain ⟨name, ws⟩ := entry
    obtain ⟨-, next, hwords, hlater⟩ := addCategories_cons_eq_ok_iff.1 h
    rw [ih hlater, lookup_addWords hwords, declares_cons, or_assoc]

/-- The categories can be added to an index exactly if they have names and trimmed words, and no
word then has two owners. -/
theorem addCategories_eq_ok_iff {categories : List (Text × List Text)} :
    (∃ more, addCategories fold index categories = .ok more) ↔
      (∀ entry ∈ categories, entry.1 ≠ [] ∧ ∀ word ∈ entry.2, word ≠ [] ∧ trim word = word) ∧
        ∀ key owner, Declares fold categories owner key → ∀ other,
          (index.lookup key = some other ∨ Declares fold categories other key) → other = owner := by
  induction categories generalizing index with
  | nil => simp [addCategories, Declares]
  | cons entry rest ih =>
    obtain ⟨name, ws⟩ := entry
    constructor
    · rintro ⟨more, h⟩
      obtain ⟨hname, next, hwords, hlater⟩ := addCategories_cons_eq_ok_iff.1 h
      have hhere := addWords_eq_ok_iff.1 ⟨next, hwords⟩
      obtain ⟨hentries, howners⟩ := ih.1 ⟨more, hlater⟩
      refine ⟨?_, ?_⟩
      · intro entry hentry
        rcases List.mem_cons.1 hentry with rfl | hentry
        · exact ⟨hname, fun word hword => (hhere word hword).1⟩
        · exact hentries entry hentry
      · intro key owner howner other hother
        have hknown : next.lookup key = some other ∨ Declares fold rest other key := by
          rw [lookup_addWords hwords, or_assoc, ← declares_cons]
          exact hother
        rcases declares_cons.1 howner with ⟨rfl, word, hword, rfl⟩ | howner
        · -- a word of the first category: whoever has it now is that category
          have hmine : next.lookup (fold word) = some owner :=
            (lookup_addWords hwords _ _).2 (Or.inr ⟨rfl, word, hword, rfl⟩)
          rcases hknown with hnow | hlater
          · rw [hnow] at hmine
            exact Option.some.inj hmine
          · exact (howners _ other hlater owner (Or.inl hmine)).symm
        · exact howners key owner howner other hknown
    · rintro ⟨hentries, howners⟩
      obtain ⟨hname, hws⟩ := hentries (name, ws) List.mem_cons_self
      have hwords : ∃ next, addWords fold name index ws = .ok next := by
        rw [addWords_eq_ok_iff]
        intro word hword
        refine ⟨hws word hword, ?_⟩
        intro owner hlookup
        have hmine : Declares fold ((name, ws) :: rest) name (fold word) :=
          declares_cons.2 (Or.inl ⟨rfl, word, hword, rfl⟩)
        exact howners _ name hmine owner (Or.inl hlookup)
      obtain ⟨next, hnext⟩ := hwords
      have hrest : ∃ more, addCategories fold next rest = .ok more := by
        apply ih.2
        refine ⟨fun entry hentry => hentries entry (List.mem_cons_of_mem _ hentry), ?_⟩
        intro key owner howner other hother
        rw [lookup_addWords hnext, or_assoc, ← declares_cons] at hother
        exact howners key owner (declares_cons.2 (Or.inr howner)) other hother
      obtain ⟨more, hmore⟩ := hrest
      exact ⟨more, addCategories_cons_eq_ok_iff.2 ⟨hname, next, hnext, hmore⟩⟩

theorem addCategories_nil_eq_ok_iff {categories : List (Text × List Text)} :
    (∃ more, addCategories fold [] categories = .ok more) ↔ Consistent fold categories := by
  rw [addCategories_eq_ok_iff]
  constructor
  · rintro ⟨hentries, howners⟩
    refine ⟨fun e he => (hentries e he).1, fun e he => (hentries e he).2, apart_iff.2 ?_⟩
    intro first second key hfirst hsecond
    exact howners key second hsecond first (Or.inr hfirst)
  · intro h
    refine ⟨fun e he => ⟨h.named e he, h.trimmed e he⟩, ?_⟩
    rintro key owner howner other (hnone | hother)
    · cases hnone
    · exact apart_iff.1 h.apart other owner key hother howner

/-! ### What is at fault -/

theorem exists_of_addWords_eq_error {ws : List Text} {e : DescriptorError}
    (h : addWords fold category index ws = .error e) :
    ∃ word ∈ ws, ∃ seen, addWord fold seen category word = .error e := by
  induction ws generalizing index with
  | nil => cases h
  | cons word ws ih =>
    rw [addWords] at h
    split at h
    · obtain ⟨other, hother, hbad⟩ := ih h
      exact ⟨other, List.mem_cons_of_mem _ hother, hbad⟩
    · next first hfirst => exact ⟨word, List.mem_cons_self, index, Except.error.inj h ▸ hfirst⟩

/-- What is at fault with categories is a name or one of the words. -/
theorem exists_of_addCategories_eq_error {categories : List (Text × List Text)}
    {e : DescriptorError} (h : addCategories fold index categories = .error e) :
    e = .namelessCategory ∨
      ∃ entry ∈ categories, ∃ word ∈ entry.2, ∃ seen, addWord fold seen entry.1 word = .error e := by
  induction categories generalizing index with
  | nil => cases h
  | cons entry rest ih =>
    rw [addCategories] at h
    split at h
    · exact .inl (Except.error.inj h).symm
    · split at h
      · refine (ih h).imp id ?_
        rintro ⟨other, hother, hbad⟩
        exact ⟨other, List.mem_cons_of_mem _ hother, hbad⟩
      · next first hfirst =>
        obtain ⟨word, hword, hbad⟩ := exists_of_addWords_eq_error hfirst
        exact .inr ⟨entry, List.mem_cons_self, word, hword, Except.error.inj h ▸ hbad⟩

end WordIndex

namespace Descriptor

/-! ### Descriptors -/

theorem mem_mapValues_distinct {categories : OrderedMap Text (List Text)} {name : Text}
    {ws : List Text} :
    (name, ws) ∈ (categories.mapValues distinct).entries ↔
      ∃ vs, (name, vs) ∈ categories.entries ∧ distinct vs = ws := by
  constructor
  · intro h
    obtain ⟨⟨other, vs⟩, hmem, he⟩ := List.mem_map.1 h
    obtain ⟨rfl, hws⟩ := Prod.mk.inj he
    exact ⟨vs, hmem, hws⟩
  · rintro ⟨vs, hmem, rfl⟩
    exact List.mem_map.2 ⟨(name, vs), hmem, rfl⟩

theorem declares_distinct {fold : Text → Text} {categories : OrderedMap Text (List Text)}
    {category key : Text} :
    Declares fold (categories.mapValues distinct).entries category key ↔
      Declares fold categories.entries category key := by
  constructor
  · rintro ⟨ws, hws, word, hword, hkey⟩
    obtain ⟨vs, hvs, rfl⟩ := mem_mapValues_distinct.1 hws
    exact ⟨vs, hvs, word, mem_distinct.1 hword, hkey⟩
  · rintro ⟨vs, hvs, word, hword, hkey⟩
    exact ⟨distinct vs, mem_mapValues_distinct.2 ⟨vs, hvs, rfl⟩, word, mem_distinct.2 hword, hkey⟩

theorem consistent_distinct {fold : Text → Text} {categories : OrderedMap Text (List Text)} :
    Consistent fold (categories.mapValues distinct).entries ↔
      Consistent fold categories.entries := by
  constructor
  · intro h
    refine ⟨?_, ?_, apart_iff.2 ?_⟩
    · rintro ⟨name, vs⟩ hvs
      exact h.named (name, distinct vs) (mem_mapValues_distinct.2 ⟨vs, hvs, rfl⟩)
    · rintro ⟨name, vs⟩ hvs word hword
      exact h.trimmed (name, distinct vs) (mem_mapValues_distinct.2 ⟨vs, hvs, rfl⟩) word
        (mem_distinct.2 hword)
    · intro first second key hfirst hsecond
      exact apart_iff.1 h.apart first second key (declares_distinct.2 hfirst)
        (declares_distinct.2 hsecond)
  · intro h
    refine ⟨?_, ?_, apart_iff.2 ?_⟩
    · rintro ⟨name, ws⟩ hws
      obtain ⟨vs, hvs, rfl⟩ := mem_mapValues_distinct.1 hws
      exact h.named (name, vs) hvs
    · rintro ⟨name, ws⟩ hws word hword
      obtain ⟨vs, hvs, rfl⟩ := mem_mapValues_distinct.1 hws
      exact h.trimmed (name, vs) hvs word (mem_distinct.1 hword)
    · intro first second key hfirst hsecond
      exact apart_iff.1 h.apart first second key (declares_distinct.1 hfirst)
        (declares_distinct.1 hsecond)

theorem mem_entries_iff {d : Descriptor} {key category : Text} :
    (key, category) ∈ d.entries ↔ Declares d.fold d.categories.entries category key := by
  constructor
  · intro h
    obtain ⟨⟨name, ws⟩, hws, hmem⟩ := List.mem_flatMap.1 h
    obtain ⟨word, hword, he⟩ := List.mem_map.1 hmem
    obtain ⟨hkey, rfl⟩ := Prod.mk.inj he
    exact ⟨ws, hws, word, hword, hkey⟩
  · rintro ⟨ws, hws, word, hword, hkey⟩
    exact List.mem_flatMap.2 ⟨(category, ws), hws, List.mem_map.2 ⟨word, hword, by rw [hkey]⟩⟩

theorem make_eq_ok_iff {caseSensitive : Bool} {regex : Regex}
    {categories : OrderedMap Text (List Text)} {rules : List TokenRule} {d : Descriptor} :
    make caseSensitive regex categories rules = .ok d ↔
      Consistent (foldWord caseSensitive) categories.entries ∧
        d = ⟨caseSensitive, regex, categories.mapValues distinct, rules⟩ := by
  rw [← consistent_distinct, ← WordIndex.addCategories_nil_eq_ok_iff, make]
  cases WordIndex.addCategories (foldWord caseSensitive) []
    (categories.mapValues distinct).entries with
  | error e => simp
  | ok index => simp [eq_comm]

/-- The reason why a descriptor cannot be made is a category without a name, a word that is not
trimmed or a word of two categories. -/
theorem make_eq_error {caseSensitive : Bool} {regex : Regex}
    {categories : OrderedMap Text (List Text)} {rules : List TokenRule} {e : DescriptorError}
    (h : make caseSensitive regex categories rules = .error e) :
    e = .namelessCategory ∨
      (∃ entry ∈ categories.entries, ∃ word ∈ entry.2,
        e = .badWord entry.1 word ∧ ¬ (word ≠ [] ∧ trim word = word)) ∨
      ∃ word first second, e = .twoCategories word first second := by
  unfold make at h
  dsimp only at h
  split at h
  · cases h
  · next first hfirst =>
    obtain rfl := Except.error.inj h
    refine (WordIndex.exists_of_addCategories_eq_error hfirst).imp id ?_
    rintro ⟨⟨name, ws⟩, hentry, word, hword, seen, hbad⟩
    obtain ⟨vs, hvs, rfl⟩ := mem_mapValues_distinct.1 hentry
    rcases WordIndex.addWord_eq_error hbad with ⟨he, hpadded⟩ | ⟨owner, he⟩
    · exact .inl ⟨(name, vs), hvs, word, mem_distinct.1 hword, he, hpadded⟩
    · exact .inr ⟨word, owner, name, he⟩

theorem make_ne_badPattern {caseSensitive : Bool} {regex : Regex}
    {categories : OrderedMap Text (List Text)} {rules : List TokenRule} {e : DescriptorError}
    (h : make caseSensitive regex categories rules = .error e) (cause : Regex.Error) :
    e ≠ .badPattern cause := by
  rcases make_eq_error h with rfl | ⟨-, -, -, -, rfl, -⟩ | ⟨-, -, -, rfl⟩ <;> exact nofun

theorem classify_of_make {caseSensitive : Bool} {regex : Regex}
    {categories : OrderedMap Text (List Text)} {rules : List TokenRule} {d : Descriptor}
    (h : make caseSensitive regex categories rules = .ok d) (word category : Text) :
    d.classify word = some category ↔
      Declares (foldWord caseSensitive) categories.entries category
        (foldWord caseSensitive word) := by
  obtain ⟨hconsistent, rfl⟩ := make_eq_ok_iff.1 h
  have hunique : ∀ key first second,
      (key, first) ∈ (Descriptor.mk caseSensitive regex (categories.mapValues distinct) rules).entries →
      (key, second) ∈ (Descriptor.mk caseSensitive regex (categories.mapValues distinct) rules).entries →
      first = second := by
    intro key first second hfirst hsecond
    exact apart_iff.1 hconsistent.apart first second key
      (declares_distinct.1 (mem_entries_iff.1 hfirst))
      (declares_distinct.1 (mem_entries_iff.1 hsecond))
  rw [classify, lookup_eq_some_iff_mem hunique, mem_entries_iff]
  exact declares_distinct

/-- The index that is filled while a descriptor is made answers as the descriptor does. -/
theorem classify_eq_lookup {caseSensitive : Bool} {regex : Regex}
    {categories : OrderedMap Text (List Text)} {rules : List TokenRule} {d : Descriptor}
    {index : WordIndex} (h : make caseSensitive regex categories rules = .ok d)
    (hindex : WordIndex.addCategories (foldWord caseSensitive) []
      (categories.mapValues distinct).entries = .ok index) (word : Text) :
    d.classify word = index.lookup (foldWord caseSensitive word) := by
  apply Option.ext
  intro category
  have hlookup := WordIndex.lookup_addCategories hindex (foldWord caseSensitive word) category
  rw [declares_distinct] at hlookup
  rw [classify_of_make h, hlookup]
  simp

theorem consistent_of_perm {fold : Text → Text} {categories others : List (Text × List Text)}
    (h : others.Perm categories) : Consistent fold others ↔ Consistent fold categories := by
  have hmem : ∀ entry, entry ∈ others ↔ entry ∈ categories := fun _ => h.mem_iff
  constructor
  · intro hc
    exact ⟨fun e he => hc.named e ((hmem e).2 he), fun e he => hc.trimmed e ((hmem e).2 he),
      fun a ha b hb => hc.apart a ((hmem a).2 ha) b ((hmem b).2 hb)⟩
  · intro hc
    exact ⟨fun e he => hc.named e ((hmem e).1 he), fun e he => hc.trimmed e ((hmem e).1 he),
      fun a ha b hb => hc.apart a ((hmem a).1 ha) b ((hmem b).1 hb)⟩

theorem classify_eq_none_of_make {caseSensitive : Bool} {regex : Regex}
    {categories : OrderedMap Text (List Text)} {rules : List TokenRule} {d : Descriptor}
    (h : make caseSensitive regex categories rules = .ok d) (word : Text) :
    d.classify word = none ↔ ∀ entry ∈ categories.entries, ∀ other ∈ entry.2,
      foldWord caseSensitive other ≠ foldWord caseSensitive word := by
  rw [Option.eq_none_iff_forall_not_mem]
  constructor
  · rintro hnone ⟨category, ws⟩ hws other hother hsame
    exact hnone category ((classify_of_make h word category).2 ⟨ws, hws, other, hother, hsame⟩)
  · intro hnone category hcategory
    obtain ⟨ws, hws, other, hother, hsame⟩ := (classify_of_make h word category).1 hcategory
    exact hnone (category, ws) hws other hother hsame

theorem classify_of_perm {caseSensitive : Bool} {regex : Regex}
    {categories others : OrderedMap Text (List Text)} {rules : List TokenRule}
    {d other : Descriptor} (hperm : others.entries.Perm categories.entries)
    (h : make caseSensitive regex categories rules = .ok d)
    (hother : make caseSensitive regex others rules = .ok other) (word : Text) :
    other.classify word = d.classify word := by
  apply Option.ext
  intro category
  rw [classify_of_make h, classify_of_make hother]
  constructor
  · rintro ⟨ws, hws, hword⟩
    exact ⟨ws, hperm.mem_iff.1 hws, hword⟩
  · rintro ⟨ws, hws, hword⟩
    exact ⟨ws, hperm.mem_iff.2 hws, hword⟩

theorem exists_make_iff {caseSensitive : Bool} {regex : Regex}
    {categories : OrderedMap Text (List Text)} {rules : List TokenRule} :
    (∃ d, make caseSensitive regex categories rules = .ok d) ↔
      Consistent (foldWord caseSensitive) categories.entries := by
  constructor
  · rintro ⟨d, h⟩
    exact (make_eq_ok_iff.1 h).1
  · intro h
    exact ⟨_, make_eq_ok_iff.2 ⟨h, rfl⟩⟩

/-- With a pattern that can be read, a descriptor is made exactly if the categories are consistent,
and what is at fault otherwise are the categories. Then a word has a category exactly if the category
has that word, letter case set aside where it does not count. Another order of the categories makes
no difference. Patterns with the options `a` and `x`, with branches that depend on a group or with
characters given by name are not read here, so nothing is said of them. -/
theorem build_iff_consistent (spec : Spec) {regex : Regex}
    (hpattern : Regex.read spec.tokenPattern spec.options = .ok regex) :
    ((∃ d, spec.build = .ok d) ↔
      Consistent (foldWord spec.caseSensitive) spec.categories.entries) ∧
    (¬ Consistent (foldWord spec.caseSensitive) spec.categories.entries →
      ∃ e, spec.build = .error e ∧ ∀ cause, e ≠ .badPattern cause) ∧
    (∀ d, spec.build = .ok d → ∀ word,
      (∀ category, d.classify word = some category ↔
        ∃ ws, (category, ws) ∈ spec.categories.entries ∧
          ∃ other ∈ ws, foldWord spec.caseSensitive other = foldWord spec.caseSensitive word) ∧
      (d.classify word = none ↔
        ∀ entry ∈ spec.categories.entries, ∀ other ∈ entry.2,
          foldWord spec.caseSensitive other ≠ foldWord spec.caseSensitive word)) ∧
    ∀ categories : OrderedMap Text (List Text),
      categories.entries.Perm spec.categories.entries →
      ((∃ d, { spec with categories }.build = .ok d) ↔ ∃ d, spec.build = .ok d) ∧
      ∀ d other, spec.build = .ok d → { spec with categories }.build = .ok other →
        ∀ word, other.classify word = d.classify word := by
  have hbuild : ∀ categories, { spec with categories }.build =
      make spec.caseSensitive regex categories spec.tokenRules := by
    intro categories
    simp only [Spec.build, hpattern]
  have hspec := hbuild spec.categories
  refine ⟨?_, ?_, ?_, ?_⟩
  · rw [hspec]
    exact exists_make_iff
  · rw [hspec]
    intro hbad
    cases hmake : make spec.caseSensitive regex spec.categories spec.tokenRules with
    | ok d => exact absurd (exists_make_iff.1 ⟨d, hmake⟩) hbad
    | error e => exact ⟨e, rfl, make_ne_badPattern hmake⟩
  · intro d hd word
    rw [hspec] at hd
    exact ⟨classify_of_make hd word, classify_eq_none_of_make hd word⟩
  · intro categories hperm
    rw [hbuild categories, hspec]
    refine ⟨?_, ?_⟩
    · rw [exists_make_iff, exists_make_iff]
      exact consistent_of_perm hperm
    · intro d other hd hother word
      exact classify_of_perm hperm hd hother word

/-- A language in which letter case does not count, so that `String` and `string` are one word. -/
def sampleSpec : Spec where
  caseSensitive := false
  tokenPattern := "[a-z]+".toList
  categories := .ofList [("type".toList, ["string".toList, "String".toList]),
    ("keyword".toList, ["if".toList])]

theorem build_iff_consistent_sampleSpec :
    ∃ regex, Regex.read sampleSpec.tokenPattern sampleSpec.options = .ok regex ∧
      ∃ d, sampleSpec.build = .ok d ∧ d.classify "STRING".toList = some "type".toList := by
  have hpattern : (Regex.read sampleSpec.tokenPattern sampleSpec.options).isOk = true := by
    decide +kernel
  cases hread : Regex.read sampleSpec.tokenPattern sampleSpec.options with
  | error e =>
    rw [hread] at hpattern
    cases hpattern
  | ok regex =>
    obtain ⟨hmade, -, hclassify, -⟩ := build_iff_consistent sampleSpec hread
    have hconsistent : Consistent (foldWord sampleSpec.caseSensitive)
        sampleSpec.categories.entries := by
      constructor <;> decide +kernel
    obtain ⟨d, hd⟩ := hmade.2 hconsistent
    refine ⟨regex, rfl, d, hd, ?_⟩
    rw [(hclassify d hd "STRING".toList).1]
    exact ⟨["string".toList, "String".toList], by decide +kernel, "string".toList, by decide +kernel⟩

end Descriptor
end GrammarKit
