import GrammarKit.Language.Rao
import GrammarKit.Proofs.AsciiText
import GrammarKit.Proofs.MapEntries
import GrammarKit.Proofs.Results
import GrammarKit.Proofs.Tokens
import GrammarKit.Proofs.WordChunks

/-!
# The words of rao in texts

Every word of rao is found in a text, in whatever case its letters are written, where the characters
next to it leave it a word of its own, and it is then known by its category. Besides, what the
descriptor finds in a text are the tokens of the text.
-/

namespace GrammarKit

open Text Regex

namespace Descriptor

theorem exists_of_mem_wordsOf {d : Descriptor} {category word : Text}
    (h : word ∈ d.wordsOf category) : ∃ ws, (category, ws) ∈ d.categories.entries ∧ word ∈ ws := by
  cases hws : d.categories.get? category with
  | none =>
    rw [wordsOf, hws] at h
    cases h
  | some ws =>
    rw [wordsOf, hws] at h
    exact ⟨ws, (OrderedMap.get?_eq_some_iff _ _ _).1 hws, h⟩

/-- What is compared as a word of a category is known by that category. -/
theorem classify_of_mem_wordsOf {caseSensitive : Bool} {regex : Regex}
    {categories : OrderedMap Text (List Text)} {rules : List TokenRule} {d : Descriptor}
    (h : make caseSensitive regex categories rules = .ok d) {category word variant : Text}
    (hword : word ∈ d.wordsOf category) (hsame : d.fold variant = d.fold word) :
    d.classify variant = some category := by
  obtain ⟨ws, hws, hmem⟩ := exists_of_mem_wordsOf hword
  obtain ⟨-, rfl⟩ := make_eq_ok_iff.1 h
  rw [classify_of_make h]
  exact declares_distinct.1 ⟨ws, hws, word, hmem, hsame.symm⟩

end Descriptor

namespace Rao

/-- ASCII letters, the underscore and the dollar sign: with these a word begins. -/
def beginsWord (c : Char) : Bool := c.isAlpha || c = '_' || c = '$'

/-- ASCII letters, ASCII digits and the underscore: with these a word goes on. -/
def continuesWord (c : Char) : Bool := c.isAlphanum || c = '_'

/-! ### Characters of words -/

def beginSet : CharSet :=
  { items := [.range 'a'.toNat 'z'.toNat, .range 'A'.toNat 'Z'.toNat, .char '_'.toNat,
      .char '$'.toNat] }

def continueSet : CharSet :=
  { items := [.range 'a'.toNat 'z'.toNat, .range 'A'.toNat 'Z'.toNat, .range '0'.toNat '9'.toNat,
      .char '_'.toNat] }

theorem covers_beginSet : beginSet.covers = beginsWord := by
  funext c
  rw [Bool.eq_iff_iff]
  simp only [beginSet, CharSet.covers, CharSet.Item.covers, beginsWord, List.any_cons, List.any_nil,
    Bool.false_eq_true, if_false, Bool.or_false, Bool.bne_false, Bool.or_eq_true, Bool.and_eq_true,
    decide_eq_true_eq, isAlpha_iff, ← Char.toNat_inj, Char.reduceToNat]
  omega

theorem covers_continueSet : continueSet.covers = continuesWord := by
  funext c
  rw [Bool.eq_iff_iff]
  simp only [continueSet, CharSet.covers, CharSet.Item.covers, continuesWord, List.any_cons,
    List.any_nil, Bool.false_eq_true, if_false, Bool.or_false, Bool.bne_false, Bool.or_eq_true,
    Bool.and_eq_true, decide_eq_true_eq, isAlphanum_iff, isAlpha_iff, ← Char.toNat_inj,
    Char.reduceToNat]
  omega

theorem isAscii_of_continuesWord {c : Char} (h : continuesWord c = true) : isAscii c = true := by
  simp only [continuesWord, Bool.or_eq_true, decide_eq_true_eq, isAlphanum_iff, isAlpha_iff,
    ← Char.toNat_inj, Char.reduceToNat] at h
  exact decide_eq_true (by omega)

theorem beginsWord_toLower (c : Char) : beginsWord c.toLower = beginsWord c :=
  apply_toLower (by decide +kernel) c

theorem continuesWord_toLower (c : Char) : continuesWord c.toLower = continuesWord c :=
  apply_toLower (by decide +kernel) c

/-- A text all of which is one token. -/
structure IsToken (t : Text) : Prop where
  begins : t.head?.any beginsWord = true
  continues : ∀ c ∈ t, continuesWord c = true

theorem IsToken.of_sameButCase {s t : Text} (hs : IsToken s) (h : SameButCase s t) : IsToken t where
  begins := by
    have hany : ∀ u : Text, (u.map Char.toLower).head?.any beginsWord = u.head?.any beginsWord := by
      intro u
      cases u with
      | nil => rfl
      | cons c u => exact beginsWord_toLower c
    have hmap : s.map Char.toLower = t.map Char.toLower := h
    rw [← hany t, ← hmap, hany s, hs.begins]
  continues := h.forall continuesWord_toLower hs.continues

/-! ### The descriptor -/

/-- The pattern for words. -/
def wordRegex : Regex where
  source := "[a-zA-Z_$][a-zA-Z0-9_]*".toList
  pattern := .token beginSet continueSet

theorem read_wordRegex_source : (Regex.read wordRegex.source).toOption = some wordRegex := by
  decide +kernel

/-- The descriptor that is made, whatever the modes are. -/
def descriptor (p : Primitives) : Descriptor where
  caseSensitive := false
  tokenRegex := wordRegex
  categories := (spec p).categories.mapValues distinct
  tokenRules := p.toList

/-- That the categories are consistent is found while the descriptor is made. -/
theorem consistent_categories :
    Consistent (foldWord false) (spec .engine).categories.entries := by
  have hmade : (Descriptor.make false wordRegex (spec .engine).categories []).isOk = true := by
    simp only [spec, keywords, constants, builtIns, List.map_cons, List.map_nil, String.reduceToList]
    decide +kernel
  exact Descriptor.exists_make_iff.1 (exists_of_isOk hmade)

theorem make_descriptor (p : Primitives) :
    Descriptor.make false wordRegex (spec p).categories p.toList = .ok (descriptor p) :=
  Descriptor.make_eq_ok_iff.2 ⟨consistent_categories, rfl⟩

theorem build_spec (p : Primitives) : (spec p).build = .ok (descriptor p) := by
  have hread : Regex.read (spec p).tokenPattern (spec p).options = .ok wordRegex :=
    eq_ok_of_toOption read_wordRegex_source
  rw [Descriptor.Spec.build, hread]
  exact make_descriptor p

theorem isToken_of_mem_wordsFrom {chunks : List Text} {word : Text}
    (h : (chunks.all fun chunk => chunk.all fun c =>
      isBlank c || (beginsWord c && continuesWord c)) = true)
    (hword : word ∈ wordsFrom chunks) : IsToken word := by
  simp only [List.all_eq_true, Bool.or_eq_true, Bool.and_eq_true] at h
  obtain ⟨chunk, hchunk, hfound⟩ := mem_wordsFrom_iff.1 hword
  have hchars : ∀ c ∈ word, beginsWord c = true ∧ continuesWord c = true := by
    intro c hc
    rcases h chunk hchunk c (hfound.mem hc) with hyes | hboth
    · rw [hfound.solid c hc] at hyes
      cases hyes
    · exact hboth
  obtain ⟨c, tail, rfl⟩ := List.exists_cons_of_ne_nil hfound.ne_nil
  exact ⟨(hchars c List.mem_cons_self).1, fun d hd => (hchars d hd).2⟩

theorem isToken_of_mem_keywords {word : Text} (h : word ∈ keywords) : IsToken word := by
  rw [keywords] at h
  refine isToken_of_mem_wordsFrom ?_ h
  simp only [List.map_cons, List.map_nil, String.reduceToList]
  decide +kernel

theorem isToken_of_mem_constants {word : Text} (h : word ∈ constants) : IsToken word := by
  rw [constants] at h
  refine isToken_of_mem_wordsFrom ?_ h
  decide +kernel

theorem isToken_of_mem_builtIns {word : Text} (h : word ∈ builtIns) : IsToken word := by
  rw [builtIns] at h
  refine isToken_of_mem_wordsFrom ?_ h
  simp only [List.map_cons, List.map_nil, String.reduceToList]
  decide +kernel

theorem isToken_of_mem_wordsOf {p : Primitives} {category word : Text}
    (h : word ∈ (descriptor p).wordsOf category) : IsToken word := by
  obtain ⟨ws, hws, hmem⟩ := Descriptor.exists_of_mem_wordsOf h
  obtain ⟨vs, hvs, rfl⟩ := Descriptor.mem_mapValues_distinct.1 hws
  rw [mem_distinct] at hmem
  have hentry := OrderedMap.mem_of_mem_ofList hvs
  simp only [List.mem_cons, List.not_mem_nil, or_false, Prod.mk.injEq] at hentry
  rcases hentry with ⟨-, hlist⟩ | ⟨-, hlist⟩ | ⟨-, hlist⟩
  · exact isToken_of_mem_keywords (hlist ▸ hmem)
  · exact isToken_of_mem_constants (hlist ▸ hmem)
  · exact isToken_of_mem_builtIns (hlist ▸ hmem)

/-! ### Words in texts -/

theorem tokensOf_tokenize (p : Primitives) (t : Text) :
    TokensOf beginsWord continuesWord t ((descriptor p).tokenize t) := by
  rw [← covers_beginSet, ← covers_continueSet]
  exact text_allMatches_token_eq_iff.1 rfl

theorem tokenize_eq_of_tokensOf (p : Primitives) {t : Text} {tokens : List Text}
    (h : TokensOf beginsWord continuesWord t tokens) : (descriptor p).tokenize t = tokens := by
  rw [← covers_beginSet, ← covers_continueSet] at h
  exact text_allMatches_token_eq_iff.2 h

theorem tokenize_token (p : Primitives) {word s t : Text} (hword : IsToken word)
    (hs : ∀ c ∈ s.getLast?, beginsWord c = false ∧ continuesWord c = false)
    (ht : ∀ c ∈ t.head?, continuesWord c = false) :
    (descriptor p).tokenize (s ++ word ++ t) =
      (descriptor p).tokenize s ++ word :: (descriptor p).tokenize t := by
  cases word with
  | nil => cases hword.begins
  | cons c tail =>
    have htail : ∀ d ∈ tail, continuesWord d = true :=
      fun d hd => hword.continues d (List.mem_cons_of_mem c hd)
    have hafter := (tokensOf_tokenize p t).cons hword.begins htail ht
    apply tokenize_eq_of_tokensOf
    rw [List.append_assoc]
    exact (tokensOf_tokenize p s).append hs hafter

/-- The descriptor is made whatever the modes are. A word of a category, in whatever case its letters
are written, is found between any two texts of which neither goes on with it, and has that category;
it makes no difference to what is found in the two texts. And what is found in a text are its
tokens. -/
theorem words_in_texts (p : Primitives) : ∃ d, (spec p).build = .ok d ∧
    (∀ category word variant s t, word ∈ d.wordsOf category → SameButCase word variant →
      (∀ c ∈ s.getLast?, beginsWord c = false ∧ continuesWord c = false) →
      (∀ c ∈ t.head?, continuesWord c = false) →
      d.tokenize (s ++ variant ++ t) = d.tokenize s ++ variant :: d.tokenize t ∧
        d.classify variant = some category) ∧
    ∀ t, TokensOf beginsWord continuesWord t (d.tokenize t) := by
  refine ⟨descriptor p, build_spec p, ?_, tokensOf_tokenize p⟩
  intro category word variant s t hmem hsame hs ht
  have hword := isToken_of_mem_wordsOf hmem
  have hascii : ∀ c ∈ word, isAscii c = true :=
    fun c hc => isAscii_of_continuesWord (hword.continues c hc)
  exact ⟨tokenize_token p (hword.of_sameButCase hsame) hs ht,
    Descriptor.classify_of_mem_wordsOf (make_descriptor p) hmem (hsame.toLower_eq hascii)⟩

theorem words_in_texts_mixedCase : ∃ d, (spec .engine).build = .ok d ∧
    "true".toList ∈ d.wordsOf "constant".toList ∧ SameButCase "true".toList "tRUE".toList ∧
    d.tokenize ("$x1 (".toList ++ "tRUE".toList ++ "$y2".toList) =
      ["$x1".toList, "tRUE".toList, "$y2".toList] ∧
    d.classify "tRUE".toList = some "constant".toList := by
  obtain ⟨d, hd, hwords, -⟩ := words_in_texts .engine
  obtain rfl : descriptor .engine = d := Except.ok.inj ((build_spec .engine).symm.trans hd)
  have hmem : "true".toList ∈ (descriptor .engine).wordsOf "constant".toList := by decide +kernel
  have hsame : SameButCase "true".toList "tRUE".toList := by decide +kernel
  have hs : "$x1 (".toList.getLast? = some '(' := by decide +kernel
  have ht : "$y2".toList.head? = some '$' := by decide +kernel
  obtain ⟨htokens, hclass⟩ := hwords _ _ _ "$x1 (".toList "$y2".toList hmem hsame
    (by rw [hs]; rintro c ⟨⟩; decide) (by rw [ht]; rintro c ⟨⟩; decide)
  have hbefore : (descriptor .engine).tokenize "$x1 (".toList = ["$x1".toList] := by decide +kernel
  have hafter : (descriptor .engine).tokenize "$y2".toList = ["$y2".toList] := by decide +kernel
  rw [hbefore, hafter] at htokens
  exact ⟨_, hd, hmem, hsame, htokens, hclass⟩

end Rao
end GrammarKit
