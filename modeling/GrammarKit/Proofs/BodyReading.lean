import GrammarKit.Proofs.Pieces
import GrammarKit.Proofs.WordLists

/-!
# What a grammar says of its descriptor

A grammar is read part by part, and each part ends where the next one can begin. For names, words and
lists this is so by their characters. The pattern may hold anything, texts that look like the fields
behind it as well: but the slash that closes it is the last one that stands at the end of a line, a
comma set aside, since the lines of the other fields end in something else. So two descriptors with the
same grammar agree in everything that is written.
-/

namespace GrammarKit

open Text

namespace Text

/-! ### Lines that end in no slash -/

/-- No line of the text has a slash at its end, or a slash and a comma. -/
def NoLineEndsInSlash (t : Text) : Prop :=
  ∀ line ∈ splitOn '\n' t, ¬ ['/'] <:+ line ∧ ¬ ['/', ','] <:+ line

/-- One line that ends neither in a slash nor in a comma. -/
def Firm (line : Text) : Prop := '\n' ∉ line ∧ ∀ c ∈ line.getLast?, c ≠ '/' ∧ c ≠ ','

/-- The end of a line, perhaps with a comma, and lines of which none ends in a slash. -/
def Follows (t : Text) : Prop :=
  ∃ comma rest, (comma = [] ∨ comma = [',']) ∧ t = comma ++ '\n' :: rest ∧ NoLineEndsInSlash rest

theorem noLineEndsInSlash_newline (s t : Text) :
    NoLineEndsInSlash (s ++ '\n' :: t) ↔ NoLineEndsInSlash s ∧ NoLineEndsInSlash t := by
  unfold NoLineEndsInSlash splitOn
  rw [splitWhen_append_cons (decide_eq_true rfl), List.forall_mem_append]

theorem firm_nil : Firm [] := ⟨List.not_mem_nil, fun _ hc => by cases hc⟩

theorem firm_of_getLast {line : Text} {last : Char} (hline : '\n' ∉ line)
    (hlast : line.getLast? = some last) (hslash : last ≠ '/') (hcomma : last ≠ ',') :
    Firm line := by
  refine ⟨hline, fun c hc => ?_⟩
  obtain rfl : last = c := Option.some.inj (hlast.symm.trans hc)
  exact ⟨hslash, hcomma⟩

theorem getLast?_of_suffix (front : Text) {c : Char} {t : Text} (h : front ++ [c] <:+ t) :
    t.getLast? = some c := by
  obtain ⟨rest, rfl⟩ := h
  rw [← List.append_assoc, List.getLast?_concat]

theorem Firm.noLineEndsInSlash {line comma : Text} (h : Firm line)
    (hcomma : comma = [] ∨ comma = [',']) : NoLineEndsInSlash (line ++ comma) := by
  have hone : splitOn '\n' (line ++ comma) = [line ++ comma] := by
    apply splitWhen_of_forall
    intro c hc
    apply decide_eq_false
    rintro rfl
    rcases List.mem_append.1 hc with hc | hc
    · exact h.1 hc
    · rcases hcomma with rfl | rfl
      · cases hc
      · revert hc
        decide
  rw [NoLineEndsInSlash, hone, List.forall_mem_singleton]
  rcases hcomma with rfl | rfl
  · rw [List.append_nil]
    refine ⟨fun hsuffix => ?_, fun hsuffix => ?_⟩
    · exact (h.2 '/' (getLast?_of_suffix [] hsuffix)).1 rfl
    · exact (h.2 ',' (getLast?_of_suffix ['/'] hsuffix)).2 rfl
  · refine ⟨fun hsuffix => ?_, fun hsuffix => ?_⟩
    · have hlast := getLast?_of_suffix [] hsuffix
      rw [List.getLast?_concat] at hlast
      cases hlast
    · obtain ⟨rest, hrest⟩ := hsuffix
      have hline : rest ++ ['/'] = line := by
        have hsame : rest ++ ['/'] ++ [','] = line ++ [','] := by
          rw [← hrest, List.append_assoc]
          rfl
        exact List.append_cancel_right hsame
      rw [← hline] at h
      exact (h.2 '/' List.getLast?_concat).1 rfl

theorem exists_line_of_append {w : Text} (hw : '\n' ∉ w) (t rest : Text) :
    ∃ line ∈ splitOn '\n' (t ++ w ++ '\n' :: rest), w <:+ line := by
  have hplain : ∀ c ∈ w, decide (c = '\n') = false :=
    fun c hc => decide_eq_false fun he => hw (he ▸ hc)
  obtain ⟨front, last, -, hpieces⟩ := splitWhen_append_of_forall hplain t
  refine ⟨last ++ w, ?_, List.suffix_append last w⟩
  rw [splitOn, splitWhen_append_cons (decide_eq_true rfl), hpieces]
  simp

/-- The last slash at the end of a line closes the pattern, whatever stands in the pattern. -/
theorem slash_append_inj {s t u v : Text} (ht : Follows t) (hv : Follows v)
    (h : s ++ '/' :: t = u ++ '/' :: v) : s = u ∧ t = v := by
  have hnone : ∀ {t v : Text}, Follows t → Follows v → ∀ front, v ≠ front ++ '/' :: t := by
    rintro t v ⟨comma, rest, hcomma, rfl, -⟩ ⟨mark, back, hmark, hv, hback⟩ front he
    have hline : ∃ line ∈ splitOn '\n' v, '/' :: comma <:+ line := by
      have hnewline : '\n' ∉ '/' :: comma := by
        rcases hcomma with rfl | rfl <;> decide
      have hfound := exists_line_of_append hnewline front rest
      rw [List.append_assoc, List.cons_append, ← he] at hfound
      exact hfound
    have hwhole : NoLineEndsInSlash v := by
      rw [hv, noLineEndsInSlash_newline]
      exact ⟨firm_nil.noLineEndsInSlash hmark, hback⟩
    obtain ⟨line, hmem, hsuffix⟩ := hline
    rcases hcomma with rfl | rfl
    · exact (hwhole line hmem).1 hsuffix
    · exact (hwhole line hmem).2 hsuffix
  rcases List.append_eq_append_iff.1 h with ⟨more, rfl, hmore⟩ | ⟨more, rfl, hmore⟩
  · cases more with
    | nil => exact ⟨(List.append_nil s).symm, (List.cons.inj hmore).2⟩
    | cons c more =>
      exact absurd (List.cons.inj hmore).2 (hnone hv ht more)
  · cases more with
    | nil => exact ⟨List.append_nil u, (List.cons.inj hmore).2.symm⟩
    | cons c more =>
      exact absurd (List.cons.inj hmore).2 (hnone ht hv more)

end Text

namespace Json

theorem newline_not_mem_unitEscape {n : Nat} (h : n < 0x10000) : '\n' ∉ unitEscape n := by
  have hdigit : ∀ m : Nat, m < 16 → '\n' ≠ m.digitChar := by decide
  have hlow : ∀ m : Nat, '\n' ≠ (m % 16).digitChar := fun m => hdigit _ (Nat.mod_lt m (by decide))
  have hfirst := hdigit (n / 16 / 16 / 16) (by omega)
  have hslash : '\n' ≠ '\\' ∧ '\n' ≠ 'u' := by decide
  rw [unitEscape, hexDigits_four h]
  simp [hlow, hfirst, hslash]

theorem newline_not_mem_quotedChar (asciiOnly : Bool) (c : Char) :
    '\n' ∉ quotedChar asciiOnly c := by
  unfold quotedChar
  split_ifs with hmark hnewline
  · simp only [Bool.or_eq_true, decide_eq_true_eq] at hmark
    rcases hmark with rfl | rfl <;> decide
  · decide
  · decide
  · decide
  · decide
  · decide
  · obtain ⟨-, -, hbound⟩ := toNat_not_surrogate c
    unfold codePointEscape
    split
    · next hsmall => exact newline_not_mem_unitEscape hsmall
    · rw [List.mem_append]
      exact not_or.2 ⟨newline_not_mem_unitEscape (by omega), newline_not_mem_unitEscape (by omega)⟩
  · rw [List.mem_singleton]
    exact fun he => hnewline he.symm

theorem newline_not_mem_quoted (asciiOnly : Bool) (t : Text) : '\n' ∉ quoted asciiOnly t := by
  have hinside : '\n' ∉ t.flatMap (quotedChar asciiOnly) := by
    intro h
    obtain ⟨c, -, hc⟩ := List.mem_flatMap.1 h
    exact newline_not_mem_quotedChar asciiOnly c hc
  simp [quoted, hinside]

end Json

namespace Descriptor

/-! ### Lists of lines -/

/-- Lines between the opening and the closing of a field, which is left out if there are none. -/
def listPart (front closing : Text) (ls : List Text) : Text :=
  if ls.isEmpty then [] else front ++ '\n' :: (commaLines ls ++ '\n' :: closing)

theorem noLineEndsInSlash_commaLines {ls : List Text} (h : ∀ l ∈ ls, Firm l) :
    NoLineEndsInSlash (commaLines ls) := by
  induction ls with
  | nil => exact firm_nil.noLineEndsInSlash (Or.inl rfl)
  | cons l ls ih =>
    have hl := h l List.mem_cons_self
    have hlater := ih fun other hother => h other (List.mem_cons_of_mem _ hother)
    cases ls with
    | nil =>
      rw [commaLines_singleton, ← List.append_nil l]
      exact hl.noLineEndsInSlash (Or.inl rfl)
    | cons next rest =>
      have hsplit : commaLines (l :: next :: rest) =
          (l ++ [',']) ++ '\n' :: commaLines (next :: rest) := by
        rw [commaLines_cons_cons, List.append_assoc]
        rfl
      rw [hsplit, noLineEndsInSlash_newline]
      exact ⟨hl.noLineEndsInSlash (Or.inr rfl), hlater⟩

theorem follows_listPart (header : Text) {closing t : Text} {ls : List Text} (hheader : Firm header)
    (hclosing : Firm closing) (hls : ∀ l ∈ ls, Firm l) (ht : Follows t) :
    Follows (listPart (',' :: '\n' :: header) closing ls ++ t) := by
  cases ls with
  | nil => exact ht
  | cons l ls =>
    obtain ⟨comma, rest, hcomma, rfl, hrest⟩ := ht
    refine ⟨[','], header ++ '\n' :: (commaLines (l :: ls) ++
      '\n' :: (closing ++ comma ++ '\n' :: rest)), Or.inr rfl, ?_, ?_⟩
    · simp [listPart]
    · rw [noLineEndsInSlash_newline, noLineEndsInSlash_newline, noLineEndsInSlash_newline]
      have hfirst := hheader.noLineEndsInSlash (Or.inl rfl)
      rw [List.append_nil] at hfirst
      exact ⟨hfirst, noLineEndsInSlash_commaLines hls, hclosing.noLineEndsInSlash hcomma, hrest⟩

section

variable {α : Type} {line : α → Text}

theorem commaLines_singleton_append (l s : Text) :
    commaLines [l] ++ '\n' :: s = l ++ '\n' :: s := by rw [commaLines_singleton]

theorem commaLines_cons_cons_append (l next : Text) (ls : List Text) (s : Text) :
    commaLines (l :: next :: ls) ++ '\n' :: s =
      l ++ ',' :: '\n' :: (commaLines (next :: ls) ++ '\n' :: s) := by
  rw [commaLines_cons_cons, List.append_assoc, List.cons_append, List.cons_append]

/-- Lines of a kind that are told from what follows them are told from it as a list, too. -/
theorem commaLines_append_inj {as bs : List α}
    (hline : ∀ a ∈ as, ∀ b ∈ bs, ∀ (c d : Char) (s t : Text), isWord c = false → isWord d = false →
      line a ++ c :: s = line b ++ d :: t → a = b ∧ c = d ∧ s = t)
    (has : as ≠ []) (hbs : bs ≠ []) {s t : Text}
    (h : commaLines (as.map line) ++ '\n' :: s = commaLines (bs.map line) ++ '\n' :: t) :
    as = bs ∧ s = t := by
  have hne : '\n' ≠ ',' := by decide
  induction as generalizing bs with
  | nil => exact absurd rfl has
  | cons a as ih =>
    cases bs with
    | nil => exact absurd rfl hbs
    | cons b bs =>
      have hfirst := hline a List.mem_cons_self b List.mem_cons_self
      simp only [List.map_cons] at h
      cases as with
      | nil =>
        rw [List.map_nil, commaLines_singleton_append] at h
        cases bs with
        | nil =>
          rw [List.map_nil, commaLines_singleton_append] at h
          obtain ⟨rfl, -, hback⟩ := hfirst _ _ _ _ isWord_newline isWord_newline h
          exact ⟨rfl, hback⟩
        | cons b' bs =>
          rw [List.map_cons, commaLines_cons_cons_append] at h
          exact absurd (hfirst _ _ _ _ isWord_newline isWord_comma h).2.1 hne
      | cons a' as =>
        rw [List.map_cons, commaLines_cons_cons_append] at h
        cases bs with
        | nil =>
          rw [List.map_nil, commaLines_singleton_append] at h
          exact absurd (hfirst _ _ _ _ isWord_comma isWord_newline h).2.1.symm hne
        | cons b' bs =>
          rw [List.map_cons, commaLines_cons_cons_append] at h
          obtain ⟨rfl, -, hback⟩ := hfirst _ _ _ _ isWord_comma isWord_comma h
          obtain ⟨hsame, hrest⟩ := ih
            (fun x hx y hy => hline x (List.mem_cons_of_mem _ hx) y (List.mem_cons_of_mem _ hy))
            (List.cons_ne_nil a' as) (List.cons_ne_nil b' bs) (List.cons.inj hback).2
          exact ⟨by rw [hsame], hrest⟩

/-- Two fields with lists of lines of a kind, what follows them not being such a field. -/
theorem listPart_append_inj {front closing : Text} {as bs : List α}
    (hline : ∀ a ∈ as, ∀ b ∈ bs, ∀ (c d : Char) (s t : Text), isWord c = false → isWord d = false →
      line a ++ c :: s = line b ++ d :: t → a = b ∧ c = d ∧ s = t)
    {s t : Text} (hs : ¬ front <+: s) (ht : ¬ front <+: t)
    (h : listPart front closing (as.map line) ++ s = listPart front closing (bs.map line) ++ t) :
    as = bs ∧ s = t := by
  have hopen : ∀ (x : α) (xs : List α), listPart front closing ((x :: xs).map line) =
      front ++ '\n' :: (commaLines ((x :: xs).map line) ++ '\n' :: closing) := fun _ _ => rfl
  cases as with
  | nil =>
    cases bs with
    | nil => exact ⟨rfl, h⟩
    | cons b bs =>
      rw [hopen, List.append_assoc] at h
      exact absurd ⟨_, h.symm⟩ hs
  | cons a as =>
    cases bs with
    | nil =>
      rw [hopen, List.append_assoc] at h
      exact absurd ⟨_, h⟩ ht
    | cons b bs =>
      rw [hopen, hopen, List.append_assoc, List.append_assoc, List.cons_append, List.cons_append,
        List.append_assoc, List.append_assoc] at h
      have hlines := (List.cons.inj (List.append_cancel_left h)).2
      obtain ⟨hsame, hrest⟩ := commaLines_append_inj hline (List.cons_ne_nil a as)
        (List.cons_ne_nil b bs) hlines
      exact ⟨hsame, List.append_cancel_left hrest⟩

end

/-! ### The parts of a grammar -/

/-- What stands behind the pattern for words. -/
def behindPattern (d : Descriptor) : Text :=
  listPart ",\n    keywords: \x7b".toList "    \x7d".toList (d.sortedCategories.map categoryLine) ++
    (listPart ",\n    contains: [".toList "    ]".toList (d.tokenRules.map (modeLine none)) ++
      "\n  \x7d;\n\x7d\n".toList)

/-- What stands before the pattern for words. -/
def beforePattern (d : Descriptor) : Text :=
  "function(hljs) \x7b\n  return \x7b\n".toList ++
    ((if d.caseSensitive then [] else "    case_insensitive: true,\n".toList) ++
      "    lexemes: ".toList)

theorem commaLines_cons (l : Text) (ls : List Text) :
    commaLines (l :: ls) = l ++ ls.flatMap fun next => ',' :: '\n' :: next := by
  induction ls generalizing l with
  | nil => rw [commaLines_singleton, List.flatMap_nil, List.append_nil]
  | cons next ls ih => rw [commaLines_cons_cons, ih, List.flatMap_cons, List.cons_append,
      List.cons_append]

theorem flatMap_linesField (name opening closing : Text) (ls : List Text) :
    ((linesField none name opening closing ls).map fun field => "   ".toList ++ ' ' :: field).flatMap
        (fun next => ',' :: '\n' :: next) =
      listPart (",\n    ".toList ++ name ++ ':' :: opening) closing ls := by
  cases ls with
  | nil => rfl
  | cons l ls => simp [linesField, listPart, fieldName]

theorem renderBody_none_eq (d : Descriptor) : d.renderBody none =
    d.beforePattern ++ (regexLiteral d.tokenRegex.source ++ d.behindPattern) := by
  have hkeywords : ",\n    ".toList ++ "keywords".toList ++ ':' :: " \x7b".toList =
      ",\n    keywords: \x7b".toList := rfl
  have hcontains : ",\n    ".toList ++ "contains".toList ++ ':' :: " [".toList =
      ",\n    contains: [".toList := rfl
  have hopen : "function(hljs) \x7b\n  return \x7b\n".toList =
      "function(hljs) \x7b\n  return \x7b".toList ++ ['\n'] := rfl
  have hcase : "    case_insensitive: true,\n".toList = "   ".toList ++
      ' ' :: ("case_insensitive".toList ++ (": true".toList ++ [',', '\n'])) := rfl
  have hlexemes : "    lexemes: ".toList =
      "   ".toList ++ ' ' :: ("lexemes".toList ++ ": ".toList) := rfl
  have hclose : "\n  \x7d;\n\x7d\n".toList = '\n' :: "  \x7d;\n\x7d\n".toList := rfl
  have hk := flatMap_linesField "keywords".toList " \x7b".toList "    \x7d".toList
    (d.sortedCategories.map categoryLine)
  have hc := flatMap_linesField "contains".toList " [".toList "    ]".toList
    (d.tokenRules.map (modeLine none))
  rw [hkeywords] at hk
  rw [hcontains] at hc
  rw [renderBody_eq, bodyFields_eq]
  unfold beforePattern behindPattern
  simp only [hopen, hlexemes, hclose]
  cases d.caseSensitive with
  | true =>
    simp only [if_true, List.cons_append, List.nil_append, List.map_cons, List.map_append,
      commaLines_cons, List.flatMap_append]
    rw [hk, hc]
    simp only [fieldName, List.append_assoc, List.cons_append, List.nil_append]
  | false =>
    simp only [Bool.false_eq_true, if_false, List.cons_append, List.nil_append, List.map_cons,
      List.map_append, commaLines_cons, List.flatMap_cons, List.flatMap_append]
    rw [hk, hc, hcase]
    simp only [fieldName, List.append_assoc, List.cons_append, List.nil_append]

/-! ### Reading the parts -/

/-- Categories and modes are named by words, and there is no white space inside a word of a
category. -/
structure Legible (d : Descriptor) : Prop where
  categories : ∀ name ∈ d.categories.keys, ∀ c ∈ name, isWord c = true
  words : ∀ ws ∈ d.categories.values, ∀ word ∈ ws, ∀ c ∈ word, isBlank c = false
  modes : ∀ rule ∈ d.tokenRules, ∀ c ∈ rule.name, isWord c = true

/-- A category as it can be read back from its line. -/
def LegibleCategory (category : Text × List Text) : Prop :=
  (∀ c ∈ category.1, isWord c = true) ∧
    ∀ word ∈ category.2, word ≠ [] ∧ ∀ c ∈ word, isBlank c = false

theorem Legible.category {d : Descriptor} (h : d.Legible) (haccepted : d.Accepted)
    {category : Text × List Text} (hcategory : category ∈ d.sortedCategories) :
    LegibleCategory category := by
  have hentry := mem_sortedCategories.1 hcategory
  refine ⟨h.categories _ (List.mem_map_of_mem hentry), fun word hword => ?_⟩
  exact ⟨(haccepted.words hentry).2 word hword, h.words _ (List.mem_map_of_mem hentry) word hword⟩

theorem Legible.modeName {d : Descriptor} (h : d.Legible) {name : Text}
    (hname : name ∈ d.tokenRules.map (·.name)) : ∀ c ∈ name, isWord c = true := by
  obtain ⟨rule, hrule, rfl⟩ := List.mem_map.1 hname
  exact h.modes rule hrule

theorem categoryLine_append_cons_inj {a b : Text × List Text} (ha : LegibleCategory a)
    (hb : LegibleCategory b) {c d : Char} {s t : Text}
    (h : categoryLine a ++ c :: s = categoryLine b ++ d :: t) : a = b ∧ c = d ∧ s = t := by
  have hshape : ∀ (category : Text × List Text) (r : Text), categoryLine category ++ r =
      "      ".toList ++ (category.1 ++ ':' :: ' ' :: (wordList category.2 ++ r)) := by
    intro category r
    unfold categoryLine
    rw [List.append_assoc, List.append_assoc, List.append_assoc]
    rfl
  rw [hshape, hshape] at h
  obtain ⟨hname, -, hbehind⟩ :=
    word_append_cons_inj ha.1 hb.1 isWord_colon isWord_colon (List.append_cancel_left h)
  have hread := congrArg Json.readString (List.cons.inj hbehind).2
  rw [readString_wordList, readString_wordList] at hread
  obtain ⟨hjoin, hrest⟩ := Prod.mk.inj (Option.some.inj hread)
  have hwords : a.2 = b.2 := by
    rw [← cutAt_join (by decide : isBlank ' ' = true) ha.2, hjoin, cutAt_join (by decide) hb.2]
  exact ⟨Prod.ext hname hwords, (List.cons.inj hrest).1, (List.cons.inj hrest).2⟩

theorem firm_categoryLine {category : Text × List Text}
    (hname : ∀ c ∈ category.1, isWord c = true) : Firm (categoryLine category) := by
  have hlast : (categoryLine category).getLast? = some '"' := by
    have hshape : categoryLine category = ("      ".toList ++ category.1 ++ ": ".toList ++
        '"' :: (join [' '] category.2).flatMap (Json.quotedChar true)) ++ ['"'] := by
      rw [List.append_assoc]
      rfl
    rw [hshape, List.getLast?_concat]
  have hnewline : '\n' ∉ category.1 := by
    intro hmem
    have hword := hname _ hmem
    rw [isWord_newline] at hword
    cases hword
  refine firm_of_getLast ?_ hlast (by decide) (by decide)
  unfold categoryLine
  simp only [List.mem_append, not_or]
  exact ⟨⟨⟨by decide, hnewline⟩, by decide⟩, Json.newline_not_mem_quoted true _⟩

theorem firm_modeLine {rule : TokenRule} (hname : ∀ c ∈ rule.name, isWord c = true) :
    Firm (modeLine none rule) := by
  have hmarks : ∀ c : Char, isWord c = false → c ∉ "      hljs.".toList →
      c ∉ modeLine none rule := by
    intro c hmark hfront hmem
    rcases List.mem_append.1 hmem with hmem | hmem
    · exact hfront hmem
    · have hword : isWord c = true := hname c hmem
      rw [hmark] at hword
      cases hword
  refine ⟨hmarks '\n' (by decide) (by decide), fun c hc => ⟨?_, ?_⟩⟩
  · rintro rfl
    exact hmarks '/' (by decide) (by decide) (List.mem_of_getLast? hc)
  · rintro rfl
    exact hmarks ',' (by decide) (by decide) (List.mem_of_getLast? hc)

theorem follows_behindPattern {d : Descriptor} (h : d.Legible) (haccepted : d.Accepted) :
    Follows d.behindPattern := by
  have hend : Follows "\n  \x7d;\n\x7d\n".toList :=
    ⟨[], "  \x7d;\n\x7d\n".toList, Or.inl rfl, rfl, by unfold NoLineEndsInSlash; decide⟩
  have hmodes : ∀ l ∈ d.tokenRules.map (modeLine none), Firm l :=
    List.forall_mem_map.2 fun rule hrule => firm_modeLine (h.modes rule hrule)
  have hcategories : ∀ l ∈ d.sortedCategories.map categoryLine, Firm l :=
    List.forall_mem_map.2 fun category hmem => firm_categoryLine (h.category haccepted hmem).1
  have hbracket : Firm "    contains: [".toList :=
    firm_of_getLast (by decide) (by decide : _ = some '[') (by decide) (by decide)
  have hbracketEnd : Firm "    ]".toList :=
    firm_of_getLast (by decide) (by decide : _ = some ']') (by decide) (by decide)
  have hbrace : Firm "    keywords: \x7b".toList :=
    firm_of_getLast (by decide) (by decide : _ = some '\x7b') (by decide) (by decide)
  have hbraceEnd : Firm "    \x7d".toList :=
    firm_of_getLast (by decide) (by decide : _ = some '\x7d') (by decide) (by decide)
  have hcontains : Follows (listPart ",\n    contains: [".toList "    ]".toList
      (d.tokenRules.map (modeLine none)) ++ "\n  \x7d;\n\x7d\n".toList) :=
    follows_listPart _ hbracket hbracketEnd hmodes hend
  exact follows_listPart _ hbrace hbraceEnd hcategories hcontains

theorem map_modeLine (rules : List TokenRule) : rules.map (modeLine none) =
    (rules.map (·.name)).map fun name => "      hljs.".toList ++ name := by
  rw [List.map_map]
  rfl

theorem modeLine_append_cons_inj {name other : Text} (hname : ∀ c ∈ name, isWord c = true)
    (hother : ∀ c ∈ other, isWord c = true) {c d : Char} {s t : Text} (hc : isWord c = false)
    (hd : isWord d = false)
    (h : "      hljs.".toList ++ name ++ c :: s = "      hljs.".toList ++ other ++ d :: t) :
    name = other ∧ c = d ∧ s = t := by
  rw [List.append_assoc, List.append_assoc] at h
  exact word_append_cons_inj hname hother hc hd (List.append_cancel_left h)

theorem not_keywords_before_contains (ls : List Text) :
    ¬ ",\n    keywords: \x7b".toList <+:
      listPart ",\n    contains: [".toList "    ]".toList ls ++ "\n  \x7d;\n\x7d\n".toList := by
  intro hkeywords
  cases ls with
  | nil =>
    revert hkeywords
    decide
  | cons l ls =>
    have hcontains : ",\n    contains: [".toList <+:
        listPart ",\n    contains: [".toList "    ]".toList (l :: ls) ++
          "\n  \x7d;\n\x7d\n".toList := by
      rw [listPart, List.isEmpty_cons, if_neg Bool.false_ne_true, List.append_assoc]
      exact List.prefix_append _ _
    have hsame := List.prefix_of_prefix_length_le hkeywords hcontains (by decide)
    revert hsame
    decide

theorem behindPattern_inj {d d' : Descriptor} (haccepted : d.Accepted) (haccepted' : d'.Accepted)
    (h : d.Legible) (h' : d'.Legible) (heq : d.behindPattern = d'.behindPattern) :
    d.sortedCategories = d'.sortedCategories ∧
      d.tokenRules.map (·.name) = d'.tokenRules.map (·.name) := by
  obtain ⟨hcategories, hrest⟩ := listPart_append_inj
    (fun a ha b hb _ _ _ _ _ _ hline =>
      categoryLine_append_cons_inj (h.category haccepted ha) (h'.category haccepted' hb) hline)
    (not_keywords_before_contains _) (not_keywords_before_contains _) heq
  rw [map_modeLine, map_modeLine] at hrest
  have hend : ¬ ",\n    contains: [".toList <+: "\n  \x7d;\n\x7d\n".toList := by decide
  obtain ⟨hnames, -⟩ := listPart_append_inj
    (fun _ ha _ hb _ _ _ _ hc hd hline =>
      modeLine_append_cons_inj (h.modeName ha) (h'.modeName hb) hc hd hline)
    hend hend hrest
  exact ⟨hcategories, hnames⟩

theorem beforePattern_append_inj {d d' : Descriptor} {s t : Text}
    (h : d.beforePattern ++ s = d'.beforePattern ++ t) :
    d.caseSensitive = d'.caseSensitive ∧ s = t := by
  have hne : ∀ u v : Text,
      "    case_insensitive: true,\n".toList ++ u ≠ "    lexemes: ".toList ++ v := by
    intro u v he
    have hsame := List.prefix_of_prefix_length_le (List.prefix_append "    lexemes: ".toList v)
      (he ▸ List.prefix_append "    case_insensitive: true,\n".toList u) (by decide)
    revert hsame
    decide
  unfold beforePattern at h
  rw [List.append_assoc, List.append_assoc, List.append_assoc, List.append_assoc] at h
  have hfields := List.append_cancel_left h
  cases hcase : d.caseSensitive with
  | true =>
    cases hcase' : d'.caseSensitive with
    | true =>
      rw [hcase, hcase'] at hfields
      exact ⟨rfl, List.append_cancel_left hfields⟩
    | false =>
      rw [hcase, hcase'] at hfields
      exact absurd hfields.symm (hne _ _)
  | false =>
    cases hcase' : d'.caseSensitive with
    | true =>
      rw [hcase, hcase'] at hfields
      exact absurd hfields (hne _ _)
    | false =>
      rw [hcase, hcase'] at hfields
      exact ⟨rfl, List.append_cancel_left (List.append_cancel_left hfields)⟩

theorem regexLiteral_append_inj {pattern other s t : Text} (hs : Follows s) (ht : Follows t)
    (h : regexLiteral pattern ++ s = regexLiteral other ++ t) :
    regexLiteral pattern = regexLiteral other ∧ s = t := by
  have hshape : ∀ p r : Text, regexLiteral p ++ r = '/' :: (escapeSlashes none p ++ '/' :: r) := by
    intro p r
    rw [regexLiteral, List.append_assoc]
    rfl
  rw [hshape, hshape] at h
  obtain ⟨hpattern, hrest⟩ := slash_append_inj hs ht (List.cons.inj h).2
  exact ⟨by rw [regexLiteral, regexLiteral, hpattern], hrest⟩

/-! ### Categories in the order of their names -/

theorem map_insertBy (entry : Text × List Text) (es : List (Text × List Text)) :
    (insertBy (fun a b => before a.1 b.1) entry es).map (·.1) =
      insertBy before entry.1 (es.map (·.1)) := by
  induction es with
  | nil => rfl
  | cons e es ih =>
    rw [List.map_cons, insertBy, insertBy]
    split
    · rw [List.map_cons, ih]
    · rfl

theorem pairwise_sortedCategories (d : Descriptor) :
    d.sortedCategories.Pairwise fun a b => a.1 < b.1 := by
  have hkeys : d.sortedCategories.map (·.1) = sorted d.categories.keys := by
    unfold sortedCategories OrderedMap.keys
    induction d.categories.entries with
    | nil => rfl
    | cons e es ih =>
      have hstep : sorted ((e :: es).map (·.1)) = insertBy before e.1 (sorted (es.map (·.1))) := rfl
      rw [hstep, ← ih, ← map_insertBy]
      rfl
  have hsorted := pairwise_lt_sorted d.categories.nodup
  rw [← OrderedMap.keys, ← hkeys] at hsorted
  exact List.pairwise_map.1 hsorted

theorem sortedCategories_eq_iff (d d' : Descriptor) :
    d.sortedCategories = d'.sortedCategories ↔
      ∀ name, d.categories.get? name = d'.categories.get? name := by
  have hmem : ∀ (d : Descriptor) (name : Text) (ws : List Text),
      d.categories.get? name = some ws ↔ (name, ws) ∈ d.sortedCategories := by
    intro d name ws
    rw [OrderedMap.get?_eq_some_iff, mem_sortedCategories]
  constructor
  · intro h name
    apply Option.ext
    intro ws
    rw [hmem, hmem, h]
  · intro h
    have hsame : ∀ category, category ∈ d.sortedCategories ↔ category ∈ d'.sortedCategories := by
      rintro ⟨name, ws⟩
      rw [← hmem, ← hmem, h]
    have hnodup : ∀ d : Descriptor, d.sortedCategories.Nodup := by
      intro d
      refine (pairwise_sortedCategories d).imp ?_
      rintro a b hlt rfl
      exact lt_irrefl _ hlt
    have hperm := (List.perm_ext_iff_of_nodup (hnodup d) (hnodup d')).2 hsame
    exact hperm.eq_of_pairwise (fun a b _ _ hab hba => absurd hba (lt_asymm hab))
      (pairwise_sortedCategories d) (pairwise_sortedCategories d')

/-- Two grammars with names that are words, and with words without white space, are the same text
exactly if letter case counts in both or in neither, they have the same words in the same categories
and the same modes in the same order, and their patterns are written in the same way. -/
theorem renderBody_eq_iff {d d' : Descriptor} (haccepted : d.Accepted) (haccepted' : d'.Accepted)
    (h : d.Legible) (h' : d'.Legible) :
    d.renderBody none = d'.renderBody none ↔
      d.caseSensitive = d'.caseSensitive ∧
      (∀ name, d.categories.get? name = d'.categories.get? name) ∧
      d.tokenRules.map (·.name) = d'.tokenRules.map (·.name) ∧
      regexLiteral d.tokenRegex.source = regexLiteral d'.tokenRegex.source := by
  rw [renderBody_none_eq, renderBody_none_eq, ← sortedCategories_eq_iff]
  constructor
  · intro heq
    obtain ⟨hcase, hbehind⟩ := beforePattern_append_inj heq
    obtain ⟨hpattern, hfields⟩ := regexLiteral_append_inj (follows_behindPattern h haccepted)
      (follows_behindPattern h' haccepted') hbehind
    obtain ⟨hcategories, hmodes⟩ := behindPattern_inj haccepted haccepted' h h' hfields
    exact ⟨hcase, hcategories, hmodes, hpattern⟩
  · rintro ⟨hcase, hcategories, hmodes, hpattern⟩
    have hlines : d.tokenRules.map (modeLine none) = d'.tokenRules.map (modeLine none) := by
      rw [map_modeLine, map_modeLine, hmodes]
    unfold beforePattern behindPattern
    rw [hcase, hcategories, hlines, hpattern]

/-- A grammar whose pattern can be chosen. -/
def patternGrammar (pattern : Text) : Descriptor where
  caseSensitive := true
  tokenRegex := { source := pattern, pattern := .literal pattern }
  categories := .ofList [("b".toList, ["\"/,".toList, "y".toList]), ("a".toList, [])]
  tokenRules := [Primitives.engine.number]

/-- A pattern with text in it that looks like the field behind it, with and without a backslash that
is written anyway. -/
theorem renderBody_eq_patternGrammar :
    (∀ pattern, (patternGrammar pattern).Accepted ∧ (patternGrammar pattern).Legible) ∧
      (patternGrammar "a/,\n    contains: [\n".toList).renderBody none =
        (patternGrammar "a\\/,\n    contains: [\n".toList).renderBody none ∧
      (patternGrammar "a/,\n    contains: [\n".toList).renderBody none ≠
        (patternGrammar "a".toList).renderBody none := by
  have haccepted : ∀ pattern, (patternGrammar pattern).Accepted := by
    intro pattern
    have hconsistent : Consistent (foldWord true) (OrderedMap.ofList [("b".toList,
        ["\"/,".toList, "y".toList]), ("a".toList, [])]).entries := by
      constructor <;> decide +kernel
    refine ⟨true, (patternGrammar pattern).tokenRegex, _, [Primitives.engine.number],
      make_eq_ok_iff.2 ⟨hconsistent, ?_⟩⟩
    rfl
  have hlegible : ∀ pattern, (patternGrammar pattern).Legible := by
    have hnames : ∀ name ∈ ["b".toList, "a".toList], name.all isWord = true := by decide +kernel
    have hwords : ∀ ws ∈ [["\"/,".toList, "y".toList], []], ∀ word ∈ ws,
        word.all (isBlank · == false) = true := by decide +kernel
    have hmodes : ∀ rule ∈ [Primitives.engine.number], rule.name.all isWord = true := by
      decide +kernel
    intro pattern
    refine ⟨fun name hname => List.all_eq_true.1 (hnames name hname), fun ws hws word hword c hc => ?_,
      fun rule hrule => List.all_eq_true.1 (hmodes rule hrule)⟩
    exact eq_of_beq (List.all_eq_true.1 (hwords ws hws word hword) c hc)
  have hiff := fun pattern other => renderBody_eq_iff (haccepted pattern) (haccepted other)
    (hlegible pattern) (hlegible other)
  have hsame : regexLiteral "a/,\n    contains: [\n".toList =
      regexLiteral "a\\/,\n    contains: [\n".toList := by decide +kernel
  have hother : regexLiteral "a/,\n    contains: [\n".toList ≠ regexLiteral "a".toList := by
    decide +kernel
  have hrest : ∀ pattern other,
      (patternGrammar pattern).caseSensitive = (patternGrammar other).caseSensitive ∧
      (∀ name, (patternGrammar pattern).categories.get? name =
        (patternGrammar other).categories.get? name) ∧
      (patternGrammar pattern).tokenRules.map (·.name) =
        (patternGrammar other).tokenRules.map (·.name) :=
    fun _ _ => ⟨rfl, fun _ => rfl, rfl⟩
  refine ⟨fun pattern => ⟨haccepted pattern, hlegible pattern⟩, (hiff _ _).2 ?_, fun h => ?_⟩
  · obtain ⟨hcase, hcategories, hmodes⟩ := hrest "a/,\n    contains: [\n".toList
      "a\\/,\n    contains: [\n".toList
    exact ⟨hcase, hcategories, hmodes, hsame⟩
  · exact hother ((hiff _ _).1 h).2.2.2

end Descriptor
end GrammarKit
