import GrammarKit.Proofs.BodyReading

/-!
# Patterns between slashes

A pattern is written between slashes, with a backslash before each slash that has none. A reader takes
the character behind a backslash together with it, from the left. They agree on where the pattern ends
unless a slash stands behind an even number of backslashes: the last of these is taken by the one
before it, and so takes nothing itself.
-/

namespace GrammarKit

open Text Regex

namespace Text

/-- Whether a slash stands directly behind two backslashes, four, or any other even number. -/
def HasSlashBehindPairs (t : Text) : Prop :=
  ∃ front n back, t = front ++ (List.replicate (2 * (n + 1)) '\\' ++ '/' :: back) ∧
    front.getLast? ≠ some '\\'

end Text

/-! ### Tokens as they are written -/

namespace Regex.Token

/-- Tokens with the text they are written as. -/
inductive Spells : List Token → Text → Prop
  | nil : Spells [] []
  | escaped {ts : List Token} {t : Text} (c : Char) :
    Spells ts t → Spells (.escaped c :: ts) ('\\' :: c :: t)
  | plain {ts : List Token} {t : Text} {c : Char} :
    c ≠ '\\' → Spells ts t → Spells (.plain c :: ts) (c :: t)

theorem spells_or_loneBackslash (t : Text) :
    (∃ ts, ofText? t = some ts ∧ Spells ts t) ∨ ofText? t = none ∧ t.getLast? = some '\\' := by
  fun_induction ofText? t with
  | case1 => exact Or.inl ⟨[], rfl, .nil⟩
  | case2 => exact Or.inr ⟨rfl, rfl⟩
  | case3 c rest ih =>
    rcases ih with ⟨ts, hts, hspells⟩ | ⟨hnone, hlast⟩
    · exact Or.inl ⟨.escaped c :: ts, by rw [hts, Option.map_some], .escaped c hspells⟩
    · refine Or.inr ⟨by rw [hnone, Option.map_none], ?_⟩
      rw [List.getLast?_cons_cons, List.getLast?_cons, hlast, Option.getD_some]
  | case4 c rest hlone hpair ih =>
    have hc : c ≠ '\\' := by
      rintro rfl
      cases rest with
      | nil => exact hlone rfl rfl
      | cons d rest => exact hpair d rest rfl rfl
    rcases ih with ⟨ts, hts, hspells⟩ | ⟨hnone, hlast⟩
    · exact Or.inl ⟨.plain c :: ts, by rw [hts, Option.map_some], .plain hc hspells⟩
    · refine Or.inr ⟨by rw [hnone, Option.map_none], ?_⟩
      rw [List.getLast?_cons, hlast, Option.getD_some]

theorem spells_of_ofText {t : Text} {ts : List Token} (h : ofText? t = some ts) : Spells ts t := by
  rcases spells_or_loneBackslash t with ⟨us, hus, hspells⟩ | ⟨hnone, -⟩
  · rw [h, Option.some.injEq] at hus
    rwa [hus]
  · rw [h] at hnone
    cases hnone

theorem exists_spells {t : Text} (hlast : t.getLast? ≠ some '\\') : ∃ ts, Spells ts t := by
  rcases spells_or_loneBackslash t with ⟨ts, -, hspells⟩ | ⟨-, hbad⟩
  · exact ⟨ts, hspells⟩
  · exact absurd hbad hlast

theorem Spells.ofText_append {ts : List Token} {s : Text} (h : Spells ts s) (t : Text) :
    ofText? (s ++ t) = (ofText? t).map (ts ++ ·) := by
  induction h with
  | nil => simp
  | escaped c _ ih =>
    rw [List.cons_append, List.cons_append, ofText?, ih, Option.map_map]
    rfl
  | @plain ts s c hc _ ih =>
    have hstep : ofText? (c :: (s ++ t)) = (ofText? (s ++ t)).map (.plain c :: ·) := by
      rw [ofText?]
      · rintro rfl -
        exact hc rfl
      · rintro d rest rfl -
        exact hc rfl
    rw [List.cons_append, hstep, ih, Option.map_map]
    rfl

theorem spells_backslashes (n : Nat) :
    Spells (List.replicate n (.escaped '\\')) (List.replicate (2 * n) '\\') := by
  induction n with
  | zero => exact .nil
  | succ n ih => exact .escaped '\\' ih

/-! ### Slashes behind backslashes -/

/-- What can be wrong with tokens that follow a character: a backslash stands before a slash but
belongs to another backslash. -/
def Misread (earlier : Option Char) (ts : List Token) : Prop :=
  (earlier = some '\\' ∧ ts.head? = some (.plain '/')) ∨ [.escaped '\\', .plain '/'] <:+: ts

instance (earlier : Option Char) (ts : List Token) : Decidable (Misread earlier ts) :=
  inferInstanceAs (Decidable (_ ∨ _))

theorem misread_nil (earlier : Option Char) : ¬ Misread earlier [] := by
  simp [Misread]

theorem misread_escaped (earlier : Option Char) (c : Char) (ts : List Token) :
    Misread earlier (.escaped c :: ts) ↔ Misread (some c) ts := by
  have hpair : [.escaped '\\', .plain '/'] <+: Token.escaped c :: ts ↔
      some c = some '\\' ∧ ts.head? = some (.plain '/') := by
    cases ts with
    | nil => simp
    | cons t ts => simp [List.cons_prefix_cons, eq_comm]
  rw [Misread, List.infix_cons_iff, hpair, Misread, List.head?_cons]
  simp

theorem misread_plain (earlier : Option Char) {c : Char} (hc : c ≠ '\\') (ts : List Token) :
    Misread earlier (.plain c :: ts) ↔ (earlier = some '\\' ∧ c = '/') ∨ Misread (some c) ts := by
  have hpair : ¬ [.escaped '\\', .plain '/'] <+: Token.plain c :: ts := by
    simp [List.cons_prefix_cons]
  rw [Misread, List.infix_cons_iff, or_iff_right hpair, Misread, List.head?_cons]
  simp [hc]

theorem hasSlashBehindPairs_of_isInfix {ts : List Token} {t : Text} (h : Spells ts t)
    (hpair : [.escaped '\\', .plain '/'] <:+: ts) : HasSlashBehindPairs t := by
  induction h with
  | nil => simp at hpair
  | @escaped ts t c hspells ih =>
    rcases List.infix_cons_iff.1 hpair with hhere | hlater
    · obtain ⟨rest, hts⟩ := hhere
      obtain ⟨hc, hrest⟩ := List.cons.inj hts
      rw [← Token.escaped.inj hc]
      rw [← hrest] at hspells
      obtain - | - | @⟨-, back, -, -, -⟩ := hspells
      exact ⟨[], 0, back, rfl, by simp⟩
    · obtain ⟨front, n, back, rfl, hlast⟩ := ih hlater
      cases hfront : front.getLast? with
      | some d =>
        refine ⟨'\\' :: c :: front, n, back, rfl, ?_⟩
        rw [List.getLast?_cons_cons, List.getLast?_cons, hfront, Option.getD_some, ← hfront]
        exact hlast
      | none =>
        rw [List.getLast?_eq_none_iff.1 hfront]
        by_cases hc : c = '\\'
        · rw [hc]
          exact ⟨[], n + 1, back, rfl, by simp⟩
        · exact ⟨['\\', c], n, back, rfl, by simpa using hc⟩
  | @plain ts t c hc _ ih =>
    rcases List.infix_cons_iff.1 hpair with hhere | hlater
    · simp [List.cons_prefix_cons] at hhere
    · obtain ⟨front, n, back, rfl, hlast⟩ := ih hlater
      refine ⟨c :: front, n, back, rfl, ?_⟩
      cases hfront : front.getLast? with
      | some d =>
        rw [List.getLast?_cons, hfront, Option.getD_some, ← hfront]
        exact hlast
      | none =>
        rw [List.getLast?_eq_none_iff.1 hfront]
        simpa using hc

theorem infix_of_hasSlashBehindPairs {ts : List Token} {t : Text} (hts : ofText? t = some ts)
    (h : HasSlashBehindPairs t) : [.escaped '\\', .plain '/'] <:+: ts := by
  obtain ⟨front, n, back, rfl, hlast⟩ := h
  obtain ⟨fs, hfs⟩ := exists_spells hlast
  rw [hfs.ofText_append, (spells_backslashes (n + 1)).ofText_append, ofText?] at hts
  · obtain ⟨us, hus, rfl⟩ := Option.map_eq_some_iff.1 hts
    obtain ⟨vs, hvs, rfl⟩ := Option.map_eq_some_iff.1 hus
    obtain ⟨bs, -, rfl⟩ := Option.map_eq_some_iff.1 hvs
    refine ⟨fs ++ List.replicate n (.escaped '\\'), bs, ?_⟩
    rw [List.replicate_succ']
    simp
  all_goals simp

/-- A slash stands behind an even number of backslashes exactly if it is read by itself, right
behind a backslash that is taken by another one. -/
theorem misread_iff {ts : List Token} {t : Text} (h : ofText? t = some ts) :
    Misread none ts ↔ HasSlashBehindPairs t := by
  have hinside : Misread none ts ↔ [.escaped '\\', .plain '/'] <:+: ts := by simp [Misread]
  rw [hinside]
  exact ⟨hasSlashBehindPairs_of_isInfix (spells_of_ofText h), infix_of_hasSlashBehindPairs h⟩

end Regex.Token

namespace Descriptor

open Regex.Token

/-! ### Reading a literal -/

/-- What stands before the first slash that no backslash takes, and what stands behind it. -/
def literalBody? : Text → Option (Text × Text)
  | [] => none
  | '\\' :: c :: rest => (literalBody? rest).map fun (body, after) => ('\\' :: c :: body, after)
  | c :: rest =>
    if c = '/' then some ([], rest)
    else (literalBody? rest).map fun (body, after) => (c :: body, after)

/-- The inside of a literal between slashes, and what stands behind it. -/
def literal? : Text → Option (Text × Text)
  | '/' :: rest => literalBody? rest
  | _ => none

/-- A text with a plain slash in the place of each slash that a backslash takes. -/
def plainSlashes : Text → Text
  | [] => []
  | '\\' :: c :: rest =>
    if c = '/' then '/' :: plainSlashes rest else '\\' :: c :: plainSlashes rest
  | c :: rest => c :: plainSlashes rest

theorem literalBody_escaped (c : Char) (t : Text) : literalBody? ('\\' :: c :: t) =
    (literalBody? t).map fun parts => ('\\' :: c :: parts.1, parts.2) := by rw [literalBody?]

theorem literalBody_plain {c : Char} (hc : c ≠ '\\') (t : Text) : literalBody? (c :: t) =
    if c = '/' then some ([], t)
    else (literalBody? t).map fun parts => (c :: parts.1, parts.2) := by
  rw [literalBody?]
  rintro d rest rfl -
  exact hc rfl

theorem plainSlashes_plain {c : Char} (hc : c ≠ '\\') (t : Text) :
    plainSlashes (c :: t) = c :: plainSlashes t := by
  rw [plainSlashes]
  rintro d rest rfl -
  exact hc rfl

/-! ### Writing a literal -/

theorem escapeSlashes_escaped (earlier : Option Char) (c : Char) (t : Text) :
    escapeSlashes earlier ('\\' :: c :: t) = '\\' :: c :: escapeSlashes (some c) t := by
  simp [escapeSlashes]

theorem escapeSlashes_slash {earlier : Option Char} (h : earlier ≠ some '\\') (t : Text) :
    escapeSlashes earlier ('/' :: t) = '\\' :: '/' :: escapeSlashes (some '/') t := by
  simp [escapeSlashes, h]

theorem escapeSlashes_other (earlier : Option Char) {c : Char} (hc : c ≠ '/') (t : Text) :
    escapeSlashes earlier (c :: t) = c :: escapeSlashes (some c) t := by
  simp [escapeSlashes, hc]

theorem literalBody_escapeSlashes {ts : List Token} {t : Text} (h : Spells ts t)
    {earlier : Option Char} (hread : ¬ Misread earlier ts) (after : Text) :
    literalBody? (escapeSlashes earlier t ++ '/' :: after) =
      some (escapeSlashes earlier t, after) := by
  induction h generalizing earlier with
  | nil => rfl
  | @escaped ts t c _ ih =>
    rw [misread_escaped] at hread
    rw [escapeSlashes_escaped, List.cons_append, List.cons_append, literalBody_escaped, ih hread,
      Option.map_some]
  | @plain ts t c hc _ ih =>
    rw [misread_plain _ hc, not_or] at hread
    obtain ⟨hhere, hlater⟩ := hread
    by_cases hslash : c = '/'
    · subst hslash
      have hearlier : earlier ≠ some '\\' := fun h => hhere ⟨h, rfl⟩
      rw [escapeSlashes_slash hearlier, List.cons_append, List.cons_append, literalBody_escaped,
        ih hlater, Option.map_some]
    · rw [escapeSlashes_other _ hslash, List.cons_append, literalBody_plain hc, if_neg hslash,
        ih hlater, Option.map_some]

theorem plainSlashes_escapeSlashes {ts : List Token} {t : Text} (h : Spells ts t)
    {earlier : Option Char} (hread : ¬ Misread earlier ts) :
    plainSlashes (escapeSlashes earlier t) = plainSlashes t := by
  induction h generalizing earlier with
  | nil => rfl
  | @escaped ts t c _ ih =>
    rw [misread_escaped] at hread
    rw [escapeSlashes_escaped, plainSlashes, plainSlashes, ih hread]
  | @plain ts t c hc _ ih =>
    rw [misread_plain _ hc, not_or] at hread
    obtain ⟨hhere, hlater⟩ := hread
    by_cases hslash : c = '/'
    · subst hslash
      have hearlier : earlier ≠ some '\\' := fun h => hhere ⟨h, rfl⟩
      rw [escapeSlashes_slash hearlier, plainSlashes, if_pos rfl, plainSlashes_plain hc, ih hlater]
    · rw [escapeSlashes_other _ hslash, plainSlashes_plain hc, plainSlashes_plain hc, ih hlater]

/-- A slash whose backslash belongs to another one closes the literal too early. -/
theorem literalBody_of_misread {ts : List Token} {t : Text} (h : Spells ts t)
    {earlier : Option Char} (hread : Misread earlier ts) (after : Text) :
    ∃ body later, literalBody? (escapeSlashes earlier t ++ '/' :: after) =
      some (body, later ++ '/' :: after) := by
  induction h generalizing earlier with
  | nil => exact absurd hread (misread_nil earlier)
  | @escaped ts t c _ ih =>
    obtain ⟨body, later, hbody⟩ := ih ((misread_escaped earlier c ts).1 hread)
    refine ⟨'\\' :: c :: body, later, ?_⟩
    rw [escapeSlashes_escaped, List.cons_append, List.cons_append, literalBody_escaped, hbody,
      Option.map_some]
  | @plain ts t c hc _ ih =>
    by_cases hhere : earlier = some '\\' ∧ c = '/'
    · obtain ⟨rfl, rfl⟩ := hhere
      refine ⟨[], escapeSlashes (some '/') t, ?_⟩
      have hkept : escapeSlashes (some '\\') ('/' :: t) = '/' :: escapeSlashes (some '/') t := by
        simp [escapeSlashes]
      rw [hkept, List.cons_append, literalBody_plain hc, if_pos rfl]
    · obtain ⟨body, later, hbody⟩ := ih (((misread_plain earlier hc ts).1 hread).resolve_left hhere)
      by_cases hslash : c = '/'
      · subst hslash
        have hearlier : earlier ≠ some '\\' := fun h => hhere ⟨h, rfl⟩
        refine ⟨'\\' :: '/' :: body, later, ?_⟩
        rw [escapeSlashes_slash hearlier, List.cons_append, List.cons_append, literalBody_escaped,
          hbody, Option.map_some]
      · refine ⟨c :: body, later, ?_⟩
        rw [escapeSlashes_other _ hslash, List.cons_append, literalBody_plain hc, if_neg hslash,
          hbody, Option.map_some]

theorem literal_regexLiteral_append (pattern after : Text) :
    literal? (regexLiteral pattern ++ after) =
      literalBody? (escapeSlashes none pattern ++ '/' :: after) := by
  have hshape : regexLiteral pattern ++ after =
      '/' :: (escapeSlashes none pattern ++ '/' :: after) := by
    rw [regexLiteral, List.append_assoc]
    rfl
  rw [hshape, literal?]

/-- A written pattern ends where it is read to end exactly if no slash in it stands behind an even
number of backslashes; what is read then is the pattern but for the slashes that a backslash takes. -/
theorem literal_regexLiteral_iff {pattern : Text} {ts : List Token}
    (hts : Token.ofText? pattern = some ts) (after : Text) :
    (∃ body, literal? (regexLiteral pattern ++ after) = some (body, after) ∧
      plainSlashes body = plainSlashes pattern) ↔ ¬ HasSlashBehindPairs pattern := by
  have hspells := spells_of_ofText hts
  rw [← misread_iff hts, literal_regexLiteral_append]
  constructor
  · rintro ⟨body, hbody, -⟩ hbad
    obtain ⟨early, later, hearly⟩ := literalBody_of_misread hspells hbad after
    rw [hbody] at hearly
    have hlength := congrArg List.length (Prod.mk.inj (Option.some.inj hearly)).2
    rw [List.length_append, List.length_cons] at hlength
    omega
  · intro hgood
    exact ⟨_, literalBody_escapeSlashes hspells hgood after,
      plainSlashes_escapeSlashes hspells hgood⟩

/-- What was read as a pattern is made of tokens and kept as it was written. -/
theorem exists_tokens_of_read {source : Text} {options : Regex.Options} {regex : Regex}
    (h : Regex.read source options = .ok regex) :
    regex.source = source ∧ ∃ ts, Token.ofText? source = some ts := by
  unfold Regex.read at h
  cases hts : Token.ofText? source with
  | none =>
    rw [hts] at h
    cases h
  | some ts =>
    rw [hts] at h
    cases hrun : (alternatives (4 * ts.length + 8) true).run { tokens := ts, options } with
    | error e =>
      simp only [hrun] at h
      cases h
    | ok parts =>
      simp only [hrun, bind, Except.bind] at h
      split at h
      · exact ⟨by rw [← Except.ok.inj h], ts, rfl⟩
      · cases h

/-! ### The pattern of a grammar -/

/-- What a grammar says before its pattern. -/
def upToPattern (d : Descriptor) (table : Option AbbreviationTable) : Text :=
  "function(hljs) \x7b\n  return \x7b\n".toList ++
    ((if d.caseSensitive then []
      else "    ".toList ++ (fieldName table "case_insensitive".toList ++ ": true,\n".toList)) ++
      ("    ".toList ++ (fieldName table "lexemes".toList ++ ": ".toList)))

theorem commaLines_append_cons (ls : List Text) (l : Text) (later : List Text) :
    commaLines (ls ++ l :: later) = ls.flatMap (· ++ ",\n".toList) ++
      (l ++ later.flatMap fun next => ',' :: '\n' :: next) := by
  induction ls with
  | nil => exact commaLines_cons l later
  | cons first ls ih =>
    obtain ⟨next, rest, hrest⟩ := List.exists_cons_of_ne_nil (List.append_ne_nil_of_right_ne_nil ls
      (List.cons_ne_nil l later))
    rw [List.cons_append, hrest, commaLines_cons_cons, ← hrest, ih, List.flatMap_cons,
      List.append_assoc, List.append_assoc]
    rfl

theorem exists_bodyFields_eq (d : Descriptor) (table : Option AbbreviationTable) :
    ∃ later, d.bodyFields table =
      (if d.caseSensitive then []
        else [fieldName table "case_insensitive".toList ++ ": true".toList]) ++
      (fieldName table "lexemes".toList ++ ": ".toList ++ regexLiteral d.tokenRegex.source) ::
        later := by
  rw [bodyFields_eq, List.append_assoc, List.append_assoc, List.singleton_append]
  exact ⟨_, rfl⟩

theorem exists_renderBody_eq (d : Descriptor) (table : Option AbbreviationTable) :
    ∃ behind, d.renderBody table =
      d.upToPattern table ++ (regexLiteral d.tokenRegex.source ++ behind) := by
  obtain ⟨later, hlater⟩ := exists_bodyFields_eq d table
  have htrue : ": true,\n".toList = ": true".toList ++ ",\n".toList := rfl
  refine ⟨(later.map fun field => "    ".toList ++ field).flatMap (fun next => ',' :: '\n' :: next) ++
    "\n  \x7d;\n\x7d\n".toList, ?_⟩
  unfold renderBody upToPattern
  simp only [hlater, htrue, List.map_append, List.map_cons, commaLines_append_cons]
  cases d.caseSensitive with
  | true => simp only [if_true, List.map_nil, List.flatMap_nil, List.append_assoc, List.nil_append]
  | false =>
    simp only [Bool.false_eq_true, if_false, List.map_cons, List.map_nil, List.flatMap_cons,
      List.flatMap_nil, List.append_assoc, List.nil_append]

/-- Read as a literal between slashes, what stands behind the name of the pattern field ends with the
slash that was written behind the pattern, and says what the pattern says, if and only if no slash of
the pattern stands behind an even number of backslashes. The pattern only has to be made of tokens, as
each one that can be read as a pattern is: no backslash is left over at its end. -/
theorem literal_renderBody_iff {d : Descriptor} {ts : List Token}
    (htokens : Token.ofText? d.tokenRegex.source = some ts) (table : Option AbbreviationTable) :
    ∃ behind, d.renderBody table =
        d.upToPattern table ++ (regexLiteral d.tokenRegex.source ++ behind) ∧
      ((∃ body, literal? (regexLiteral d.tokenRegex.source ++ behind) = some (body, behind) ∧
          plainSlashes body = plainSlashes d.tokenRegex.source) ↔
        ¬ HasSlashBehindPairs d.tokenRegex.source) := by
  obtain ⟨behind, hbody⟩ := exists_renderBody_eq d table
  exact ⟨behind, hbody, literal_regexLiteral_iff htokens behind⟩

/-- A language with nothing but a pattern. -/
def bareSpec (pattern : Text) : Spec where
  caseSensitive := true
  tokenPattern := pattern
  categories := .empty

theorem exists_build_bareSpec (pattern : Text) (h : (Regex.read pattern).isOk = true) :
    ∃ d, (bareSpec pattern).build = .ok d ∧ d.tokenRegex.source = pattern ∧
      ∃ regex, Regex.read d.tokenRegex.source = .ok regex := by
  cases hread : Regex.read pattern with
  | error e =>
    rw [hread] at h
    cases h
  | ok regex =>
    have hsource := (exists_tokens_of_read hread).1
    have hbuild : (bareSpec pattern).build = .ok ⟨true, regex, .empty, []⟩ := by
      have hpattern : Regex.read (bareSpec pattern).tokenPattern (bareSpec pattern).options =
          .ok regex := hread
      rw [Spec.build, hpattern]
      rfl
    refine ⟨_, hbuild, hsource, regex, ?_⟩
    rw [hsource]
    exact hread

/-- A pattern with slashes behind no backslash, one and three, and with a pair of them at its end. -/
def slashedPattern : Text := "a/b\\/c\\\\\\/\\\\".toList

theorem literal_renderBody_slashedPattern :
    ∃ d regex ts, (bareSpec slashedPattern).build = .ok d ∧ d.tokenRegex.source = slashedPattern ∧
      Regex.read d.tokenRegex.source = .ok regex ∧ Token.ofText? d.tokenRegex.source = some ts ∧
      ∃ behind body, d.renderBody none =
          d.upToPattern none ++ (regexLiteral d.tokenRegex.source ++ behind) ∧
        literal? (regexLiteral d.tokenRegex.source ++ behind) = some (body, behind) ∧
        plainSlashes body = "a/b/c\\\\/\\\\".toList := by
  have htokens : Token.ofText? slashedPattern = some [.plain 'a', .plain '/', .plain 'b',
      .escaped '/', .plain 'c', .escaped '\\', .escaped '/', .escaped '\\'] := by decide
  have hgood : ¬ HasSlashBehindPairs slashedPattern := by
    rw [← misread_iff htokens]
    decide
  have hplain : plainSlashes slashedPattern = "a/b/c\\\\/\\\\".toList := by decide +kernel
  obtain ⟨d, hbuild, hsource, regex, hread⟩ :=
    exists_build_bareSpec slashedPattern (by decide +kernel)
  obtain ⟨behind, hrender, hiff⟩ := literal_renderBody_iff (hsource ▸ htokens) none
  rw [hsource] at hiff
  obtain ⟨body, hbody, hsame⟩ := hiff.2 hgood
  refine ⟨d, regex, _, hbuild, hsource, hread, hsource ▸ htokens, behind, body, hrender, ?_,
    hsame.trans hplain⟩
  rw [hsource]
  exact hbody

/-- A pattern with two backslashes before a slash. It is written as it is, and read up to this
slash. -/
theorem not_literal_renderBody_doubled :
    ∃ d regex behind, (bareSpec "a\\\\/b".toList).build = .ok d ∧
      d.tokenRegex.source = "a\\\\/b".toList ∧ Regex.read d.tokenRegex.source = .ok regex ∧
      (∀ c ∈ "a\\\\/b".toList, isLineBreak c = false) ∧
      d.renderBody none = d.upToPattern none ++ (regexLiteral d.tokenRegex.source ++ behind) ∧
      literal? (regexLiteral d.tokenRegex.source ++ behind) =
        some ("a\\\\".toList, "b/".toList ++ behind) ∧
      ¬ ∃ body, literal? (regexLiteral d.tokenRegex.source ++ behind) = some (body, behind) := by
  obtain ⟨d, hbuild, hsource, regex, hread⟩ :=
    exists_build_bareSpec "a\\\\/b".toList (by decide +kernel)
  obtain ⟨behind, hrender⟩ := exists_renderBody_eq d none
  have hliteral : literal? (regexLiteral "a\\\\/b".toList ++ behind) =
      some ("a\\\\".toList, "b/".toList ++ behind) := by
    rw [literal_regexLiteral_append]
    rfl
  have hbreaks : ∀ c ∈ "a\\\\/b".toList, isLineBreak c = false := by
    have hall : ("a\\\\/b".toList.all fun c => !isLineBreak c) = true := by decide +kernel
    simpa using hall
  refine ⟨d, regex, behind, hbuild, hsource, hread, hbreaks, hrender, ?_, ?_⟩
  · rw [hsource]
    exact hliteral
  · rintro ⟨body, hbody⟩
    rw [hsource, hliteral] at hbody
    have hlength := congrArg List.length (Prod.mk.inj (Option.some.inj hbody)).2
    rw [List.length_append] at hlength
    exact absurd hlength (by simp)

end Descriptor

end GrammarKit
