import GrammarKit.Abbreviation.Table

/-!
# The standard abbreviations

The names of fields and modes that grammars are built from, with the codes that the engine knows
for them.
-/

namespace GrammarKit.AbbreviationTable

def standardCodes : OrderedMap Text Text := .ofList (List.map (fun (name, code) => (name.toList, code.toList)) [
  ("case_insensitive", "cI"),
  ("lexemes", "l"),
  ("contains", "c"),
  ("keywords", "k"),
  ("subLanguage", "sL"),
  ("className", "cN"),
  ("begin", "b"),
  ("beginKeywords", "bK"),
  ("end", "e"),
  ("endsWithParent", "eW"),
  ("illegal", "i"),
  ("excludeBegin", "eB"),
  ("excludeEnd", "eE"),
  ("returnBegin", "rB"),
  ("returnEnd", "rE"),
  ("relevance", "r"),
  ("variants", "v"),
  ("IDENT_RE", "IR"),
  ("UNDERSCORE_IDENT_RE", "UIR"),
  ("NUMBER_RE", "NR"),
  ("C_NUMBER_RE", "CNR"),
  ("BINARY_NUMBER_RE", "BNR"),
  ("RE_STARTERS_RE", "RSR"),
  ("BACKSLASH_ESCAPE", "BE"),
  ("APOS_STRING_MODE", "ASM"),
  ("QUOTE_STRING_MODE", "QSM"),
  ("PHRASAL_WORDS_MODE", "PWM"),
  ("C_LINE_COMMENT_MODE", "CLCM"),
  ("C_BLOCK_COMMENT_MODE", "CBCM"),
  ("HASH_COMMENT_MODE", "HCM"),
  ("NUMBER_MODE", "NM"),
  ("C_NUMBER_MODE", "CNM"),
  ("BINARY_NUMBER_MODE", "BNM"),
  ("CSS_NUMBER_MODE", "CSSNM"),
  ("REGEXP_MODE", "RM"),
  ("TITLE_MODE", "TM"),
  ("UNDERSCORE_TITLE_MODE", "UTM"),
  ("COMMENT", "C"),
  ("beginRe", "bR"),
  ("endRe", "eR"),
  ("illegalRe", "iR"),
  ("lexemesRe", "lR"),
  ("terminators", "t"),
  ("terminator_end", "tE")])

def standard : AbbreviationTable where
  codes := standardCodes
  owners := defaultOwners
  properties := defaultProperties
  nonempty := by decide +kernel
  disjoint := by decide +kernel
  covered := by decide +kernel

end GrammarKit.AbbreviationTable
