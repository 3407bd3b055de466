import GrammarKit.Descriptor.Basic

/-!
# The language rao

A language for simulation models: resources, events and operations. Letter case does not count.
-/

namespace GrammarKit.Rao

def keywords : List Text := wordsFrom (List.map String.toList [
  "type relevantSet operation keyboard rule relevant event any",
  "dpt set activity checks search",
  "sequence enumerative legacy uniform exponential normal triangular histogram constant",
  "function algorithmic table list result",
  "frame background if else for text rectangle line circle ellipse triangle Color",
  "enum int double boolean",
  "String array break return resource or",
  "and mod not exist notExist forAll except empty size left center right Alignment",
  "BLACK BLUE CYAN DARK_BLUE DARK_CYAN DARK_GRAY DARK_GREEN DARK_MAGENTA DARK_RED",
  "DARK_YELLOW GRAY GREEN MAGENTA RED WHITE YELLOW"])

def constants : List Text := wordsFrom ["true false".toList]

/-- The names that are always there. -/
def builtIns : List Text := wordsFrom (List.map String.toList [
  "select first withMin withMax setValueBefore setValueAfter",
  "setParent setCondition setPriority setTerminateCondition evaluateBy",
  "compareTops terminateCondition init watchParameter watchState watchQuantity",
  "watchValue getValue duration begin end execute stop plan",
  "create erase currentTime"])

/-- The descriptor, with the given modes for comments, strings and numbers. -/
def spec (p : Primitives) : Descriptor.Spec where
  caseSensitive := false
  tokenPattern := "[a-zA-Z_$][a-zA-Z0-9_]*".toList
  categories := .ofList [
    ("keyword".toList, keywords),
    ("constant".toList, constants),
    ("built_in".toList, builtIns)]
  tokenRules := p.toList

end GrammarKit.Rao
