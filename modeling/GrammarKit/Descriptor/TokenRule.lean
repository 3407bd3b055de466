import GrammarKit.Text.Basic

/-!
# Token rules

The engine's modes for comments, strings and numbers, under the names by which the engine knows
them.
-/

namespace GrammarKit

/-- A mode of the engine that takes a stretch of several characters. -/
structure TokenRule where
  name : Text
  /-- What it takes: a comment, a string or a number. -/
  kind : Text
  opening : Text
  /-- The pattern at its end, if it has one of its own. -/
  closing : Option Text := none
  /-- The class that is given to what it takes; empty if that is the kind. -/
  className : Text := []
  deriving DecidableEq, Repr

def TokenRule.shownClass (rule : TokenRule) : Text :=
  if rule.className.isEmpty then rule.kind else rule.className

structure Primitives where
  lineComment : TokenRule
  blockComment : TokenRule
  quoteString : TokenRule
  number : TokenRule
  deriving DecidableEq, Repr

namespace Primitives

def numberPattern : Text :=
  "\\b(0[xX][a-fA-F0-9]+|(\\d+(\\.\\d*)?|\\.\\d+)([eE][-+]?\\d+)?)".toList

def engine : Primitives where
  lineComment := {
    name := "C_LINE_COMMENT_MODE".toList
    kind := "comment".toList
    opening := "//".toList
    closing := some "$".toList
    className := "comment".toList }
  blockComment := {
    name := "C_BLOCK_COMMENT_MODE".toList
    kind := "comment".toList
    opening := "/\\*".toList
    closing := some "\\*/".toList
    className := "comment".toList }
  quoteString := {
    name := "QUOTE_STRING_MODE".toList
    kind := "string".toList
    opening := "\"".toList
    closing := some "\"".toList
    className := "string".toList }
  number := {
    name := "C_NUMBER_MODE".toList
    kind := "number".toList
    opening := numberPattern
    className := "number".toList }

/-- The modes in the order in which they are listed. -/
def toList (p : Primitives) : List TokenRule :=
  [p.lineComment, p.blockComment, p.quoteString, p.number]

end Primitives
end GrammarKit
