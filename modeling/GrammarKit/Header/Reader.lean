import GrammarKit.Header.Basic
import GrammarKit.Text.Blank
import GrammarKit.Text.LineBreak

/-!
# Reading headers

A header is the block comment with which a file begins, white space before it set aside. Each line
of it that is not blank gives a field: the key up to the first colon with a space behind it, and
the value after that.
-/

namespace GrammarKit.Header

open Text

/-- What stands in the comment at the start of a text, and what comes behind it. -/
def leadingComment? (t : Text) : Option (Text × Text) :=
  match "/*".toList.isPrefixOf? (trimStart t) with
  | some inside => splitFirst "*/".toList inside
  | none => none

/-- The key and the value on a line that has been trimmed. -/
def splitLine (line : Text) : Text × Text :=
  match splitFirst ": ".toList line with
  | some (key, value) => (key, trim value)
  | none => (line, [])

/-- The value of a field as its key wants it: one text, or the items between commas. -/
def fieldValue (key value : Text) : FieldValue :=
  if isScalar key then .text value else .items ((splitOn ',' value).map trim)

/-- The field on a line, unless the line is blank. -/
def fieldOf? (line : Text) : Option (Text × FieldValue) :=
  match trim line with
  | [] => none
  | trimmed =>
    let (key, value) := splitLine trimmed
    some (key, fieldValue key value)

/-- The header of a text, if the text begins with a block comment. -/
def read? (t : Text) : Option Header :=
  (leadingComment? t).map fun (inside, _) => OrderedMap.ofList ((lines inside).filterMap fieldOf?)

end GrammarKit.Header
