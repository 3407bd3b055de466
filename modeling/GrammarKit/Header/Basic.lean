import GrammarKit.OrderedMap
import GrammarKit.Text.Quoted

/-!
# Headers

The header of a grammar file names its language, describes it and puts it into categories. Each
field holds one text or a list of texts. A header is written as a block comment with one field on each
line. Fields without a value are left out, since a key with nothing behind it would be read as a
longer key.
-/

namespace GrammarKit

inductive FieldValue where
  | text (t : Text)
  | items (ts : List Text)
  deriving DecidableEq, Repr

namespace FieldValue

/-- A value on one line, the items of a list with a comma and a space between them. -/
def line : FieldValue → Text
  | .text t => t
  | .items ts => Text.join ", ".toList ts

/-- A value as a list; a single text is a list of one. -/
def toList : FieldValue → List Text
  | .text t => [t]
  | .items ts => ts

def shown : FieldValue → Text
  | .text t => Text.quoted t
  | .items ts => '[' :: Text.join ", ".toList (ts.map Text.quoted) ++ [']']

end FieldValue

/-- The fields of a header, in order. -/
abbrev Header := OrderedMap Text FieldValue

namespace Header

/-- The fields whose value is one text, whatever it looks like. -/
def isScalar (key : Text) : Bool := key = "Description".toList || key = "Language".toList

def scalar? (h : Header) (key : Text) : Option Text := (h.get? key).map FieldValue.line

/-- The value of a field as a list, which is empty if there is no such field. -/
def items (h : Header) (key : Text) : List Text := ((h.get? key).map FieldValue.toList).getD []

def shown (h : Header) : Text :=
  let fields := h.entries.map fun (key, value) => Text.quoted key ++ ": ".toList ++ value.shown
  "HeaderMetadata(\x7b".toList ++ Text.join ", ".toList fields ++ "\x7d)".toList

def isKept (field : Text × FieldValue) : Bool := !field.2.line.isEmpty

def fieldLine (field : Text × FieldValue) : Text := field.1 ++ ": ".toList ++ field.2.line

def render (h : Header) : Text :=
  Text.join ['\n'] ("/*".toList :: (h.entries.filter isKept).map fieldLine ++ ["*/".toList]) ++ ['\n']

end Header
end GrammarKit
