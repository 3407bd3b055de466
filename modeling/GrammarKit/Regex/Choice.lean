import GrammarKit.Regex.Pattern

/-!
# Choices

Several alternatives as one pattern. Parts with which all alternatives start are taken once in front
of them, and alternatives that are single characters make one set. Where the alternatives are fixed
texts, longer ones come first, so that a text is never taken where a longer one stands; in a written
pattern such a text has a backslash before every character that means something there.
-/

namespace GrammarKit.Regex

namespace Pattern

/-- The parts of a pattern that stand one behind another. -/
def parts : Pattern → List Pattern
  | .empty => []
  | .seq p q => p.parts ++ q.parts
  | p => [p]

/-- Whether a part is a character, a place or a reference. -/
def isSimple : Pattern → Bool
  | .one _ | .anchor _ | .again _ _ => true
  | _ => false

/-- The simple parts with which the first alternative and all others start, and what is left of
each. -/
def sharedFront : List Pattern → List (List Pattern) → List Pattern × List (List Pattern)
  | [], others => ([], [] :: others)
  | p :: rest, others =>
    if p.isSimple && others.all (·.head? = some p) then
      let (front, tails) := sharedFront rest (others.map List.tail)
      (p :: front, tails)
    else ([], (p :: rest) :: others)

/-- What the sets list that alternatives consist of, if each is one set that is not negated. -/
def listedItems? : List (List Pattern) → Option (List CharSet.Item)
  | [] => some []
  | [.one set] :: rest => if set.negated then none else (listedItems? rest).map (set.items ++ ·)
  | _ => none

/-- One of several alternatives, earlier ones first. -/
def choice (anyCase : Bool) : List Pattern → Pattern
  | [] => .empty
  | [p] => p
  | p :: others =>
    let (front, tails) := sharedFront p.parts (others.map parts)
    let last := match listedItems? tails with
      | some items => .one { items := items.eraseDups, anyCase }
      | none => oneOf (tails.map inOrder)
    inOrder (front ++ [last])

/-- The pattern exactly once; no part of it is shared with other alternatives. -/
def once (p : Pattern) : Pattern := .repeated true 1 (some 1) p

end Pattern

open Text

/-- The characters that mean something in a pattern, or that a pattern may be laid out with. -/
def isSpecial (c : Char) : Bool :=
  "()[]\x7b\x7d?*+-|^$\\.&~# \t\n\r\x0b\x0c".toList.contains c

/-- A text with a backslash before every special character. -/
def escaped (t : Text) : Text := t.flatMap fun c => if isSpecial c then ['\\', c] else [c]

/-- Longer texts come first, texts of one length by code point. -/
def longerFirst (s t : Text) : Bool :=
  t.length < s.length || (s.length = t.length && before s t)

/-- Texts in the order in which they are tried. -/
def inTryingOrder (ts : List Text) : List Text := sortBy longerFirst ts

def alternationSource (ts : List Text) : Text := join ['|'] ((inTryingOrder ts).map escaped)

def alternation (ts : List Text) : Pattern := .oneOf ((inTryingOrder ts).map Pattern.literal)

end GrammarKit.Regex
