import GrammarKit.Regex.CharSet

/-!
# Patterns

What can be searched for in a text: single characters, places, sequences, alternatives of which the
first that fits is taken, repetition, groups that remember their text, and conditions on what comes
before or after. A cursor is a place in a text.
-/

namespace GrammarKit.Regex

open Text

/-- A place in a text: what comes before it, last character first, and what comes after. -/
structure Cursor where
  /-- The characters before the place, last one first. -/
  before : Text
  /-- The characters after the place. -/
  after : Text
  /-- The number of characters after the place. -/
  left : Nat
  left_eq : left = after.length

def Cursor.start (t : Text) : Cursor := ⟨[], t, t.length, rfl⟩

/-- The next character and the place behind it. -/
def Cursor.next? : Cursor → Option (Char × Cursor)
  | ⟨_, [], _, _⟩ => none
  | ⟨before, c :: rest, left, h⟩ => some (c, ⟨c :: before, rest, left - 1, by simp [h]⟩)

def Cursor.back? (cur : Cursor) (n : Nat) : Option Cursor :=
  let passed := cur.before.take n
  if passed.length = n then
    some ⟨cur.before.drop n, passed.reverse ++ cur.after, passed.length + cur.left, by
      simp [cur.left_eq]⟩
  else none

def Cursor.upTo (first last : Cursor) : Text := first.after.take (first.left - last.left)

/-- The place behind a given text that stands here, letter case perhaps set aside. -/
def Cursor.past? (anyCase : Bool) : Text → Cursor → Option Cursor
  | [], cur => some cur
  | c :: rest, cur =>
    match cur.next? with
    | some (d, later) =>
      if c = d || (anyCase && lowerOne c = lowerOne d) then later.past? anyCase rest else none
    | none => none

inductive Anchor where
  | textStart
  | lineStart
  /-- The end of the text, or the place before a newline that ends it. -/
  | lastLineEnd
  | lineEnd
  | textEnd
  /-- A place with a word character on one side only. -/
  | wordBoundary
  /-- A place with a word character on both sides or on none, in a text that is not empty. -/
  | insideOrOutside
  deriving DecidableEq, Repr

/-- Whether the characters on the two sides of a place differ in being word characters. -/
def Cursor.partsWord (cur : Cursor) : Bool :=
  cur.before.head?.any isWord != cur.after.head?.any isWord

def Anchor.holds (cur : Cursor) : Anchor → Bool
  | .textStart => cur.before.isEmpty
  | .lineStart => cur.before.isEmpty || cur.before.head? = some '\n'
  | .lastLineEnd => cur.after.isEmpty || cur.after = ['\n']
  | .lineEnd => cur.after.isEmpty || cur.after.head? = some '\n'
  | .textEnd => cur.after.isEmpty
  | .wordBoundary => cur.partsWord
  | .insideOrOutside => !(cur.before.isEmpty && cur.after.isEmpty) && !cur.partsWord

inductive Pattern where
  | empty
  | never
  | one (set : CharSet)
  /-- Takes nothing, at a place of a kind. -/
  | anchor (kind : Anchor)
  /-- One pattern behind another. -/
  | seq (first second : Pattern)
  /-- The first pattern if all that follows then fits, otherwise the second. -/
  | alt (first second : Pattern)
  | group (number : Nat) (body : Pattern)
  /-- Takes again what a group took last. -/
  | again (number : Nat) (anyCase : Bool)
  /-- Takes nothing, where the pattern fits ahead, or where it does not. -/
  | ahead (negated : Bool) (body : Pattern)
  /-- Takes nothing, where the pattern fits `width` characters further back, or does not. -/
  | behind (negated : Bool) (width : Nat) (body : Pattern)
  /-- The first way in which the pattern fits and no other. -/
  | atomic (body : Pattern)
  /-- Takes the pattern at least `least` times and at most `most` times: as often as possible if
  greedy, else as rarely as possible. -/
  | repeated (greedy : Bool) (least : Nat) (most : Option Nat) (body : Pattern)
  deriving DecidableEq, Repr

namespace Pattern

/-- Patterns one behind another. -/
def inOrder : List Pattern → Pattern
  | [] => .empty
  | [p] => p
  | p :: ps => .seq p (inOrder ps)

/-- Alternatives, earlier ones first. -/
def oneOf : List Pattern → Pattern
  | [] => .empty
  | [p] => p
  | p :: ps => .alt p (oneOf ps)

def literal (t : Text) : Pattern := inOrder (t.map fun c => .one (.single c))

/-- As often as possible, perhaps never. -/
def many (p : Pattern) : Pattern := .repeated true 0 none p

/-- As often as possible, at least once. -/
def many1 (p : Pattern) : Pattern := .repeated true 1 none p

/-- Once if possible. -/
def optional (p : Pattern) : Pattern := .repeated true 0 (some 1) p

end Pattern
end GrammarKit.Regex

namespace GrammarKit

/-- A pattern as it was written, what it says, and what is known about its groups. -/
structure Regex where
  source : Text
  pattern : Regex.Pattern
  groups : Nat := 0
  names : List (Text × Nat) := []
  deriving DecidableEq, Repr

end GrammarKit
