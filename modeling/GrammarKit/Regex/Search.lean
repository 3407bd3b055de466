import GrammarKit.Regex.Matching

/-!
# Searching and replacing

The first match of a pattern in a text, all its matches from left to right, and the text with every
match replaced. Matches do not overlap. A match that takes nothing may follow directly behind one
that takes something, but never stands at the place of an earlier one that takes nothing.
-/

namespace GrammarKit.Regex

structure Match where
  start : Cursor
  /-- The place behind it. -/
  stop : Cursor
  /-- What the groups took, latest first. -/
  groups : List (Nat × Text)

namespace Match

def text (m : Match) : Text := m.start.upTo m.stop

def isEmpty (m : Match) : Bool := m.start.left = m.stop.left

/-- What a group took, if it took part; group 0 is the whole match. -/
def group? (m : Match) (number : Nat) : Option Text :=
  if number = 0 then some m.text else m.groups.lookup number

end Match

namespace Pattern

/-- The match at a place, if there is one; perhaps one that takes nothing does not count. -/
def matchAt (p : Pattern) (nonEmpty : Bool) (cur : Cursor) : Option Match :=
  p.run ⟨cur, []⟩ fun s =>
    if nonEmpty && s.cursor.left = cur.left then none else some ⟨cur, s.cursor, s.groups⟩

/-- The match at the place or at one of the `n` places behind it, whichever comes first. The
demand to take something concerns the first place only. -/
def firstWithin (p : Pattern) : Nat → Bool → Cursor → Option Match
  | 0, nonEmpty, cur => p.matchAt nonEmpty cur
  | n + 1, nonEmpty, cur =>
    match p.matchAt nonEmpty cur with
    | some m => some m
    | none =>
      match cur.next? with
      | some (_, later) => p.firstWithin n false later
      | none => none

def matchesFrom (p : Pattern) : Nat → Bool → Cursor → List Match
  | 0, _, _ => []
  | n + 1, nonEmpty, cur =>
    match p.firstWithin cur.left nonEmpty cur with
    | some m => m :: p.matchesFrom n m.isEmpty m.stop
    | none => []

/-- All matches in a text. Behind each there are fewer characters left, or as many and only a match
that takes some is still to be found there: this bounds their number. -/
def allMatches (p : Pattern) (t : Text) : List Match :=
  p.matchesFrom (2 * t.length + 2) false (Cursor.start t)

def stitch {ε : Type} (replacement : Match → Except ε Text) : Cursor → List Match → Except ε Text
  | cur, [] => .ok cur.after
  | cur, m :: later => do
    let new ← replacement m
    let rest ← stitch replacement m.stop later
    return cur.upTo m.start ++ new ++ rest

def replaceAll {ε : Type} (p : Pattern) (replacement : Match → Except ε Text) (t : Text) :
    Except ε Text :=
  stitch replacement (Cursor.start t) (p.allMatches t)

end Pattern
end GrammarKit.Regex
