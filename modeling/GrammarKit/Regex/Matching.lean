import GrammarKit.Regex.Pattern

/-!
# Matching

Whether a pattern fits at a place, and how far it then reaches. Matching is by recursion on the
pattern; what has to fit behind it is passed along, so that the first choice after which everything
fits is the one that is taken.
-/

namespace GrammarKit.Regex

/-- How far a match has come, and what its groups took, latest first. -/
structure State where
  cursor : Cursor
  groups : List (Nat × Text)

/-- A way to match: from a state, and with what has to fit behind. -/
abbrev Matcher (α : Type) := State → (State → Option α) → Option α

def Matcher.exactly {α : Type} (body : Matcher α) : Nat → Matcher α
  | 0, s, next => next s
  | n + 1, s, next => body s fun t => body.exactly n t next

/-- Takes the body at most `n` times. A round that starts where the round before it started is not
entered, so that a body that takes nothing is tried once. -/
def Matcher.atMost {α : Type} (body : Matcher α) (greedy : Bool) :
    Nat → Option Nat → Matcher α
  | 0, _, s, next => next s
  | n + 1, last, s, next =>
    let more := fun (_ : Unit) =>
      if last = some s.cursor.left then none
      else body s fun t => body.atMost greedy n (some s.cursor.left) t next
    if greedy then
      match more () with
      | some result => some result
      | none => next s
    else
      match next s with
      | some result => some result
      | none => more ()

/-- The number of rounds after the first `least` that can make a difference: from the second on,
each starts behind the one before it. -/
def rounds (least : Nat) (most : Option Nat) (left : Nat) : Nat :=
  match most with
  | some most => min (most - least) (left + 1)
  | none => left + 1

def Pattern.run : Pattern → {α : Type} → Matcher α
  | .empty, _, s, next => next s
  | .never, _, _, _ => none
  | .one set, _, s, next =>
    match s.cursor.next? with
    | some (c, later) => if set.covers c then next { s with cursor := later } else none
    | none => none
  | .anchor kind, _, s, next => if kind.holds s.cursor then next s else none
  | .seq first second, _, s, next => first.run s fun t => second.run t next
  | .alt first second, _, s, next =>
    match first.run s next with
    | some result => some result
    | none => second.run s next
  | .group number body, _, s, next =>
    body.run s fun t => next { t with groups := (number, s.cursor.upTo t.cursor) :: t.groups }
  | .again number anyCase, _, s, next =>
    match s.groups.lookup number with
    | some taken =>
      match s.cursor.past? anyCase taken with
      | some later => next { s with cursor := later }
      | none => none
    | none => none
  | .ahead negated body, _, s, next =>
    match body.run s some with
    | some t => if negated then none else next { t with cursor := s.cursor }
    | none => if negated then next s else none
  | .behind negated width body, _, s, next =>
    match (s.cursor.back? width).bind fun earlier => body.run { s with cursor := earlier } some with
    | some t => if negated then none else next { t with cursor := s.cursor }
    | none => if negated then next s else none
  | .atomic body, _, s, next =>
    match body.run s some with
    | some t => next t
    | none => none
  | .repeated greedy least most body, _, s, next =>
    Matcher.exactly body.run least s fun t =>
      Matcher.atMost body.run greedy (rounds least most t.cursor.left) none t next

end GrammarKit.Regex
