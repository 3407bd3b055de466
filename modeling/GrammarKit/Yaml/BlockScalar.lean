import GrammarKit.Yaml.Cursor
import GrammarKit.Yaml.Error

/-!
# Block scalars

Indented lines behind a bar or an angle. Behind a bar every line end counts; behind an angle a single
line end between lines that do not start with white space counts as a space. What comes behind the
last line is kept, cut or reduced to one line end.
-/

namespace GrammarKit.Yaml

/-- What becomes of the line ends behind the last line. -/
inductive Chomping where
  | clip
  | keep
  | strip
  deriving DecidableEq, Repr

/-- What stands behind the bar or the angle. -/
structure BlockHeader where
  chomping : Chomping := .clip
  /-- By how much the lines are indented, if it is said. -/
  increment? : Option Nat := none
  deriving DecidableEq, Repr

def chomping? : Char → Option Chomping
  | '+' => some .keep
  | '-' => some .strip
  | _ => none

/-- The increment that a digit gives; zero is none. -/
def increment? (c : Char) : Except Error (Option Nat) :=
  if c = '0' then .error .malformed
  else .ok (if '1' ≤ c ∧ c ≤ '9' then some (c.toNat - '0'.toNat) else none)

/-- The header of a block scalar, given the place behind the bar or the angle, and the place behind
it. -/
def blockHeader (cur : Cursor) : Except Error (BlockHeader × Cursor) := do
  let (header, later) ← match chomping? cur.peek with
    | some chomping =>
      match ← increment? cur.next.peek with
      | some n => pure (⟨chomping, some n⟩, cur.forward 2)
      | none => pure (⟨chomping, none⟩, cur.next)
    | none =>
      match ← increment? cur.peek with
      | some n =>
        match chomping? cur.next.peek with
        | some chomping => pure (⟨chomping, some n⟩, cur.forward 2)
        | none => pure (⟨.clip, some n⟩, cur.next)
      | none => pure ({}, cur)
  if isBlankOrEnd later.peek then return (header, later) else throw .malformed

/-- The start of the next line, with at most a remark before it. -/
def ignoredLine (cur : Cursor) : Except Error Cursor :=
  let cur := cur.skipBlanks
  let cur := if cur.peek = '#' then cur.skipLine else cur
  if endsLine cur.peek then .ok cur.lineBreak.2 else .error .malformed

/-- The place behind at most so many blanks as lead to a column. -/
def skipToColumn (indent : Int) (cur : Cursor) : Cursor :=
  cur.forward (min (cur.run (· = ' ')).length (indent - cur.column).toNat)

/-- The empty lines that come, the place behind them and the indentation of the next line. -/
def emptyLines (indent : Int) : Nat → Cursor → Text × Cursor
  | 0, cur => ([], cur)
  | n + 1, cur =>
    let cur := skipToColumn indent cur
    if isBreak cur.peek then
      let (broken, later) := cur.lineBreak
      let (breaks, last) := emptyLines indent n later
      (broken ++ breaks, last)
    else ([], cur)

/-- What precedes the first line of a block scalar whose indentation is not said. -/
structure Lead where
  /-- The ends of the empty lines. -/
  breaks : Text
  /-- The column at which the first empty line ends. -/
  first? : Option Nat
  deepest : Nat
  /-- The place of the first character that is no blank. -/
  place : Cursor

/-- The empty lines at the start. -/
def leadingLines : Nat → Cursor → Lead
  | 0, cur => ⟨[], none, 0, cur⟩
  | n + 1, cur =>
    let later := cur.skipBlanks
    let reached := if cur.peek = ' ' then later.column else 0
    if isBreak later.peek then
      let (broken, next) := later.lineBreak
      let lead := leadingLines n next
      ⟨broken ++ lead.breaks, some later.column, max reached lead.deepest, lead.place⟩
    else ⟨[], none, reached, later⟩

/-- Whether blanks lead further than to the end of the first empty line, where that has blanks. -/
def Lead.isDeeper (lead : Lead) : Bool := lead.first?.any fun n => 0 < n && n < lead.deepest

def atBlockLine (indent : Int) (cur : Cursor) : Bool := (cur.column : Int) = indent && !cur.atEnd

def atSpace (cur : Cursor) : Bool := cur.peek = ' ' || cur.peek = '\t'

def startsWithMark (cur : Cursor) : Bool := cur.column = 0 && cur.atDocumentMark

/-- The lines of a block scalar, given the empty lines before them; then the last line end, the empty
lines behind it, and the place behind those. -/
def blockLines (folded outermost : Bool) (indent : Int) :
    Nat → Text → Cursor → Text × Text × Text × Cursor
  | 0, breaks, cur => ([], [], breaks, cur)
  | n + 1, breaks, cur =>
    let line := cur.run fun c => !endsLine c
    let (broken, later) := cur.skipLine.lineBreak
    let (more, later) := emptyLines indent (later.rest.length + 1) later
    if outermost && startsWithMark later || !atBlockLine indent later then
      (breaks ++ line, broken, more, later)
    else
      let joined :=
        if folded && broken = ['\n'] && !atSpace cur && !atSpace later then
          if more.isEmpty then [' '] else []
        else broken
      let (rest, last) := blockLines folded outermost indent n more later
      (breaks ++ line ++ joined ++ rest, last)

/-- A block scalar inside of a block with the given indentation, from its bar or angle on, and the
place behind it. -/
def blockScalar (outer : Int) (cur : Cursor) : Except Error (Text × Cursor) := do
  let (header, later) ← blockHeader cur.next
  let first ← ignoredLine later
  let least := outer + 1
  let fuel := first.rest.length + 1
  let (indent, breaks, first) ← match header.increment? with
    | none =>
      let lead := leadingLines fuel first
      if lead.isDeeper then throw .malformed
      pure (max least lead.deepest, lead.breaks, lead.place)
    | some n =>
      let indent := max least 1 + n - 1
      let (breaks, first) := emptyLines indent fuel first
      pure (indent, breaks, first)
  let outermost := header.increment? = none && least = 0
  let (lines, broken, breaks, last) :=
    if atBlockLine indent first then blockLines (cur.peek = '>') outermost indent fuel breaks first
    else ([], [], breaks, first)
  return match header.chomping with
    | .clip => (lines ++ broken, last)
    | .keep => (lines ++ broken ++ breaks, last)
    | .strip => (lines, last)

end GrammarKit.Yaml
