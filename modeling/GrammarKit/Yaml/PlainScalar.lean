import GrammarKit.Yaml.Cursor

/-!
# Scalars without quotes

A plain scalar goes on over blanks and line ends until an indicator, a remark or a line that is not
indented enough. A line end counts as a space; several count as the empty lines between them. The two
versions of the format that a text can be written in differ in what ends such a scalar, and also in the
characters of tags and in the texts that are numbers and truth values.
-/

namespace GrammarKit.Yaml

inductive Version where
  | old
  /-- Version 1.2, which holds unless a text says otherwise. -/
  | usual
  deriving DecidableEq, Repr

/-- The version with a number behind its point. -/
def Version.ofMinor? : Nat → Option Version
  | 1 => some .old
  | 2 => some .usual
  | _ => none

/-- Where a plain scalar stands, which says what ends it. -/
structure Surroundings where
  version : Version := .usual
  flow : Bool
  deriving DecidableEq, Repr

def Surroundings.isEnd (around : Surroundings) (c : Char) : Bool :=
  around.flow && (",[]\x7b\x7d".toList.contains c || (c = '?' && around.version = .old))

/-- Whether a plain scalar goes on with `c` when `d` comes behind it. -/
def plainGoesOn (around : Surroundings) (c d : Char) : Bool :=
  if c = ':' then !setsApart d else !(setsApart c || around.isEnd c)

/-- The part of a plain scalar up to the next white space or indicator. -/
def plainChunk (around : Surroundings) : Text → Text
  | [] => []
  | c :: rest => if plainGoesOn around c (rest.headD endMark) then c :: plainChunk around rest else []

/-- The line ends that come, blanks between them left out, and the place behind them; nothing if one
of them is followed by a document mark. -/
def plainBreaks : Nat → Cursor → Option (Text × Cursor)
  | 0, cur => some ([], cur)
  | n + 1, cur =>
    let cur := cur.skipBlanks
    if isBreak cur.peek then
      let (broken, later) := cur.lineBreak
      if later.atDocumentMark then none
      else (plainBreaks n later).map fun (breaks, last) => (broken ++ breaks, last)
    else some ([], cur)

/-- What white space inside of a plain scalar stands for, whether a line ends in it, and the place
behind it. Nothing stands where the scalar cannot go on. -/
def plainSpace (cur : Cursor) : Text × Bool × Cursor :=
  let blanks := cur.run (· = ' ')
  let cur := cur.skipBlanks
  if isBreak cur.peek then
    let (broken, later) := cur.lineBreak
    if later.atDocumentMark then ([], true, later)
    else match plainBreaks later.rest.length later with
      | none => ([], true, later)
      | some (breaks, last) =>
        let folded := if broken != ['\n'] then broken else if breaks.isEmpty then [' '] else []
        (folded ++ breaks, true, last)
  else (blanks, false, cur)

/-- The rest of a plain scalar behind the given white space: its text, whether a line ends behind it,
and the place behind that. -/
def plainFrom (around : Surroundings) (indent : Int) : Nat → Text → Bool → Cursor → Text × Bool × Cursor
  | 0, _, broken, cur => ([], broken, cur)
  | n + 1, space, broken, cur =>
    if cur.peek = '#' then ([], broken, cur)
    else
      let chunk := plainChunk around cur.rest
      if chunk.isEmpty then ([], broken, cur)
      else
        let (later, broken, last) := plainSpace (cur.forward chunk.length)
        if later.isEmpty || last.peek = '#' || (!around.flow && (last.column : Int) < indent) then
          (space ++ chunk, broken, last)
        else
          let (rest, broken, last) := plainFrom around indent n later broken last
          (space ++ chunk ++ rest, broken, last)

/-- A plain scalar whose lines are indented by at least `indent`. -/
def plainScalar (around : Surroundings) (indent : Int) (cur : Cursor) : Text × Bool × Cursor :=
  plainFrom around indent (cur.rest.length + 1) [] false cur

end GrammarKit.Yaml
