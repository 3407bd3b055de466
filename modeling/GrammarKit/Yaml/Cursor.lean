import GrammarKit.Text.Basic

/-!
# Places in a YAML text

A cursor knows what comes next and where it stands: the number of characters before it, its line, and
its column. A mark of the byte order takes up no column.
-/

namespace GrammarKit.Yaml

open Text

structure Cursor where
  rest : Text
  /-- The number of characters before the place. -/
  index : Nat := 0
  /-- The number of line ends before the place. -/
  line : Nat := 0
  /-- The number of characters before the place in its line. -/
  column : Nat := 0
  deriving Repr

/-- What stands behind the last character: a character that no text holds. -/
def endMark : Char := '\x00'

def isBreak (c : Char) : Bool :=
  c = '\n' || c = '\r' || c = '\x85' || c = '\u2028' || c = '\u2029'

/-- The end of a line, or of the text. -/
def endsLine (c : Char) : Bool := isBreak c || c = endMark

/-- A blank, the end of a line, or that of the text. -/
def isBlankOrEnd (c : Char) : Bool := endsLine c || c = ' '

/-- White space, or the end of a line or of the text: what sets an indicator apart. -/
def setsApart (c : Char) : Bool := isBlankOrEnd c || c = '\t'

namespace Cursor

def start (t : Text) : Cursor := { rest := t }

def peek (cur : Cursor) (n : Nat := 0) : Char := cur.rest.getD n endMark

def atEnd (cur : Cursor) : Bool := cur.rest.isEmpty

/-- The place behind the next character. -/
def next (cur : Cursor) : Cursor :=
  match cur.rest with
  | [] => cur
  | c :: rest =>
    if c = '\n' || (c = '\r' && rest.head? != some '\n') then ⟨rest, cur.index + 1, cur.line + 1, 0⟩
    else ⟨rest, cur.index + 1, cur.line, if c = '\ufeff' then cur.column else cur.column + 1⟩

def forward (cur : Cursor) : Nat → Cursor
  | 0 => cur
  | n + 1 => cur.next.forward n

def run (cur : Cursor) (test : Char → Bool) : Text := cur.rest.takeWhile test

/-- The place behind the characters that pass a test. -/
def skip (cur : Cursor) (test : Char → Bool) : Cursor := cur.forward (cur.run test).length

/-- The place behind blanks. -/
def skipBlanks (cur : Cursor) : Cursor := cur.skip (· = ' ')

/-- The place behind blanks and tabs. -/
def skipSpace (cur : Cursor) : Cursor := cur.skip fun c => c = ' ' || c = '\t'

def skipLine (cur : Cursor) : Cursor := cur.skip fun c => !endsLine c

/-- The line end that comes next, as it counts, and the place behind it; nothing if none comes. -/
def lineBreak (cur : Cursor) : Text × Cursor :=
  match cur.rest with
  | '\r' :: '\n' :: _ => (['\n'], cur.forward 2)
  | c :: _ =>
    if c = '\r' || c = '\n' || c = '\x85' then (['\n'], cur.next)
    else if c = '\u2028' || c = '\u2029' then ([c], cur.next)
    else ([], cur)
  | [] => ([], cur)

/-- Whether three equal characters come, set apart from what follows. -/
def atTriple (cur : Cursor) (c : Char) : Bool :=
  [c, c, c].isPrefixOf cur.rest && setsApart (cur.peek 3)

def atDocumentMark (cur : Cursor) : Bool := cur.atTriple '-' || cur.atTriple '.'

end Cursor
end GrammarKit.Yaml
