import GrammarKit.Yaml.Cursor
import GrammarKit.Yaml.Error

/-!
# Scalars between quotes

Between single quotes a quote is written twice. Between double quotes a backslash starts an escape
and, at the end of a line, joins two lines. Line ends count as in plain scalars.
-/

namespace GrammarKit.Yaml

/-- The character that a letter behind a backslash stands for. -/
def escapedChar? : Char → Option Char
  | '0' => some '\x00'
  | 'a' => some '\x07'
  | 'b' => some '\x08'
  | 't' => some '\t'
  | '\t' => some '\t'
  | 'n' => some '\n'
  | 'v' => some '\x0b'
  | 'f' => some '\x0c'
  | 'r' => some '\r'
  | 'e' => some '\x1b'
  | ' ' => some ' '
  | '"' => some '"'
  | '/' => some '/'
  | '\\' => some '\\'
  | 'N' => some '\x85'
  | '_' => some '\xa0'
  | 'L' => some '\u2028'
  | 'P' => some '\u2029'
  | _ => none

/-- The number of hexadecimal digits behind a letter behind a backslash. -/
def escapeWidth? : Char → Option Nat
  | 'x' => some 2
  | 'u' => some 4
  | 'U' => some 8
  | _ => none

def hexValue? (c : Char) : Option Nat :=
  if '0' ≤ c ∧ c ≤ '9' then some (c.toNat - '0'.toNat)
  else if 'a' ≤ c ∧ c ≤ 'f' then some (c.toNat - 'a'.toNat + 10)
  else if 'A' ≤ c ∧ c ≤ 'F' then some (c.toNat - 'A'.toNat + 10)
  else none

def hexNumber? (n : Nat) (t : Text) : Option Nat :=
  let digits := t.take n
  if digits.length < n then none
  else digits.foldlM (fun total c => (hexValue? c).map (total * 16 + ·)) 0

/-- The line ends that come, white space between them left out, and the place behind them. A document
mark must not come. -/
def quotedBreaks : Nat → Cursor → Except Error (Text × Cursor)
  | 0, cur => .ok ([], cur)
  | n + 1, cur =>
    if cur.atDocumentMark then .error .malformed
    else
      let cur := cur.skipSpace
      if isBreak cur.peek then do
        let (broken, later) := cur.lineBreak
        let (breaks, last) ← quotedBreaks n later
        return (broken ++ breaks, last)
      else return ([], cur)

/-- What white space between quotes stands for, and the place behind it. -/
def quotedSpace (cur : Cursor) : Except Error (Text × Cursor) := do
  let space := cur.run fun c => c = ' ' || c = '\t'
  let cur := cur.skipSpace
  if cur.atEnd then throw .malformed
  else if isBreak cur.peek then
    let (broken, later) := cur.lineBreak
    let (breaks, last) ← quotedBreaks (later.rest.length + 1) later
    let folded := if broken != ['\n'] then broken else if breaks.isEmpty then [' '] else []
    return (folded ++ breaks, last)
  else return (space, cur)

def charOf (n : Nat) : Except Error Char :=
  if 0x80000000 ≤ n then .error .hugeCodePoint
  else if 0x110000 ≤ n then .error (.outOfRange .codePoint)
  else .ok (Char.ofNat n)

/-- What an escape stands for, given the place behind its backslash, and the place behind it. -/
def escape (cur : Cursor) : Except Error (Text × Cursor) :=
  match escapedChar? cur.peek with
  | some c => .ok ([c], cur.next)
  | none =>
    match escapeWidth? cur.peek with
    | some width =>
      match hexNumber? width cur.next.rest with
      | some n => (charOf n).map fun c => ([c], cur.next.forward width)
      | none => .error .malformed
    | none =>
      if isBreak cur.peek then
        let later := cur.lineBreak.2
        quotedBreaks (later.rest.length + 1) later
      else .error .malformed

def isQuotedChar (c : Char) : Bool :=
  !(isBlankOrEnd c || c = '\t' || c = '\'' || c = '"' || c = '\\')

/-- The rest of a scalar between quotes and the place behind the closing one. -/
def quotedFrom (quote : Char) : Nat → Cursor → Except Error (Text × Cursor)
  | 0, _ => .error .malformed
  | n + 1, cur => do
    let c := cur.peek
    let (part, later) ←
      if isQuotedChar c then pure (cur.run isQuotedChar, cur.skip isQuotedChar)
      else if quote = '\'' && c = '\'' && cur.peek 1 = '\'' then pure (['\''], cur.forward 2)
      else if c = quote then return ([], cur.next)
      else if c = '\'' || c = '"' || (c = '\\' && quote = '\'') then pure ([c], cur.next)
      else if c = '\\' then escape cur.next
      else quotedSpace cur
    let (rest, last) ← quotedFrom quote n later
    return (part ++ rest, last)

/-- A scalar between quotes, given the place of the opening one. -/
def quotedScalar (cur : Cursor) : Except Error (Text × Cursor) :=
  quotedFrom cur.peek (cur.rest.length + 1) cur.next

end GrammarKit.Yaml
