import GrammarKit.Yaml.Token

/-!
# From text to tokens

The tokens of a YAML text. Where a value follows a scalar or a collection on the same line, the key
is only known for one when its colon is reached: the place of what may be a key is kept until then,
for every depth of brackets and braces. Outside of these, indentation opens and closes lists and
maps. A text may have a fault behind tokens that are sound: these come first, and the fault counts
only for those who read on to it.
-/

namespace GrammarKit.Yaml

structure KeySpot where
  /-- The number of tokens before it. -/
  tokens : Nat
  /-- There has to be a key, because of the indentation. -/
  required : Bool
  start : Cursor

/-- What has been read, and what matters for reading on. -/
structure Lexer where
  cursor : Cursor
  /-- The tokens so far, the latest first. -/
  tokens : List Token := []
  indent : Int := -1
  /-- The indentations around it, the innermost first. -/
  outer : List Int := []
  /-- The brackets and braces that are open, the innermost first; `true` for a bracket. -/
  open_ : List Bool := []
  keyAllowed : Bool := true
  /-- Where keys may have started, by the number of open brackets and braces. -/
  spots : List (Nat × KeySpot) := []
  pending : Bool := false
  version : Version
  asked? : Option Version := none

namespace Lexer

def depth (s : Lexer) : Nat := s.open_.length

def inFlow (s : Lexer) : Bool := !s.open_.isEmpty

def emit (t : Token) (s : Lexer) : Lexer := { s with tokens := t :: s.tokens }

def move (n : Nat) (s : Lexer) : Lexer := { s with cursor := s.cursor.forward n }

def allowKey (allowed : Bool) (s : Lexer) : Lexer := { s with keyAllowed := allowed }

/-- A token put behind the first `n`. -/
def insertAt (n : Nat) (t : Token) (s : Lexer) : Lexer :=
  let later := s.tokens.length - n
  { s with tokens := s.tokens.take later ++ t :: s.tokens.drop later }

/-! ### Indentation -/

/-- How many blocks end before a column, and the indentations that are left. -/
def endedBlocks (column : Int) : Int → List Int → Nat × Int × List Int
  | indent, [] => (0, indent, [])
  | indent, next :: rest =>
    if column < indent then
      let (n, left) := endedBlocks column next rest
      (n + 1, left)
    else (0, indent, next :: rest)

/-- Ends the blocks that are indented further than a column; between brackets none ends. -/
def unwind (column : Int) (s : Lexer) : Lexer :=
  if s.inFlow then s
  else
    let (n, indent, outer) := endedBlocks column s.indent s.outer
    { s with tokens := List.replicate n .blockEnd ++ s.tokens, indent, outer }

/-- Starts a block at a column if that is indented further; says whether it has. -/
def addIndent (column : Nat) (s : Lexer) : Bool × Lexer :=
  if s.indent < column then (true, { s with indent := column, outer := s.indent :: s.outer })
  else (false, s)

/-- Starts a block of a kind here if this place is indented further. -/
def openBlock (t : Token) (s : Lexer) : Lexer :=
  match s.addIndent s.cursor.column with
  | (true, later) => later.emit t
  | (false, later) => later

/-! ### Keys -/

/-- The greatest number of characters of a key without a question mark. -/
def longestKey : Nat := 1024

/-- Whether a key that starts at a place may still go on here. -/
def mayGoOn (s : Lexer) (spot : KeySpot) : Bool :=
  spot.start.line = s.cursor.line && s.cursor.index - spot.start.index ≤ longestKey

def dropStale (s : Lexer) : Except Error Lexer :=
  if s.spots.any fun (_, spot) => !s.mayGoOn spot && spot.required then .error .malformed
  else .ok { s with spots := s.spots.filter fun (_, spot) => s.mayGoOn spot }

def dropKey (s : Lexer) : Except Error Lexer :=
  match s.spots.lookup s.depth with
  | none => .ok s
  | some spot =>
    if spot.required then .error .malformed
    else .ok { s with spots := s.spots.filter (·.1 != s.depth) }

def noteKey (s : Lexer) : Except Error Lexer :=
  if s.keyAllowed then do
    let s ← s.dropKey
    let required := !s.inFlow && s.indent = s.cursor.column
    return { s with spots := (s.depth, ⟨s.tokens.length, required, s.cursor⟩) :: s.spots }
  else .ok s

/-! ### Tokens -/

def readKeyed {α : Type} (read : Cursor → Except Error (α × Cursor)) (token : α → Token)
    (s : Lexer) : Except Error Lexer := do
  let s ← s.noteKey
  let (a, later) ← read s.cursor
  return { s with cursor := later, keyAllowed := false }.emit (token a)

def readPlain (s : Lexer) : Except Error Lexer := do
  let s ← s.noteKey
  let (text, broken, later) := plainScalar ⟨s.version, s.inFlow⟩ (s.indent + 1) s.cursor
  return { s with cursor := later, keyAllowed := broken }.emit (.scalar true text)

def readBlock (s : Lexer) : Except Error Lexer := do
  let s ← s.dropKey
  let (text, later) ← blockScalar s.indent s.cursor
  return { s with cursor := later, keyAllowed := true }.emit (.scalar false text)

def readDirective (s : Lexer) : Except Error Lexer := do
  let s ← (s.unwind (-1)).dropKey
  let (d, later) ← directive s.version s.cursor
  let asked? := match d with
    | .version _ minor => Version.ofMinor? minor
    | _ => s.asked?
  return { s with cursor := later, keyAllowed := false, asked? }.emit (.directive d)

/-- A document mark. Behind the mark of a start the version holds that was asked for. -/
def readMark (t : Token) (s : Lexer) : Except Error Lexer := do
  let s ← (s.unwind (-1)).dropKey
  let s := ((s.allowKey false).move 3).emit t
  return if t = .documentStart then { s with version := s.asked?.getD .usual, asked? := none } else s

def readOpening (bracket : Bool) (s : Lexer) : Except Error Lexer := do
  let s ← s.noteKey
  let s := (s.emit (if bracket then .openBracket else .openBrace)).move 1
  return { s with open_ := bracket :: s.open_, keyAllowed := true }

def readClosing (t : Token) (s : Lexer) : Except Error Lexer := do
  let s ← s.dropKey
  return (({ s with open_ := s.open_.tail, keyAllowed := false }).move 1).emit t

def readComma (s : Lexer) : Except Error Lexer := do
  let s ← (s.allowKey true).dropKey
  return (s.move 1).emit .comma

/-- A dash, which may start a list. -/
def readItem (s : Lexer) : Except Error Lexer := do
  if !s.inFlow && !s.keyAllowed then throw .malformed
  let s := if s.inFlow then s else s.openBlock .listStart
  let s ← (s.allowKey true).dropKey
  return (s.move 1).emit .item

/-- A question mark, which may start a map. -/
def readKey (s : Lexer) : Except Error Lexer := do
  if !s.inFlow && !s.keyAllowed then throw .malformed
  let s := if s.inFlow then s else s.openBlock .mapStart
  let s ← (s.allowKey (!s.inFlow)).dropKey
  return (s.move 1).emit .key

/-- A colon, behind what then turns out to be a key or at the start of a line. -/
def readValue (s : Lexer) : Except Error Lexer := do
  match s.spots.lookup s.depth with
  | some spot =>
    let s := { s with spots := s.spots.filter (·.1 != s.depth), keyAllowed := false }
    let s := s.insertAt spot.tokens .key
    let s := if s.inFlow then s else match s.addIndent spot.start.column with
      | (true, later) => later.insertAt spot.tokens .mapStart
      | (false, later) => later
    return (s.move 1).emit .value
  | none =>
    if !s.inFlow && !s.keyAllowed then throw .malformed
    let s := if s.inFlow then s else s.openBlock .mapStart
    let s ← (s.allowKey (!s.inFlow)).dropKey
    return (s.move 1).emit .value

/-- Moves over blanks, remarks and line ends. Behind a line end a key may start. -/
def skipToToken : Nat → Lexer → Lexer
  | 0, s => s
  | n + 1, s =>
    let cur := if s.inFlow then s.cursor.skipSpace else s.cursor.skipBlanks
    let cur := if cur.peek = '#' then cur.skipLine else cur
    let (broken, later) := cur.lineBreak
    if broken.isEmpty then { s with cursor := cur }
    else skipToToken n { s with cursor := later, keyAllowed := s.keyAllowed || !s.inFlow }

/-- Whether a colon here comes before a value. -/
def atValue (s : Lexer) : Bool :=
  let apart := setsApart (s.cursor.peek 1)
  match s.version, s.open_ with
  | .old, _ :: _ => true
  | .usual, false :: _ => apart || !(s.pending && s.tokens.head? = some .value)
  | _, _ => apart

/-- Whether a question mark here comes before a key. -/
def atKey (s : Lexer) : Bool := s.inFlow || setsApart (s.cursor.peek 1)

def atPlain (s : Lexer) : Bool :=
  let c := s.cursor.peek
  let d := s.cursor.peek 1
  !(isBlankOrEnd c || "\t-?:,[]\x7b\x7d#&*!|>'\"%@\x60".toList.contains c) ||
    (!setsApart d && (c = '-' || (!s.inFlow && (c = '?' || c = ':')))) ||
    (c = ':' && s.inFlow && s.version = .usual && d != ' ' && d != '\t')

/-- The next token, which starts here. -/
def readToken (s : Lexer) : Except Error Lexer :=
  let c := s.cursor.peek
  let atStart := s.cursor.column = 0
  if c = '%' && atStart then s.readDirective
  else if atStart && s.cursor.atTriple '-' then s.readMark .documentStart
  else if atStart && s.cursor.atTriple '.' then s.readMark .documentEnd
  else if c = '[' then s.readOpening true
  else if c = '\x7b' then s.readOpening false
  else if c = ']' then s.readClosing .closeBracket
  else if c = '\x7d' then s.readClosing .closeBrace
  else if c = ',' then s.readComma
  else if c = '-' && setsApart (s.cursor.peek 1) then s.readItem
  else if c = '?' && s.atKey then s.readKey
  else if c = ':' && s.atValue then s.readValue
  else if c = '*' then s.readKeyed anchorName .alias
  else if c = '&' then s.readKeyed anchorName .anchor
  else if c = '!' then s.readKeyed (tagName s.version) .tag
  else if (c = '|' || c = '>') && !s.inFlow then s.readBlock
  else if c = '\'' || c = '"' then s.readKeyed quotedScalar (.scalar false)
  else if s.atPlain then s.readPlain
  else .error .malformed

/-- One step: the next token and all that follows from its place. Nothing comes out at the end of the
text, with the tokens that are then complete. -/
def step (s : Lexer) : Except Error (Lexer × Bool) := do
  let s ← (skipToToken (s.cursor.rest.length + 1) s).dropStale
  let s := s.unwind s.cursor.column
  if s.cursor.atEnd then return (← (s.unwind (-1)).dropKey, true)
  else return (← s.readToken, false)

/-- The number of tokens that cannot be part of a key any more. -/
def settled (s : Lexer) : Nat :=
  s.spots.foldl (fun n (_, spot) => min n spot.tokens) s.tokens.length

end Lexer

/-- The tokens of a text up to its first fault. -/
structure Tokens where
  sound : List Token
  /-- The fault behind them, if there is one. -/
  fault? : Option Error
  deriving DecidableEq, Repr

namespace Lexer

/-- The tokens that were settled before a fault. -/
def broken (s : Lexer) (settled : Nat) (e : Error) : Tokens :=
  ⟨(s.tokens.reverse).take settled, some e⟩

/-- All tokens from a place on, of which so many were settled before. Every token takes at least one
character, which bounds their number. -/
def readAll : Nat → Nat → Lexer → Tokens
  | 0, before, s => s.broken before .malformed
  | n + 1, before, s =>
    match s.dropStale with
    | .error e => s.broken before e
    | .ok s =>
      let s := { s with pending := !s.spots.isEmpty }
      match s.step with
      | .error e => s.broken s.settled e
      | .ok (last, true) => ⟨last.tokens.reverse, none⟩
      | .ok (later, false) => readAll n s.settled later

end Lexer

def isYamlChar (c : Char) : Bool :=
  let n := c.toNat
  n = 9 || n = 10 || n = 13 || (0x20 ≤ n && n ≤ 0x7e) || n = 0x85 || (0xa0 ≤ n && n ≤ 0xd7ff) ||
    (0xe000 ≤ n && n ≤ 0xfffd) || 0x10000 ≤ n

/-- The tokens of a text that is in the given version up to the start of a document. A mark of the
byte order at the start is left out. -/
def Tokens.ofText (held : Version) (t : Text) : Tokens :=
  if t.all isYamlChar then
    let start := Cursor.start t
    let first := if start.peek = '\ufeff' then start.next else start
    Lexer.readAll (t.length + 1) 0 { cursor := first, version := held }
  else ⟨[], some .malformed⟩

end GrammarKit.Yaml
