import GrammarKit.Encoding.Utf8
import GrammarKit.Number.Numeral
import GrammarKit.Yaml.BlockScalar
import GrammarKit.Yaml.PlainScalar
import GrammarKit.Yaml.QuotedScalar

/-!
# Tokens of YAML

What a YAML text is made of: indicators, the starts and ends of blocks, which follow from the
indentation, and scalars with their properties. A directive, an anchor or a tag is read here from
the place where it starts.
-/

namespace GrammarKit.Yaml

/-- A tag as it is written: a handle, if it has one, and what comes behind it. -/
structure TagName where
  /-- The handle, with its exclamation marks. -/
  handle? : Option Text
  suffix : Text
  deriving DecidableEq, Repr

inductive Directive where
  | version (major minor : Nat)
  | tagHandle (handle meaning : Text)
  /-- Something that is not known. -/
  | other
  deriving DecidableEq, Repr

inductive Token where
  | directive (d : Directive)
  | documentStart
  | documentEnd
  | listStart
  | mapStart
  /-- The end of a list or map that is laid out in lines. -/
  | blockEnd
  | openBracket
  | closeBracket
  | openBrace
  | closeBrace
  | comma
  /-- The dash before an item. -/
  | item
  | key
  | value
  | alias (name : Text)
  | anchor (name : Text)
  | tag (name : TagName)
  /-- A scalar; `plain` if it has no quotes and no indicator. -/
  | scalar (plain : Bool) (text : Text)
  deriving DecidableEq, Repr

/-- Letters and digits of ASCII, and the dash and the underscore. -/
def isIdentifierChar (c : Char) : Bool := c.isAlphanum || c = '-' || c = '_'

/-! ### Anchors -/

def isAnchorChar (c : Char) : Bool :=
  let n := c.toNat
  !(",[]\x7b\x7d".toList.contains c) &&
    ((0x21 ≤ n && n ≤ 0x7e) || (0xa0 ≤ n && n ≤ 0xd7ff) ||
      (0xe000 ≤ n && n ≤ 0xfffd && c != '\ufeff') || 0x10000 ≤ n)

/-- The name of an anchor or of a reference, given the place of its indicator. -/
def anchorName (cur : Cursor) : Except Error (Text × Cursor) :=
  let name := cur.next.run isAnchorChar
  let later := cur.next.skip isAnchorChar
  if !name.isEmpty && (isBlankOrEnd later.peek || "\t?:,[]\x7b\x7d%@`".toList.contains later.peek) then
    .ok (name, later)
  else .error .malformed

/-! ### Tags -/

def isTagChar (version : Version) (c : Char) : Bool :=
  c.isAlphanum || "-;/?:@&=+$,_.!~*'()[]%".toList.contains c || (c = '#' && version = .usual)

/-- A handle of a tag, given the place of its exclamation mark: up to the next one or, where a blank
comes, the first alone. -/
def tagHandle (cur : Cursor) : Except Error (Text × Cursor) :=
  if cur.peek != '!' then .error .malformed
  else if cur.peek 1 = ' ' then .ok (['!'], cur.next)
  else
    let name := cur.next.run isIdentifierChar
    let later := cur.next.skip isIdentifierChar
    if later.peek = '!' then .ok ('!' :: name ++ ['!'], later.next) else .error .malformed

/-- The bytes that percent signs with two digits each give, at the front of a text, and what comes
behind them. -/
def percentBytes : Text → Except Error (Bytes × Text)
  | '%' :: c :: d :: rest =>
    match hexNumber? 2 [c, d] with
    | some n => do
      let (bytes, later) ← percentBytes rest
      return (n.toUInt8 :: bytes, later)
    | none => .error .malformed
  | '%' :: _ => .error .malformed
  | t => .ok ([], t)

/-- A text with percent signs replaced by the characters that they give. -/
def withoutPercents : Nat → Text → Except Error Text
  | 0, _ => .error .malformed
  | _, [] => .ok []
  | n + 1, '%' :: rest => do
    let (bytes, later) ← percentBytes ('%' :: rest)
    match Encoding.Utf8.decode bytes with
    | .ok t => return t ++ (← withoutPercents n later)
    | .error _ => throw .malformed
  | n + 1, c :: rest => do return c :: (← withoutPercents n rest)

/-- The text of a tag, which is not empty. -/
def tagText (version : Version) (cur : Cursor) : Except Error (Text × Cursor) := do
  let written := cur.run (isTagChar version)
  if written.isEmpty then throw .malformed
  return (← withoutPercents (written.length + 1) written, cur.skip (isTagChar version))

/-- Whether an exclamation mark comes before the next blank. -/
def hasHandle (cur : Cursor) : Bool := (cur.run fun c => !isBlankOrEnd c).contains '!'

/-- A tag, given the place of its exclamation mark. A second one may follow; the handle is then made
of both, unless there are more. -/
def tagName (version : Version) (cur : Cursor) : Except Error (TagName × Cursor) := do
  let doubled := cur.peek 1 = '!'
  let short := if doubled then ['!', '!'] else ['!']
  let cur := if doubled then cur.next else cur
  let (name, later) ←
    if cur.peek 1 = '<' then do
      let (text, later) ← tagText version (cur.forward 2)
      if later.peek = '>' then pure (⟨none, text⟩, later.next) else throw .malformed
    else if setsApart (cur.peek 1) then pure (⟨none, short⟩, cur.next)
    else do
      let (handle, later) ← if hasHandle cur.next then tagHandle cur else pure (short, cur.next)
      let (text, last) ← tagText version later
      pure (⟨some handle, text⟩, last)
  if isBlankOrEnd later.peek then return (name, later) else throw .malformed

/-! ### Directives -/

def directiveNumber (cur : Cursor) : Except Error (Nat × Cursor) :=
  let digits := cur.run Char.isDigit
  if digits.isEmpty then .error .malformed
  else match Numeral.whole 10 digits with
    | .ok n => .ok (n.toNat, cur.skip Char.isDigit)
    | .error cause => .error (.numeral cause)

/-- A version, behind the name of its directive. -/
def versionDirective (cur : Cursor) : Except Error (Directive × Cursor) := do
  let (major, later) ← directiveNumber cur.skipBlanks
  if later.peek != '.' then throw .malformed
  let (minor, last) ← directiveNumber later.next
  if isBlankOrEnd last.peek then return (.version major minor, last) else throw .malformed

/-- A tag handle and its meaning, behind the name of the directive. -/
def tagDirective (version : Version) (cur : Cursor) : Except Error (Directive × Cursor) := do
  let (handle, later) ← tagHandle cur.skipBlanks
  if later.peek != ' ' then throw .malformed
  let (meaning, last) ← tagText version later.skipBlanks
  if isBlankOrEnd last.peek then return (.tagHandle handle meaning, last) else throw .malformed

def isDirectiveChar (c : Char) : Bool := isIdentifierChar c || c = ':' || c = '.'

/-- A directive, given the place of its percent sign, and the start of the next line. -/
def directive (version : Version) (cur : Cursor) : Except Error (Directive × Cursor) := do
  let name := cur.next.run isDirectiveChar
  let later := cur.next.skip isDirectiveChar
  if name.isEmpty || !isBlankOrEnd later.peek then throw .malformed
  let (d, last) ←
    if name = "YAML".toList then versionDirective later
    else if name = "TAG".toList then tagDirective version later
    else pure (.other, later.skipLine)
  return (d, ← ignoredLine last)

end GrammarKit.Yaml
