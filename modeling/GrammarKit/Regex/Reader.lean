import GrammarKit.Number.Numeral
import GrammarKit.Regex.Choice
import GrammarKit.Regex.Search
import GrammarKit.Text.Identifier

/-!
# Reading patterns

The written form of patterns: characters stand for themselves, `.` for any, brackets for sets,
a backslash for classes, places and escaped characters, parentheses for groups and conditions,
`|` for alternatives, and `*`, `+`, `?` and braces for repetition.
-/

namespace GrammarKit.Regex

open Text Numeral

/-- Why a text is not a pattern. -/
inductive Error where
  | loneBackslash
  /-- An escape of a letter or number that has no meaning. -/
  | unknownEscape
  | badCodePoint
  /-- A set without its closing bracket. -/
  | openSet
  /-- A range with its ends in the wrong order, or with a class for an end. -/
  | badRange
  /-- A repetition with nothing before it. -/
  | nothingToRepeat
  | repeatedRepetition
  /-- More rounds asked for at least than at most. -/
  | badRepetition
  | repetitionTooLarge
  /-- A group without its closing parenthesis. -/
  | openGroup
  /-- A closing parenthesis without a group. -/
  | strayParenthesis
  /-- A question mark behind a parenthesis with something unknown behind it. -/
  | unknownExtension
  /-- Options anywhere but at the start of the pattern. -/
  | lateOptions
  /-- A group name that is no name. -/
  | badName
  /-- A group name that is already taken. -/
  | repeatedName
  /-- A reference to a group that does not exist or is not complete. -/
  | badReference
  /-- A look-behind whose width is not fixed. -/
  | unfixedWidth
  | tooDeep
  deriving DecidableEq, Repr

structure Options where
  /-- Letter case does not count. -/
  ignoreCase : Bool := false
  /-- `^` and `$` stand for the start and end of every line. -/
  multiLine : Bool := false
  dotAll : Bool := false
  deriving DecidableEq, Repr

/-- A character of a written pattern, perhaps behind a backslash. -/
inductive Token where
  | plain (c : Char)
  /-- A character behind a backslash. -/
  | escaped (c : Char)
  deriving DecidableEq, Repr

/-- The characters of a written pattern, each together with the backslash before it. -/
def Token.ofText? : Text → Option (List Token)
  | [] => some []
  | ['\\'] => none
  | '\\' :: c :: rest => (Token.ofText? rest).map (.escaped c :: ·)
  | c :: rest => (Token.ofText? rest).map (.plain c :: ·)

def Token.text : Token → Text
  | .plain c => [c]
  | .escaped c => ['\\', c]

def Token.span (p : Char → Bool) : Nat → List Token → Text × List Token
  | n + 1, .plain c :: rest =>
    if p c then
      let (more, later) := Token.span p n rest
      (c :: more, later)
    else ([], .plain c :: rest)
  | _, ts => ([], ts)

def isAsciiDigit (c : Char) : Bool := '0' ≤ c && c ≤ '9'

def isOctalDigit (c : Char) : Bool := '0' ≤ c && c ≤ '7'

def isHexDigit (c : Char) : Bool :=
  isAsciiDigit c || ('a' ≤ c && c ≤ 'f') || ('A' ≤ c && c ≤ 'F')

def isAsciiLetter (c : Char) : Bool := ('a' ≤ c && c ≤ 'z') || ('A' ≤ c && c ≤ 'Z')

def shortEscape? : Char → Option Char
  | 'a' => some '\x07'
  | 'b' => some '\x08'
  | 'f' => some '\x0c'
  | 'n' => some '\n'
  | 'r' => some '\r'
  | 't' => some '\t'
  | 'v' => some '\x0b'
  | '\\' => some '\\'
  | _ => none

/-- The item that an escaped letter names, if it names a class. -/
def classEscape? : Char → Option CharSet.Item
  | 'w' => some (.named .word false)
  | 'W' => some (.named .word true)
  | 'd' => some (.named .decimal false)
  | 'D' => some (.named .decimal true)
  | 's' => some (.named .blank false)
  | 'S' => some (.named .blank true)
  | _ => none

def anchorEscape? : Char → Option Anchor
  | 'A' => some .textStart
  | 'Z' => some .textEnd
  | 'b' => some .wordBoundary
  | 'B' => some .insideOrOutside
  | _ => none

/-- The least and the greatest number of characters that a pattern takes. -/
structure Width where
  /-- It never takes fewer. -/
  least : Nat
  /-- It never takes more, if there is a bound. -/
  most : Option Nat
  deriving DecidableEq, Repr

def tooMany : Nat := Nat.pow 2 32 - 1

/-- A greatest width, which counts as none if it is too great. -/
def Width.bound (most : Option Nat) : Option Nat := most.filter (· < tooMany)

/-- The width of a pattern, given the widths of the groups it refers to. -/
def Pattern.width (groups : List (Nat × Width)) : Pattern → Width
  | .one _ => ⟨1, some 1⟩
  | .seq p q =>
    let v := p.width groups
    let w := q.width groups
    ⟨v.least + w.least, Width.bound do return (← v.most) + (← w.most)⟩
  | .alt p q =>
    let v := p.width groups
    let w := q.width groups
    ⟨min v.least w.least, do return max (← v.most) (← w.most)⟩
  | .group _ p | .atomic p => p.width groups
  | .again n _ => (groups.lookup n).getD ⟨0, none⟩
  | .repeated _ least most p =>
    let w := p.width groups
    ⟨least * w.least,
      if w.most = some 0 || most = some 0 then some 0
      else Width.bound do return (← most) * (← w.most)⟩
  | _ => ⟨0, some 0⟩

/-- What may be repeated and what not. -/
inductive ItemKind where
  | place
  | repetition
  | other
  deriving DecidableEq

structure Progress where
  tokens : List Token
  options : Options
  opened : Nat := 0
  names : List (Text × Nat) := []
  widths : List (Nat × Width) := []
  /-- In a look-behind, the number of groups opened before it. -/
  fence : Option Nat := none

abbrev ReadM := StateT Progress (Except Error)

/-- The next token, which stays unread. -/
def peek? : ReadM (Option Token) := return (← get).tokens.head?

def next? : ReadM (Option Token) := do
  let now ← get
  match now.tokens with
  | [] => return none
  | t :: rest =>
    set { now with tokens := rest }
    return some t

/-- Reads the given character if it comes next. -/
def accept (c : Char) : ReadM Bool := do
  let now ← get
  match now.tokens with
  | .plain d :: rest =>
    if d = c then
      set { now with tokens := rest }
      return true
    else return false
  | _ => return false

def takeSpan (p : Char → Bool) (n : Nat) : ReadM Text := do
  let now ← get
  let (taken, rest) := Token.span p n now.tokens
  set { now with tokens := rest }
  return taken

def codePoint (n : Nat) : ReadM Nat := do
  let digits ← takeSpan isHexDigit n
  if digits.length = n && ofDigits 16 digits < 0x110000 then return ofDigits 16 digits
  else throw .badCodePoint

/-- The text before the next token that is the given character, which is read too. -/
def untilMark (mark : Char) : List Token → Option (Text × List Token)
  | [] => none
  | t :: rest =>
    if t = .plain mark then some ([], rest)
    else (untilMark mark rest).map fun (taken, later) => (t.text ++ taken, later)

def groupName (mark : Char) : ReadM Text := do
  let now ← get
  match untilMark mark now.tokens with
  | none => throw .badName
  | some (name, rest) =>
    if isIdentifier name then
      set { now with tokens := rest }
      return name
    else throw .badName

def setOf (items : List CharSet.Item) (negated : Bool) : ReadM Pattern :=
  return .one { items := items.eraseDups, negated, anyCase := (← get).options.ignoreCase }

/-- A reference to a group, which must be complete and stand before any look-behind around it. -/
def reference (number : Nat) : ReadM Pattern := do
  let now ← get
  if (now.widths.lookup number).isNone then throw .badReference
  if now.fence.any (· < number) then throw .badReference
  return .again number now.options.ignoreCase

/-- What a backslash and the given character stand for outside of sets. -/
def escape (c : Char) : ReadM (Pattern × ItemKind) := do
  if let some kind := anchorEscape? c then return (.anchor kind, .place)
  if let some item := classEscape? c then return (← setOf [item] false, .other)
  if let some d := shortEscape? c then return (← setOf [.char d.toNat] false, .other)
  let character (n : Nat) : ReadM (Pattern × ItemKind) :=
    return (← setOf [.char n] false, .other)
  if c = 'x' then character (← codePoint 2)
  else if c = 'u' then character (← codePoint 4)
  else if c = 'U' then character (← codePoint 8)
  else if c = '0' then character (ofDigits 8 (← takeSpan isOctalDigit 2))
  else if isAsciiDigit c then
    let second ← takeSpan isAsciiDigit 1
    let third ← if isOctalDigit c && second.any isOctalDigit then takeSpan isOctalDigit 1 else pure []
    if third.isEmpty then
      return (← reference (ofDigits 10 (c :: second)), .other)
    else
      let n := ofDigits 8 (c :: second ++ third)
      if n > 0o377 then throw .badCodePoint else character n
  else if isAsciiLetter c then throw .unknownEscape
  else character c.toNat

/-- What a backslash and the given character stand for in a set. -/
def setEscape (c : Char) : ReadM CharSet.Item := do
  if let some d := shortEscape? c then return .char d.toNat
  if let some item := classEscape? c then return item
  let character (n : Nat) : ReadM CharSet.Item := return .char n
  if c = 'x' then character (← codePoint 2)
  else if c = 'u' then character (← codePoint 4)
  else if c = 'U' then character (← codePoint 8)
  else if isOctalDigit c then
    let n := ofDigits 8 (c :: (← takeSpan isOctalDigit 2))
    if n > 0o377 then throw .badCodePoint else character n
  else if isAsciiDigit c || isAsciiLetter c then throw .unknownEscape
  else character c.toNat

/-- An end of a range or a member of a set that starts with the given token. -/
def setMember : Token → ReadM CharSet.Item
  | .plain c => return .char c.toNat
  | .escaped c => setEscape c

/-- The members of a set up to its closing bracket, which is a member itself where it comes first. -/
def setItems : Nat → List CharSet.Item → ReadM (List CharSet.Item)
  | 0, _ => throw .tooDeep
  | fuel + 1, items => do
    match ← next? with
    | none => throw .openSet
    | some t =>
      if t = .plain ']' && !items.isEmpty then return items.reverse
      let first ← setMember t
      if ← accept '-' then
        match ← next? with
        | none => throw .openSet
        | some (.plain ']') => return (.char '-'.toNat :: first :: items).reverse
        | some u =>
          match first, ← setMember u with
          | .char low, .char high =>
            if high < low then throw .badRange
            else setItems fuel (.range low high :: items)
          | _, _ => throw .badRange
      else setItems fuel (first :: items)

/-- The bounds written between braces, if what follows an opening brace is such. -/
def bounds? (ts : List Token) : Option (Text × Text × List Token) :=
  if ts.head? = some (.plain '}') then none
  else
    let (least, rest) := Token.span isAsciiDigit ts.length ts
    match rest with
    | .plain '}' :: later => some (least, least, later)
    | .plain ',' :: later =>
      let (most, last) := Token.span isAsciiDigit later.length later
      match last with
      | .plain '}' :: end_ => some (least, most, end_)
      | _ => none
    | _ => none

/-- The bounds of a repetition; none if the brace stands for itself. -/
def repetition? (c : Char) : ReadM (Option (Nat × Option Nat)) := do
  if c = '*' then return some (0, none)
  else if c = '+' then return some (1, none)
  else if c = '?' then return some (0, some 1)
  else
    let now ← get
    match bounds? now.tokens with
    | none => return none
    | some (least, most, rest) =>
      set { now with tokens := rest }
      let low := ofDigits 10 least
      let high := ofDigits 10 most
      if low ≥ tooMany || high ≥ tooMany then throw .repetitionTooLarge
      if most.isEmpty then return some (low, none)
      if high < low then throw .badRepetition
      return some (low, some high)

/-- The last item repeated, in the way that a mark behind the bounds says. -/
def repeatLast (least : Nat) (most : Option Nat) :
    List (Pattern × ItemKind) → ReadM (List (Pattern × ItemKind))
  | [] => throw .nothingToRepeat
  | (_, .place) :: _ => throw .nothingToRepeat
  | (_, .repetition) :: _ => throw .repeatedRepetition
  | (p, .other) :: earlier => do
    if ← accept '?' then return (.repeated false least most p, .repetition) :: earlier
    else if ← accept '+' then
      return (.atomic (.repeated true least most p), .repetition) :: earlier
    else return (.repeated true least most p, .repetition) :: earlier

def Options.with? (options : Options) (value : Bool) : Char → Option Options
  | 'i' => some { options with ignoreCase := value }
  | 'm' => some { options with multiLine := value }
  | 's' => some { options with dotAll := value }
  | 'u' => if value then some options else none
  | _ => none

/-- Option letters up to the mark that ends them: those before a minus are set, the others are
cleared. -/
def optionLetters : Bool → Options → List Token → Option (Options × Char × List Token)
  | value, options, .plain c :: rest =>
    if c = ':' || (c = ')' && value) then some (options, c, rest)
    else if c = '-' && value then optionLetters false options rest
    else match options.with? value c with
      | some changed => optionLetters value changed rest
      | none => none
  | _, _, _ => none

/-- The tokens behind a comment. -/
def afterComment (ts : List Token) : Option (List Token) := (untilMark ')' ts).map (·.2)

mutual

def alternatives : Nat → Bool → ReadM Pattern
  | 0, _ => throw .tooDeep
  | fuel + 1, outermost => do
    let first ← sequence fuel outermost []
    let others ← laterAlternatives fuel
    return .choice (← get).options.ignoreCase (first :: others)

/-- Alternatives behind the first one. -/
def laterAlternatives : Nat → ReadM (List Pattern)
  | 0 => throw .tooDeep
  | fuel + 1 => do
    if ← accept '|' then
      let first ← sequence fuel false []
      return first :: (← laterAlternatives fuel)
    else return []

/-- Items up to a bar, a closing parenthesis or the end, behind those read, last one first. -/
def sequence : Nat → Bool → List (Pattern × ItemKind) → ReadM Pattern
  | 0, _, _ => throw .tooDeep
  | fuel + 1, outermost, items => do
    let finish : Pattern := .inOrder (items.reverse.map (·.1))
    match ← peek? with
    | none | some (.plain '|') | some (.plain ')') => return finish
    | some t =>
      discard next?
      match t with
      | .escaped c => sequence fuel outermost ((← escape c) :: items)
      | .plain c =>
        let options := (← get).options
        let add (p : Pattern) (kind : ItemKind) := sequence fuel outermost ((p, kind) :: items)
        if c = '[' then
          let negated ← accept '^'
          let members ← setItems ((← get).tokens.length + 1) []
          add (← setOf members negated) .other
        else if c = '.' then
          add (.one (if options.dotAll then .anything else .inLine)) .other
        else if c = '^' then
          add (.anchor (if options.multiLine then .lineStart else .textStart)) .place
        else if c = '$' then
          add (.anchor (if options.multiLine then .lineEnd else .lastLineEnd)) .place
        else if c = '*' || c = '+' || c = '?' || c = '{' then
          match ← repetition? c with
          | none => add (← setOf [.char c.toNat] false) .other
          | some (least, most) => sequence fuel outermost (← repeatLast least most items)
        else if c = '(' then
          if ← accept '?' then
            match ← extension fuel (outermost && items.isEmpty) with
            | some p => add p .other
            | none => sequence fuel outermost items
          else add (← remembered fuel none) .other
        else add (← setOf [.char c.toNat] false) .other

/-- A group that remembers what it took, behind its opening. -/
def remembered : Nat → Option Text → ReadM Pattern
  | 0, _ => throw .tooDeep
  | fuel + 1, name => do
    let now ← get
    let number := now.opened + 1
    if name.any fun n => (now.names.lookup n).isSome then throw .repeatedName
    let names := match name with
      | some n => now.names ++ [(n, number)]
      | none => now.names
    set { now with opened := number, names := names }
    let body ← enclosed fuel
    modify fun later =>
      { later with widths := (number, body.width later.widths) :: later.widths }
    return .group number body

/-- A pattern and the closing parenthesis behind it; options set in it end there. -/
def enclosed : Nat → ReadM Pattern
  | 0 => throw .tooDeep
  | fuel + 1 => do
    let options := (← get).options
    let body ← alternatives fuel false
    if ← accept ')' then
      modify fun later => { later with options := options }
      return body
    else throw .openGroup

/-- What stands behind a parenthesis and a question mark; nothing if it is a comment or options. -/
def extension : Nat → Bool → ReadM (Option Pattern)
  | 0, _ => throw .tooDeep
  | fuel + 1, atStart => do
    match ← next? with
    | some (.plain ':') => return some (← enclosed fuel)
    | some (.plain '>') => return some (.atomic (← enclosed fuel))
    | some (.plain '=') => return some (.ahead false (← enclosed fuel))
    | some (.plain '!') => return some (.ahead true (← enclosed fuel))
    | some (.plain '#') =>
      let now ← get
      match afterComment now.tokens with
      | none => throw .openGroup
      | some rest =>
        set { now with tokens := rest }
        return none
    | some (.plain '<') =>
      let negated ← match ← next? with
        | some (.plain '=') => pure false
        | some (.plain '!') => pure true
        | _ => throw .unknownExtension
      let outer := (← get).fence
      modify fun now => { now with fence := some (outer.getD now.opened) }
      let body ← enclosed fuel
      modify fun now => { now with fence := outer }
      let width := body.width (← get).widths
      if width.most = some width.least then return some (.behind negated width.least body)
      else throw .unfixedWidth
    | some (.plain 'P') =>
      if ← accept '<' then
        let name ← groupName '>'
        return some (← remembered fuel (some name))
      else if ← accept '=' then
        let name ← groupName ')'
        match (← get).names.lookup name with
        | some number => return some (← reference number)
        | none => throw .badReference
      else throw .unknownExtension
    | some (.plain c) =>
      let now ← get
      match optionLetters true now.options (.plain c :: now.tokens) with
      | none => throw .unknownExtension
      | some (options, mark, rest) =>
        if mark = ')' then
          if atStart then
            set { now with tokens := rest, options := options }
            return none
          else throw .lateOptions
        else
          set { now with tokens := rest, options := options }
          let body ← enclosed fuel
          modify fun later => { later with options := now.options }
          return some (.once body)
    | _ => throw .unknownExtension

end

end GrammarKit.Regex

namespace GrammarKit

open Regex in
/-- Reads a pattern. Every step of the reading takes a token or opens what a token opened, so that
the bound on the number of steps is never reached. Some patterns are refused that mean something
elsewhere: those with the options `a` and `x`, with branches that depend on a group, and with characters
that are given by their names. -/
def Regex.read (source : Text) (options : Options := {}) : Except Regex.Error Regex := do
  match Token.ofText? source with
  | none => throw .loneBackslash
  | some tokens =>
    let (pattern, after) ← (alternatives (4 * tokens.length + 8) true).run { tokens, options }
    if after.tokens.isEmpty then
      return { source, pattern, groups := after.opened, names := after.names }
    else throw .strayParenthesis

end GrammarKit
