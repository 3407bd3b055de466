import GrammarKit.Regex.Reader

/-!
# Replacement templates

The text that replaces a match, with places for what the match and its groups took. A template is
read for one pattern, since what it may refer to are the groups of that pattern.
-/

namespace GrammarKit.Regex

open Text

inductive TemplatePart where
  | text (t : Text)
  /-- What a group took; group 0 is the whole match. -/
  | group (number : Nat)
  deriving DecidableEq, Repr

/-- Why a text is not a template for a pattern. -/
inductive TemplateError where
  /-- An escape without a meaning, or a reference to a group number that the pattern lacks. -/
  | malformed
  | unknownName (name : Text)
  deriving DecidableEq, Repr

def TemplatePart.ofNumber (regex : Regex) (n : Nat) : Except TemplateError TemplatePart :=
  if n ≤ regex.groups then .ok (.group n) else .error .malformed

def TemplatePart.ofReference (regex : Regex) (name : Text) : Except TemplateError TemplatePart :=
  if isIdentifier name then
    match regex.names.lookup name with
    | some n => .ok (.group n)
    | none => .error (.unknownName name)
  else match Numeral.whole 10 name with
    | .ok (.ofNat n) => ofNumber regex n
    | _ => .error .malformed

/-- What an escaped character stands for in a template, and what is left behind it. -/
def TemplatePart.ofEscape (regex : Regex) (c : Char) (rest : List Token) :
    Except TemplateError (TemplatePart × List Token) := do
  if c = 'g' then
    match rest with
    | .plain '<' :: more =>
      match untilMark '>' more with
      | some (name, later) => return (← ofReference regex name, later)
      | none => throw .malformed
    | _ => throw .malformed
  else if c = '0' then
    let (digits, later) := Token.span isOctalDigit 2 rest
    return (.text [Char.ofNat (Numeral.ofDigits 8 digits)], later)
  else if isAsciiDigit c then
    let (second, later) := Token.span isAsciiDigit 1 rest
    let (third, last) :=
      if isOctalDigit c && second.any isOctalDigit then Token.span isOctalDigit 1 later
      else ([], later)
    if third.isEmpty then return (← ofNumber regex (Numeral.ofDigits 10 (c :: second)), later)
    else
      let n := Numeral.ofDigits 8 (c :: second ++ third)
      if n > 0o377 then throw .malformed else return (.text [Char.ofNat n], last)
  else
    match shortEscape? c with
    | some d => return (.text [d], rest)
    | none => if isAsciiLetter c then throw .malformed else return (.text ['\\', c], rest)

/-- The parts that tokens stand for. Every part takes a token, so that the bound is not reached. -/
def TemplatePart.ofTokens (regex : Regex) : Nat → List Token →
    Except TemplateError (List TemplatePart)
  | _, [] => .ok []
  | 0, _ => .error .malformed
  | fuel + 1, .plain c :: rest => do return .text [c] :: (← ofTokens regex fuel rest)
  | fuel + 1, .escaped c :: rest => do
    let (part, later) ← ofEscape regex c rest
    return part :: (← ofTokens regex fuel later)

abbrev Template := List TemplatePart

def Template.read (regex : Regex) (written : Text) : Except TemplateError Template :=
  match Token.ofText? written with
  | none => .error .malformed
  | some tokens => TemplatePart.ofTokens regex tokens.length tokens

/-- The text of a template for a match; a group that took no part leaves nothing. -/
def Template.expand (template : Template) (m : Match) : Text :=
  template.flatMap fun
    | .text t => t
    | .group number => (m.group? number).getD []

end GrammarKit.Regex
