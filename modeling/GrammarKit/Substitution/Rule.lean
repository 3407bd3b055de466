import GrammarKit.Abbreviation.Table
import GrammarKit.Header.Strip
import GrammarKit.Regex.Template

/-!
# Substitution rules

A rule replaces every match of a pattern. Rules are applied one after another, each to the whole
result of the one before it.
-/

namespace GrammarKit

open Regex

inductive Replacement where
  /-- The text of a template, which is read when the rule is applied. -/
  | template (written : Text)
  | codeOfName (table : AbbreviationTable)
  /-- The owner in group 1, a point, and the code of the property in group 2. -/
  | codeOfProperty (table : AbbreviationTable)

structure Rule where
  regex : Regex
  replacement : Replacement

inductive SubstitutionError where
  /-- The template does not fit the pattern. -/
  | template (cause : TemplateError)
  /-- The pattern took a name that has no code. -/
  | noCode (name : Text)
  deriving DecidableEq, Repr

def SubstitutionError.message : SubstitutionError → Text
  | .template .malformed => "The template is not well formed".toList
  | .template (.unknownName name) => "unknown group name ".toList ++ Text.quoted name
  | .noCode name => Text.quoted name

def AbbreviationTable.code (table : AbbreviationTable) (name : Text) : Except SubstitutionError Text :=
  match table.codes.get? name with
  | some code => .ok code
  | none => .error (.noCode name)

/-- What a group took; nothing if it took no part. -/
def Regex.Match.taken (m : Match) (number : Nat) : Text := (m.group? number).getD []

namespace Rule

/-- A text after a rule. -/
def apply (rule : Rule) (t : Text) : Except SubstitutionError Text :=
  match rule.replacement with
  | .template written =>
    match Template.read rule.regex written with
    | .error cause => .error (.template cause)
    | .ok template => rule.regex.pattern.replaceAll (fun m => .ok (template.expand m)) t
  | .codeOfName table => rule.regex.pattern.replaceAll (fun m => table.code (m.taken 1)) t
  | .codeOfProperty table =>
    rule.regex.pattern.replaceAll (fun m => do
      return m.taken 1 ++ ['.'] ++ (← table.code (m.taken 2))) t

/-- A text after several rules, in their order. -/
def applyAll : List Rule → Text → Except SubstitutionError Text
  | [], t => .ok t
  | rule :: rules, t =>
    match rule.apply t with
    | .ok u => applyAll rules u
    | .error e => .error e

def stripHeader : Rule := ⟨Header.stripPattern, .template []⟩

/-- Replaces every name of a table that stands as a word of its own by its code. -/
def shortenNames (table : AbbreviationTable) : Rule := ⟨table.namesRegex, .codeOfName table⟩

/-- Replaces the properties of a table where they follow one of its owners and a point. -/
def shortenAccess (table : AbbreviationTable) : Rule := ⟨table.accessRegex, .codeOfProperty table⟩

/-- The rules that shorten names: first properties behind their owners, then all names. -/
def shortening (table : AbbreviationTable) : List Rule := [shortenAccess table, shortenNames table]

def ofBuild (strip shorten : Bool) (table : AbbreviationTable) : List Rule :=
  (if strip then [stripHeader] else []) ++ (if shorten then shortening table else [])

end Rule

def transform (strip shorten : Bool) (table : AbbreviationTable) (t : Text) :
    Except SubstitutionError Text :=
  Rule.applyAll (Rule.ofBuild strip shorten table) t

end GrammarKit
