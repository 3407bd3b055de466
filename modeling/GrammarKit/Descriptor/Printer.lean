import GrammarKit.Abbreviation.Table
import GrammarKit.Descriptor.Basic
import GrammarKit.Header.Basic
import GrammarKit.Json.Printer

/-!
# Writing descriptors

A descriptor as the source text of a grammar that the engine loads, with names of fields and modes
abbreviated on demand, and as data. Categories are written in the order of their names.
-/

namespace GrammarKit

open Text

namespace Descriptor

/-- A pattern with a backslash before each slash that has none. -/
def escapeSlashes (earlier : Option Char) : Text → Text
  | [] => []
  | c :: rest =>
    if c = '/' && earlier != some '\\' then '\\' :: '/' :: escapeSlashes (some c) rest
    else c :: escapeSlashes (some c) rest

def regexLiteral (pattern : Text) : Text := '/' :: escapeSlashes none pattern ++ ['/']

def wordList (ws : List Text) : Text := Json.quoted true (join [' '] ws)

def commaLines (ls : List Text) : Text := join ",\n".toList ls

/-- The name of a field or mode, abbreviated if there is a table. -/
def fieldName (table : Option AbbreviationTable) (name : Text) : Text :=
  match table with
  | some table => table.abbreviate name
  | none => name

/-- The categories in the order of their names. -/
def sortedCategories (d : Descriptor) : List (Text × List Text) :=
  sortBy (fun a b => before a.1 b.1) d.categories.entries

def bodyFields (d : Descriptor) (table : Option AbbreviationTable) : List Text :=
  let key := fun name : String => fieldName table name.toList
  let caseField :=
    if d.caseSensitive then [] else [key "case_insensitive" ++ ": true".toList]
  let lexemesField := [key "lexemes" ++ ": ".toList ++ regexLiteral d.tokenRegex.source]
  let keywordsField :=
    if d.categories.entries.isEmpty then []
    else [key "keywords" ++ ": \x7b\n".toList ++
      commaLines (d.sortedCategories.map fun (name, ws) =>
        "      ".toList ++ name ++ ": ".toList ++ wordList ws) ++ "\n    \x7d".toList]
  let containsField :=
    if d.tokenRules.isEmpty then []
    else [key "contains" ++ ": [\n".toList ++
      commaLines (d.tokenRules.map fun rule =>
        "      hljs.".toList ++ fieldName table rule.name) ++ "\n    ]".toList]
  caseField ++ lexemesField ++ keywordsField ++ containsField

def renderBody (d : Descriptor) (table : Option AbbreviationTable) : Text :=
  "function(hljs) \x7b\n  return \x7b\n".toList ++
    commaLines ((d.bodyFields table).map fun field => "    ".toList ++ field) ++
    "\n  \x7d;\n\x7d\n".toList

/-- The grammar behind its header. -/
def renderSource (d : Descriptor) (header : Header) (table : Option AbbreviationTable) : Text :=
  header.render ++ ['\n'] ++ d.renderBody table

def ruleData (rule : TokenRule) : Json := .object [
  ("name".toList, .text rule.name),
  ("kind".toList, .text rule.kind),
  ("begin".toList, .text rule.opening),
  ("end".toList, (rule.closing.map Json.text).getD .null),
  ("class_name".toList, .text rule.shownClass)]

def data (d : Descriptor) : Json := .object [
  ("case_sensitive".toList, .bool d.caseSensitive),
  ("token_pattern".toList, .text d.tokenRegex.source),
  ("categories".toList, .object (d.categories.entries.map fun (name, ws) => (name, Json.texts ws))),
  ("token_rules".toList, .list (d.tokenRules.map ruleData))]

end Descriptor

def Header.data (h : Header) : Json := .object (h.entries.map fun (key, value) =>
  (key, match value with
    | .text t => .text t
    | .items ts => Json.texts ts))

end GrammarKit
