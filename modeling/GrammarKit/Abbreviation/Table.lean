import GrammarKit.OrderedMap
import GrammarKit.Regex.Choice

/-!
# Abbreviation tables

A table gives the long names that occur in grammars their short codes. It also says behind which
owners which of the names are properties. No code is itself a long name, so that what has been
shortened is not shortened again.
-/

namespace GrammarKit

open Regex Text

/-- Long names with their codes, and the properties that are shortened behind an owner. -/
structure AbbreviationTable where
  codes : OrderedMap Text Text
  /-- What stands before the point. -/
  owners : List Text
  /-- What stands behind the point. -/
  properties : List Text
  nonempty : codes.entries ≠ []
  disjoint : ∀ code ∈ codes.values, code ∉ codes.keys
  covered : ∀ property ∈ properties, property ∈ codes.keys

/-- Why there is no such table. -/
inductive AbbreviationError where
  /-- There are no names. -/
  | noNames
  | codesAmongNames (codes : List Text)
  /-- These properties have no code. -/
  | propertiesWithoutCode (properties : List Text)
  deriving DecidableEq, Repr

def AbbreviationError.message : AbbreviationError → Text
  | .noNames => "Abbreviation table must not be empty".toList
  | .codesAmongNames codes =>
    "Short codes must not be long names themselves: ".toList ++ join ", ".toList codes
  | .propertiesWithoutCode properties =>
    "Property names without abbreviation: ".toList ++ join ", ".toList properties

namespace AbbreviationTable

/-- The owners of tables that name none. -/
def defaultOwners : List Text := ["block".toList, "parentNode".toList]

/-- The properties of tables that name none. -/
def defaultProperties : List Text := ["className".toList]

/-- The table with the given names, owners and properties, if they make one. -/
def make (codes : OrderedMap Text Text) (owners : List Text := defaultOwners)
    (properties : List Text := defaultProperties) : Except AbbreviationError AbbreviationTable :=
  if hempty : codes.entries = [] then .error .noNames
  else if hdisjoint : ∀ code ∈ codes.values, code ∉ codes.keys then
    if hcovered : ∀ property ∈ properties, property ∈ codes.keys then
      .ok ⟨codes, owners, properties, hempty, hdisjoint, hcovered⟩
    else .error (.propertiesWithoutCode (properties.filter fun p => !codes.contains p))
  else .error (.codesAmongNames (distinct (codes.values.filter codes.contains)))

/-- The code of a name, or the name itself if it has none. -/
def abbreviate (table : AbbreviationTable) (name : Text) : Text :=
  (table.codes.get? name).getD name

def namesRegex (table : AbbreviationTable) : Regex where
  source := "\\b(".toList ++ alternationSource table.codes.keys ++ ")\\b".toList
  pattern := .inOrder [.anchor .wordBoundary, .group 1 (alternation table.codes.keys),
    .anchor .wordBoundary]
  groups := 1

/-- Takes every property behind an owner and a point. -/
def accessRegex (table : AbbreviationTable) : Regex where
  source := "\\b(".toList ++ alternationSource table.owners ++ ")\\.(".toList ++
    alternationSource table.properties ++ ")\\b".toList
  pattern := .inOrder [.anchor .wordBoundary, .group 1 (alternation table.owners),
    .one (.single '.'), .group 2 (alternation table.properties), .anchor .wordBoundary]
  groups := 2

end AbbreviationTable
end GrammarKit
