import GrammarKit.FileTree.Path
import GrammarKit.Header.Reader

/-!
# Choosing grammar files

A qualifier names a language or, behind a colon, a category. A file's language is its base name
without the suffix of grammar files; its categories stand in its header. The engine's entry point
is always chosen.
-/

namespace GrammarKit

open Text

/-- A grammar file in memory: its path below the directory it was read from, and its text. -/
structure Blob where
  name : Text
  content : Text
  deriving DecidableEq, Repr

/-- The languages and the categories that are asked for, each sorted and without repetition. -/
structure Qualifiers where
  languages : List Text
  categories : List Text
  deriving DecidableEq, Repr

namespace Qualifiers

/-- The category that a qualifier asks for, if it asks for one. -/
def category? : Text → Option Text
  | ':' :: rest => some rest
  | _ => none

def ofList (qs : List Text) : Qualifiers where
  languages := distinct (qs.filter fun q => (category? q).isNone)
  categories := distinct (qs.filterMap category?)

def isEmpty (q : Qualifiers) : Bool := q.languages.isEmpty && q.categories.isEmpty

end Qualifiers

structure Naming where
  suffix : Text := ".js".toList
  entryPoint : Text := "highlight.js".toList
  deriving DecidableEq, Repr

/-- The base name of a file without the suffix, unless nothing else is left. -/
def languageOf (suffix name : Text) : Text :=
  let base := Path.baseName name
  if suffix.isEmpty || base = suffix then base else (dropEnd? suffix base).getD base

/-- Whether a file is asked for. Without a header it is not, unless nothing is asked for. -/
def Qualifiers.admits (q : Qualifiers) (suffix : Text) (b : Blob) : Bool :=
  q.isEmpty ||
    match Header.read? b.content with
    | none => false
    | some header =>
      q.languages.contains (languageOf suffix b.name) ||
        (header.items "Category".toList).any q.categories.contains

def Qualifiers.chooses (q : Qualifiers) (naming : Naming) (b : Blob) : Bool :=
  Path.baseName b.name = naming.entryPoint || q.admits naming.suffix b

/-- The files that are chosen, in order. -/
def Qualifiers.select (q : Qualifiers) (naming : Naming) (bs : List Blob) : List Blob :=
  bs.filter (q.chooses naming)

end GrammarKit
