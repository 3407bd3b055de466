import GrammarKit.Descriptor.TokenRule
import GrammarKit.OrderedMap
import GrammarKit.Regex.Reader
import GrammarKit.Text.Quoted

/-!
# Descriptors

A descriptor says how the words of a language are found and what they are: a pattern for words,
categories with their words, and the modes for everything longer than a word. No word belongs to
two categories, letter case set aside if the language does so.
-/

namespace GrammarKit

open Text

structure Descriptor where
  /-- Whether letter case counts. -/
  caseSensitive : Bool
  tokenRegex : Regex
  /-- The words of each category, sorted. -/
  categories : OrderedMap Text (List Text)
  /-- The modes for comments, strings and numbers. -/
  tokenRules : List TokenRule

/-- Why there is no descriptor. -/
inductive DescriptorError where
  /-- The pattern for words is none. -/
  | badPattern (cause : Regex.Error)
  /-- A category has no name. -/
  | namelessCategory
  /-- A word of a category is empty or has white space at one of its ends. -/
  | badWord (category word : Text)
  /-- A word of the second category is already one of the first. -/
  | twoCategories (word first second : Text)
  deriving DecidableEq, Repr

def DescriptorError.message : DescriptorError → Text
  | .badPattern _ => "The token pattern is no pattern".toList
  | .namelessCategory => "Category name must not be empty".toList
  | .badWord category word =>
    "Category '".toList ++ category ++ "' contains an empty or padded word: ".toList ++ quoted word
  | .twoCategories word first second =>
    "Word '".toList ++ word ++ "' is declared in both '".toList ++ first ++ "' and '".toList ++
      second ++ "'".toList

/-- The words of several chunks of a word list. White space need not stand where chunks meet. -/
def wordsFrom (chunks : List Text) : List Text := distinct (words (join [' '] chunks))

def foldWord (caseSensitive : Bool) (word : Text) : Text :=
  if caseSensitive then word else toLower word

/-- Compared words with their categories, latest first. -/
abbrev WordIndex := List (Text × Text)

namespace WordIndex

def addWord (fold : Text → Text) (index : WordIndex) (category word : Text) :
    Except DescriptorError WordIndex :=
  if word.isEmpty || word != trim word then .error (.badWord category word)
  else match index.lookup (fold word) with
    | some owner =>
      if owner = category then .ok ((fold word, category) :: index)
      else .error (.twoCategories word owner category)
    | none => .ok ((fold word, category) :: index)

def addWords (fold : Text → Text) (category : Text) :
    WordIndex → List Text → Except DescriptorError WordIndex
  | index, [] => .ok index
  | index, word :: rest =>
    match addWord fold index category word with
    | .ok more => addWords fold category more rest
    | .error e => .error e

def addCategories (fold : Text → Text) :
    WordIndex → List (Text × List Text) → Except DescriptorError WordIndex
  | index, [] => .ok index
  | index, (category, ws) :: rest =>
    if category.isEmpty then .error .namelessCategory
    else match addWords fold category index ws with
      | .ok more => addCategories fold more rest
      | .error e => .error e

end WordIndex

namespace Descriptor

/-- The descriptor with the given parts, if the categories are consistent. -/
def make (caseSensitive : Bool) (tokenRegex : Regex) (categories : OrderedMap Text (List Text))
    (tokenRules : List TokenRule) : Except DescriptorError Descriptor :=
  let sortedCategories := categories.mapValues distinct
  match WordIndex.addCategories (foldWord caseSensitive) [] sortedCategories.entries with
  | .ok _ => .ok ⟨caseSensitive, tokenRegex, sortedCategories, tokenRules⟩
  | .error e => .error e

structure Spec where
  /-- Whether letter case counts. -/
  caseSensitive : Bool
  tokenPattern : Text
  options : Regex.Options := {}
  categories : OrderedMap Text (List Text)
  /-- The modes for comments, strings and numbers. -/
  tokenRules : List TokenRule := []

def Spec.build (spec : Spec) : Except DescriptorError Descriptor :=
  match Regex.read spec.tokenPattern spec.options with
  | .ok regex => make spec.caseSensitive regex spec.categories spec.tokenRules
  | .error e => .error (.badPattern e)

def fold (d : Descriptor) (word : Text) : Text := foldWord d.caseSensitive word

def entries (d : Descriptor) : List (Text × Text) :=
  d.categories.entries.flatMap fun (category, ws) => ws.map fun word => (d.fold word, category)

def classify (d : Descriptor) (word : Text) : Option Text := d.entries.lookup (d.fold word)

/-- The words of a category, none if there is no such category. -/
def wordsOf (d : Descriptor) (category : Text) : List Text := (d.categories.get? category).getD []

/-- The words of a text as far as the pattern finds them. -/
def tokenize (d : Descriptor) (t : Text) : List Text :=
  (d.tokenRegex.pattern.allMatches t).map Regex.Match.text

end Descriptor
end GrammarKit
