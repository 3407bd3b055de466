import GrammarKit.Text.Case
import GrammarKit.Text.WordChar

/-!
# Names in start case

A name is cut at everything that is not a letter or a number, and where a capital starts a new word
inside of it. The words are written with a capital at the start and a space between them.
-/

namespace GrammarKit.Style

open Text

def isPiece (c : Char) : Bool := isWord c && c != '_'

/-- The pieces of a name: its longest runs of letters and numbers. -/
def pieces (t : Text) : List Text := (runs isPiece t).filter fun run => run.any isPiece

/-- Whether a new word starts at `c`, between the characters `earlier` and `later?`: at a capital
behind a small letter or a digit, and at a capital between a capital and a small letter. -/
def startsWord (earlier c : Char) (later? : Option Char) : Bool :=
  isUpper c && (isLower earlier || isDigit earlier || (isUpper earlier && later?.any isLower))

/-- The words of a piece that goes on with the given characters, the word that is still open given
in reverse with its last character first. -/
def splitCamelFrom (earlier : Char) (word : Text) : Text → List Text
  | [] => [(earlier :: word).reverse]
  | c :: rest =>
    if startsWord earlier c rest.head? then (earlier :: word).reverse :: splitCamelFrom c [] rest
    else splitCamelFrom c (earlier :: word) rest

def splitCamel : Text → List Text
  | [] => []
  | c :: rest => splitCamelFrom c [] rest

def nameWords (t : Text) : List Text := (pieces t).flatMap splitCamel

/-- A word with its first character in upper case. -/
def capitalized : Text → Text
  | [] => []
  | c :: rest => upperForm c ++ rest

/-- A name in start case. -/
def startCase (t : Text) : Text := join [' '] ((nameWords t).map capitalized)

end GrammarKit.Style
