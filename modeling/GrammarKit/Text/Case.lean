import GrammarKit.Text.Basic
import GrammarKit.Text.CaseTable

/-!
# Letter case

Upper and lower case of characters and of whole texts. The upper case of a character may be longer
than one character; the lower case of the capital sigma depends on its neighbours.
-/

namespace GrammarKit.Text

/-- Upper case characters. -/
def isUpper (c : Char) : Bool := upperRanges.covers c.toNat

/-- Lower case characters. -/
def isLower (c : Char) : Bool := lowerRanges.covers c.toNat

/-- Characters that have a case. -/
def isCased (c : Char) : Bool := isUpper c || isLower c || titleRanges.covers c.toNat

/-- The lower case counterpart that is a single character. -/
def lowerOne (c : Char) : Char := Char.ofNat (CaseRun.shiftBy lowerRuns c.toNat)

/-- The upper case form of a character. -/
def upperForm (c : Char) : Text :=
  match longUpperForms.lookup c.toNat with
  | some form => form.map Char.ofNat
  | none => [Char.ofNat (CaseRun.shiftBy upperRuns c.toNat)]

/-- The first character of the upper case form. -/
def upperOne (c : Char) : Char := (upperForm c).headD c

/-- Every character in its upper case form. -/
def toUpper (t : Text) : Text := t.flatMap upperForm

/-- The first character that is not passed over has a case. -/
def facesCased (t : Text) : Bool :=
  match t.dropWhile fun c => caseIgnorableRanges.covers c.toNat with
  | [] => false
  | c :: _ => isCased c

/-- Lower case of a text whose earlier characters are given in reverse: a capital sigma at the end
of a word becomes the final sigma, and the dot of a dotted capital I stays. -/
def toLowerFrom (earlier : Text) : Text → Text
  | [] => []
  | c :: rest =>
    (if c = 'Σ' then
      [if facesCased earlier && !facesCased rest then 'ς' else 'σ']
    else if c = 'İ' then ['i', '\u0307']
    else [lowerOne c]) ++ toLowerFrom (c :: earlier) rest

/-- A text in lower case. -/
def toLower (t : Text) : Text := toLowerFrom [] t

end GrammarKit.Text
