/-!
# Sets of characters given by ranges

The form in which the properties of characters are tabulated: ascending ranges of code points, and
runs of letters whose counterparts in the other case lie at one distance.
-/

namespace GrammarKit.Text

/-- Ascending ranges of code points, each given by its first and its last member. -/
abbrev CharRanges := List (Nat × Nat)

def CharRanges.covers : CharRanges → Nat → Bool
  | [], _ => false
  | (first, last) :: rest, n =>
    if n < first then false else n ≤ last || CharRanges.covers rest n

/-- Ascending ranges of which every `step`-th code point counts: first, last, step. -/
abbrev SteppedRanges := List (Nat × Nat × Nat)

/-- Whether a code point is a member of one of the ranges. -/
def SteppedRanges.covers : SteppedRanges → Nat → Bool
  | [], _ => false
  | (first, last, step) :: rest, n =>
    if n < first then false
    else (n ≤ last && (n - first) % step == 0) || SteppedRanges.covers rest n

/-- Letters, `step` apart, whose counterparts lie `shift` further on. -/
structure CaseRun where
  /-- The first letter. -/
  first : Nat
  /-- The last letter. -/
  last : Nat
  step : Nat
  shift : Int

/-- The counterpart of a code point, itself if no run holds it. -/
def CaseRun.shiftBy : List CaseRun → Nat → Nat
  | [], n => n
  | run :: rest, n =>
    if n < run.first then n
    else if n ≤ run.last && (n - run.first) % run.step == 0 then ((n : Int) + run.shift).toNat
    else CaseRun.shiftBy rest n

end GrammarKit.Text
