import GrammarKit.Text.Blank
import GrammarKit.Text.Case
import GrammarKit.Text.WordChar

/-!
# Sets of characters in patterns

A set is a list of characters, ranges and named classes, perhaps negated. A set that ignores case
takes a character when it holds any letter that is the same but for its case. Of the characters
beyond U+FFFF that a set lists among others it then holds only the lower case ones.
-/

namespace GrammarKit.Regex

open Text

inductive CharClass where
  /-- Letters, numbers and the underscore. -/
  | word
  | decimal
  | blank
  deriving DecidableEq, Repr

def CharClass.covers : CharClass → Char → Bool
  | .word, c => isWord c
  | .decimal, c => isDecimal c
  | .blank, c => isBlank c

/-- Lower case letters that differ from the given one in nothing but their shape. -/
def variantsOf (n : Nat) : List Nat := (caseVariants.lookup n).getD []

/-- The code points whose single lower case counterpart is `n`, other than `n`. -/
def loweredTo (n : Nat) : List Nat :=
  lowerRuns.filterMap fun run =>
    let source := (n : Int) - run.shift
    if 0 ≤ source ∧ CaseRun.shiftBy [run] source.toNat = n ∧ source.toNat ≠ n then
      some source.toNat
    else none

/-- The code points that are the same letter as `c` but for the case. -/
def caseForms (c : Char) : List Nat :=
  let low := (lowerOne c).toNat
  (low :: variantsOf low).flatMap fun n => n :: loweredTo n

inductive CharSet.Item where
  | char (n : Nat)
  /-- The code points from the first to the last. -/
  | range (first last : Nat)
  /-- The members of a class, or those outside of it. -/
  | named (kind : CharClass) (negated : Bool)
  deriving DecidableEq, Repr

def CharSet.Item.covers (c : Char) : CharSet.Item → Bool
  | .char n => c.toNat = n
  | .range first last => first ≤ c.toNat && c.toNat ≤ last
  | .named kind negated => kind.covers c != negated

/-- Whether an item holds a character in some case. A range that goes beyond U+FFFF also holds the
characters whose upper case form starts in it. -/
def CharSet.Item.coversAnyCase (c : Char) : CharSet.Item → Bool
  | .char n => (caseForms c).contains n
  | .range first last =>
    let within := fun n => first ≤ n && n ≤ last
    (caseForms c).any within || (0xffff < last && within (upperOne (lowerOne c)).toNat)
  | .named kind negated => kind.covers c != negated

/-- Whether an item that stands among others holds a character in some case. A single code point
beyond U+FFFF is compared with the lower case of the character as it is. -/
def CharSet.Item.coversAnyCaseAmong (c : Char) (item : CharSet.Item) : Bool :=
  match item with
  | .char n => if 0xffff < n then (lowerOne c).toNat = n else item.coversAnyCase c
  | _ => item.coversAnyCase c

structure CharSet where
  /-- What the set lists, nothing twice. -/
  items : List CharSet.Item
  /-- The set takes the characters that it does not list. -/
  negated : Bool := false
  /-- Letters count in either case. -/
  anyCase : Bool := false
  deriving DecidableEq, Repr

/-- Whether a set lists a character, letter case set aside. -/
def CharSet.listsAnyCase (set : CharSet) (c : Char) : Bool :=
  match set.items with
  | [item] => item.coversAnyCase c
  | items => items.any (CharSet.Item.coversAnyCaseAmong c)

def CharSet.covers (set : CharSet) (c : Char) : Bool :=
  (if set.anyCase then set.listsAnyCase c else set.items.any (CharSet.Item.covers c)) != set.negated

def CharSet.single (c : Char) : CharSet := { items := [.char c.toNat] }

@[simp] theorem CharSet.covers_single (c d : Char) : (CharSet.single c).covers d = decide (d = c) := by
  have hval : d.toNat = c.toNat ↔ d = c :=
    ⟨fun h => Char.ext (UInt32.toNat_inj.1 h), fun h => h ▸ rfl⟩
  simp [CharSet.single, CharSet.covers, CharSet.Item.covers, hval]

def CharSet.ofClass (kind : CharClass) : CharSet := { items := [.named kind false] }

@[simp] theorem CharSet.covers_ofClass (kind : CharClass) (c : Char) :
    (CharSet.ofClass kind).covers c = kind.covers c := by
  simp [CharSet.ofClass, CharSet.covers, CharSet.Item.covers]

/-- Every character but the newline. -/
def CharSet.inLine : CharSet := { items := [.char 10], negated := true }

def CharSet.anything : CharSet := { items := [], negated := true }

end GrammarKit.Regex
