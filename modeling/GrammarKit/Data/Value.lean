import GrammarKit.Data.Date
import GrammarKit.Encoding.Basic
import GrammarKit.Number.Binary64
import GrammarKit.Number.Numeral

/-!
# Values

What settings files are made of: nothing, truth values, numbers, texts, bytes, dates, lists, maps and
sets. A value is shown in messages with texts quoted; where it stands alone, a text is shown as it is.
-/

namespace GrammarKit

open Text

inductive Container where
  | list
  | map
  | set
  | ordered
  deriving DecidableEq, Repr

namespace Container

def name : Container → Text
  | .list => "list".toList
  | .map => "dict".toList
  | .set => "set".toList
  | .ordered => "ordereddict".toList

def mark : Container → Text
  | .list => "[...]".toList
  | .map => "\x7b...\x7d".toList
  | .set => "set(...)".toList
  | .ordered => "...".toList

end Container

inductive Value where
  | null
  | bool (b : Bool)
  | int (i : Int)
  | float (x : Binary64)
  | text (t : Text)
  | bytes (bs : Bytes)
  | date (d : Date)
  | dateTime (m : DateTime)
  | list (items : List Value)
  | tuple (items : List Value)
  /-- A map, in order. -/
  | map (entries : List (Value × Value))
  /-- A set, in order. -/
  | set (items : List Value)
  | ordered (entries : List (Value × Value))
  | inside (kind : Container)
  deriving Repr, Inhabited

/-- Why a value cannot be shown. -/
inductive ShowFault where
  /-- A whole number has too many digits. -/
  | tooLong
  /-- Values are nested too deeply in one another. -/
  | tooDeep
  deriving DecidableEq, Repr

def quotedByte (quote : Char) (b : UInt8) : Text :=
  let c := Char.ofNat b.toNat
  if b < 0x7f then quotedChar quote c else '\\' :: 'x' :: hexDigits 2 b.toNat

def quotedBytes (bs : Bytes) : Text :=
  let quote := quoteFor (bs.map fun b => Char.ofNat b.toNat)
  'b' :: quote :: bs.flatMap (quotedByte quote) ++ [quote]

namespace Value

mutual

def shown : Value → Text
  | .null => "None".toList
  | .bool b => if b then "True".toList else "False".toList
  | .int i => intText i
  | .float x => x.text
  | .text t => quoted t
  | .bytes bs => quotedBytes bs
  | .date d => d.shown
  | .dateTime m => m.shown
  | .list items => ['['] ++ commaList (shownAll items) ++ [']']
  | .tuple items =>
    ['('] ++ commaList (shownAll items) ++ (if items.length = 1 then [','] else []) ++ [')']
  | .map entries => ['{'] ++ commaList (shownEntries entries) ++ ['}']
  | .set items =>
    if items.isEmpty then "set()".toList else ['{'] ++ commaList (shownAll items) ++ ['}']
  | .ordered entries =>
    "ordereddict(".toList ++
      (if entries.isEmpty then [] else ['['] ++ commaList (shownPairs entries) ++ [']']) ++ [')']
  | .inside kind => kind.mark

def shownAll : List Value → List Text
  | [] => []
  | v :: vs => shown v :: shownAll vs

def shownEntries : List (Value × Value) → List Text
  | [] => []
  | (key, value) :: rest => (shown key ++ ": ".toList ++ shown value) :: shownEntries rest

def shownPairs : List (Value × Value) → List Text
  | [] => []
  | (key, value) :: rest =>
    (['('] ++ shown key ++ ", ".toList ++ shown value ++ [')']) :: shownPairs rest

end

mutual

/-- Why a value cannot be shown, if it cannot; the first fault counts. So many calls may be nested in
one another to show what is inside: a list takes one of them, a set two, an ordered map three, and a
time with an offset two. -/
def fault? (room : Nat) : Value → Option ShowFault
  | .int i => if i.natAbs < Nat.pow 10 Numeral.longest then none else some .tooLong
  | .dateTime m => if m.zone?.isSome && room < 2 then some .tooDeep else none
  | .list items | .tuple items => faultInside? 1 room items
  | .set items => faultInside? 2 room items
  | .map entries => faultInEntries? 1 room entries
  | .ordered entries => faultInEntries? 3 room entries
  | _ => none

/-- The first fault of values for which so many calls are taken. -/
def faultInside? (calls room : Nat) : List Value → Option ShowFault
  | [] => none
  | v :: vs =>
    (if room < calls then some .tooDeep else fault? (room - calls) v).or (faultInside? calls room vs)

def faultInEntries? (calls room : Nat) : List (Value × Value) → Option ShowFault
  | [] => none
  | (key, value) :: rest =>
    (if room < calls then some .tooDeep
      else (fault? (room - calls) key).or (fault? (room - calls) value)).or
        (faultInEntries? calls room rest)

end

def plain : Value → Text
  | .text t => t
  | .date d => d.plain
  | .dateTime m => m.plain
  | v => shown v

/-- Why a value that stands alone cannot be shown, if it cannot. -/
def plainFault? (room : Nat) : Value → Option ShowFault
  | .dateTime _ => none
  | v => fault? room v

def isVoid : Value → Bool
  | .null => true
  | .bool b => !b
  | .int i => i = 0
  | .float x => x.isZero
  | .text t => t.isEmpty
  | .bytes bs => bs.isEmpty
  | .list items => items.isEmpty
  | .tuple items => items.isEmpty
  | .map entries => entries.isEmpty
  | .set items => items.isEmpty
  | .ordered entries => entries.isEmpty
  | _ => false

end Value
end GrammarKit
