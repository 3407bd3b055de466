import GrammarKit.Text.Quoted

/-!
# Dates and times

Days of the Gregorian calendar, times of day, and offsets from universal time, as messages show them
and as they stand alone.
-/

namespace GrammarKit

open Text

structure Date where
  year : Nat
  /-- The month, from 1 on. -/
  month : Nat
  /-- The day of the month, from 1 on. -/
  day : Nat
  deriving DecidableEq, Repr

structure ClockTime where
  hour : Nat
  minute : Nat
  second : Nat
  micro : Nat
  deriving DecidableEq, Repr

/-- By how much the clocks of a place are ahead of universal time. -/
structure Zone where
  /-- The number of minutes, negative for clocks that are behind. -/
  minutes : Int
  name : Text
  deriving DecidableEq, Repr

/-- A time on a day, perhaps with the offset of the clocks that show it. -/
structure DateTime where
  date : Date
  time : ClockTime
  /-- The offset, if it is known. -/
  zone? : Option Zone
  deriving DecidableEq, Repr

/-- A number in at least `width` decimal digits. -/
def paddedNat (width n : Nat) : Text :=
  let ds := ofNat n
  List.replicate (width - ds.length) '0' ++ ds

def intText (i : Int) : Text :=
  if i < 0 then '-' :: ofNat i.natAbs else ofNat i.natAbs

def commaList (ts : List Text) : Text := join ", ".toList ts

/-! ### The calendar -/

def isLeapYear (year : Nat) : Bool := year % 4 = 0 && (year % 100 ≠ 0 || year % 400 = 0)

def daysIn (year month : Nat) : Nat :=
  if month = 2 then (if isLeapYear year then 29 else 28)
  else if month = 4 ∨ month = 6 ∨ month = 9 ∨ month = 11 then 30
  else 31

namespace Date

/-- The number of days since the last day before the year 1. -/
def ordinal (d : Date) : Nat :=
  let past := d.year - 1
  365 * past + past / 4 - past / 100 + past / 400 +
    ((List.range' 1 (d.month - 1)).map (daysIn d.year)).foldr (· + ·) 0 + d.day

/-- The last year that has days. -/
def lastYear : Nat := 9999

/-- The next day, if it is not beyond the last year. -/
def next? (d : Date) : Option Date :=
  if d.day < daysIn d.year d.month then some { d with day := d.day + 1 }
  else if d.month < 12 then some ⟨d.year, d.month + 1, 1⟩
  else if d.year < lastYear then some ⟨d.year + 1, 1, 1⟩
  else none

def plain (d : Date) : Text :=
  paddedNat 4 d.year ++ ['-'] ++ paddedNat 2 d.month ++ ['-'] ++ paddedNat 2 d.day

def shownParts (d : Date) : List Text := [ofNat d.year, ofNat d.month, ofNat d.day]

def shown (d : Date) : Text := "datetime.date(".toList ++ commaList d.shownParts ++ [')']

end Date

namespace ClockTime

/-- The numbers that a time is shown with: no zero seconds or fractions at the end. -/
def shownParts (time : ClockTime) : List Text :=
  [ofNat time.hour, ofNat time.minute] ++
    (if time.micro ≠ 0 then [ofNat time.second, ofNat time.micro]
    else if time.second ≠ 0 then [ofNat time.second] else [])

def plain (time : ClockTime) : Text :=
  paddedNat 2 time.hour ++ [':'] ++ paddedNat 2 time.minute ++ [':'] ++ paddedNat 2 time.second ++
    (if time.micro ≠ 0 then '.' :: paddedNat 6 time.micro else [])

def micros (time : ClockTime) : Nat :=
  ((time.hour * 60 + time.minute) * 60 + time.second) * 1000000 + time.micro

end ClockTime

/-- A number of minutes as messages show it: whole days, rounded down, and the seconds that are
left. -/
def shownDuration (minutes : Int) : Text :=
  let days := minutes.fdiv 1440
  let seconds := minutes.fmod 1440 * 60
  let parts := (if days ≠ 0 then ["days=".toList ++ intText days] else []) ++
    (if seconds ≠ 0 then ["seconds=".toList ++ intText seconds] else [])
  "datetime.timedelta(".toList ++ (if parts.isEmpty then ['0'] else commaList parts) ++ [')']

namespace Zone

def shown (zone : Zone) : Text :=
  "datetime.timezone(".toList ++ commaList [shownDuration zone.minutes, quoted zone.name] ++ [')']

def plain (zone : Zone) : Text :=
  let size := zone.minutes.natAbs
  (if zone.minutes < 0 then '-' else '+') :: paddedNat 2 (size / 60) ++ [':'] ++
    paddedNat 2 (size % 60)

end Zone

namespace DateTime

def shown (m : DateTime) : Text :=
  let zone := match m.zone? with
    | some zone => ["tzinfo=".toList ++ zone.shown]
    | none => []
  "datetime.datetime(".toList ++ commaList (m.date.shownParts ++ m.time.shownParts ++ zone) ++ [')']

def plain (m : DateTime) : Text :=
  m.date.plain ++ [' '] ++ m.time.plain ++ ((m.zone?.map Zone.plain).getD [])

/-- The number of microseconds since the start of the calendar, seen from where the clocks are. -/
def micros (m : DateTime) : Int := (m.date.ordinal * 86400000000 + m.time.micros : Nat)

/-- Whether two times are the same: the same instant if both have offsets, the same reading of the
clocks if none has. -/
def isSame (m n : DateTime) : Bool :=
  match m.zone?, n.zone? with
  | none, none => m.micros = n.micros
  | some y, some z => m.micros - y.minutes * 60000000 = n.micros - z.minutes * 60000000
  | _, _ => false

end DateTime
end GrammarKit
