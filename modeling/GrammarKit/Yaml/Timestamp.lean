import GrammarKit.Yaml.Scalar

/-!
# Dates and times in YAML

The day or the time that a text writes. The seconds of a time may have a fraction, which is rounded
to microseconds, and behind it may stand by how much the clocks are ahead of universal time.
-/

namespace GrammarKit.Yaml

open Regex Text

/-- The parts of a date or a time: year, month and day; hour, minute, second and the digits behind
the point; the offset from universal time with its sign, hours and minutes. -/
def timestampParts : String :=
  "([0-9][0-9][0-9][0-9])-([0-9][0-9]?)-([0-9][0-9]?)(?:(?:[Tt]|[ \\t]+)" ++
    "([0-9][0-9]?):([0-9][0-9]):([0-9][0-9])(?:\\.([0-9]*))?" ++
    "(?:[ \\t]*(Z|([-+])([0-9][0-9]?)(?::([0-9][0-9]))?))?)?"

def dateOf (year month day : Nat) : Except Error Date :=
  if year = 0 then .error (.outOfRange .year)
  else if month = 0 ∨ 12 < month then .error (.outOfRange .month)
  else if day = 0 ∨ daysIn year month < day then .error (.outOfRange .day)
  else .ok ⟨year, month, day⟩

def timeOf (hour minute second micro : Nat) : Except Error ClockTime :=
  if 23 < hour then .error (.outOfRange .hour)
  else if 59 < minute then .error (.outOfRange .minute)
  else if 59 < second then .error (.outOfRange .second)
  else .ok ⟨hour, minute, second, micro⟩

/-- Millionths of a second, rounded to the nearest; a million of them if that is nearest. -/
def microOf (digits : Text) : Nat :=
  let six := Numeral.ofDigits 10 ((digits ++ List.replicate 6 '0').take 6)
  let next := (digits[6]?.map Numeral.digitValue).getD 0
  if next ≤ 4 then six else six + 1

def zoneOf (name : Text) (minutes : Int) : Except Error Zone :=
  if minutes.natAbs < 1440 then .ok ⟨minutes, name⟩ else .error (.wideOffset minutes)

def secondLater (m : DateTime) : Except Error DateTime :=
  let t := m.time
  if t.second < 59 then .ok { m with time := { t with second := t.second + 1 } }
  else if t.minute < 59 then .ok { m with time := ⟨t.hour, t.minute + 1, 0, t.micro⟩ }
  else if t.hour < 23 then .ok { m with time := ⟨t.hour + 1, 0, 0, t.micro⟩ }
  else match m.date.next? with
    | some date => .ok { m with date, time := ⟨0, 0, 0, t.micro⟩ }
    | none => .error .lateDate

def timestampOf (t : Text) : Except Error Value := do
  match matchWhole? timestampParts (withoutLastBreak t) with
  | none => throw .malformed
  | some m =>
    let digits := fun n => (m.group? n).getD []
    let number := fun n => Numeral.ofDigits 10 (digits n)
    let date := dateOf (number 1) (number 2) (number 3)
    if (m.group? 4).isNone then return .date (← date)
    let minutes : Int := number 10 * 60 + number 11
    let zone? ← match m.group? 8 with
      | some name => some <$> zoneOf name (if digits 9 = ['-'] then -minutes else minutes)
      | none => pure none
    let micro := microOf (digits 7)
    let whole := micro = 1000000
    let d ← date
    let time ← timeOf (number 4) (number 5) (number 6) (if whole then 0 else micro)
    if whole then return .dateTime (← secondLater ⟨d, time, zone?⟩)
    else return .dateTime ⟨d, time, zone?⟩

end GrammarKit.Yaml
