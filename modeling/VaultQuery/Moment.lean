import VaultQuery.Number
import VaultQuery.Text.Digit

/-!
Calendar days and moments, written `2024-1-5`, `2024-01-05T9:30`, `2024-01-05T09:30:15` or
`2024-01-05T09:30:15.25`.
-/

namespace VaultQuery

/-- Whether a year has a day more in February. -/
def isLeapYear (year : Nat) : Bool :=
  year % 4 == 0 && (year % 100 != 0 || year % 400 == 0)

/-- The number of days of a month. -/
def daysInMonth (year month : Nat) : Nat :=
  if month == 2 then if isLeapYear year then 29 else 28
  else if month == 4 || month == 6 || month == 9 || month == 11 then 30
  else 31

/-- A day of the calendar, from year 1 to year 9999. -/
structure Date where
  year : Nat
  month : Nat
  day : Nat
  year_range : 1 ≤ year ∧ year ≤ 9999 := by decide
  month_range : 1 ≤ month ∧ month ≤ 12 := by decide
  day_range : 1 ≤ day ∧ day ≤ daysInMonth year month := by decide
deriving DecidableEq, Repr

/-- A time of the day, to the microsecond. -/
structure Clock where
  hour : Nat
  minute : Nat
  second : Nat
  micro : Nat
  hour_range : hour ≤ 23 := by decide
  minute_range : minute ≤ 59 := by decide
  second_range : second ≤ 59 := by decide
  micro_range : micro < 1000000 := by decide
deriving DecidableEq, Repr

/-- A day, or a time on a day. -/
inductive Moment where
  | day (date : Date)
  | instant (date : Date) (clock : Clock)
deriving DecidableEq, Repr

/-- Why a text is no moment. -/
inductive MomentFault where
  | malformed (text : String)
  | year (value : Nat)
  | month
  | day
  | hour
  | minute
  | second
deriving DecidableEq, Repr

/-- The message of a fault. -/
def MomentFault.message : MomentFault → String
  | .malformed text => "Invalid date literal: " ++ text
  | .year value => "year " ++ toString value ++ " is out of range"
  | .month => "month must be in 1..12"
  | .day => "day is out of range for month"
  | .hour => "hour must be in 0..23"
  | .minute => "minute must be in 0..59"
  | .second => "second must be in 0..59"

/-! ## The shape of a date in a text -/

/-- The runs of digits of a written moment. -/
structure MomentShape where
  year : List Char
  month : List Char
  day : List Char
  /-- Hour and minute. -/
  clock : Option (List Char × List Char) := none
  second : Option (List Char) := none
  fraction : Option (List Char) := none
deriving DecidableEq, Repr

namespace MomentShape

/-- Takes `least` to `most` digits off a text. -/
def takeDigits (least most : Nat) (cs : List Char) : Option (List Char × List Char) :=
  let ds := (cs.take most).takeWhile Text.isDigit
  if ds.length < least then none else some (ds, cs.drop ds.length)

/-- Takes one given character off a text. -/
def takeChar (c : Char) : List Char → Option (List Char)
  | [] => none
  | d :: cs => if d == c then some cs else none

/-- Takes year, month and day off a text. -/
def takeDay (cs : List Char) : Option (MomentShape × List Char) := do
  let (year, cs) ← takeDigits 4 4 cs
  let cs ← takeChar '-' cs
  let (month, cs) ← takeDigits 1 2 cs
  let cs ← takeChar '-' cs
  let (day, cs) ← takeDigits 1 2 cs
  return ({ year, month, day }, cs)

/-- Takes hour and minute off a text. -/
def takeClock (shape : MomentShape) (cs : List Char) : Option (MomentShape × List Char) := do
  let cs ← takeChar 'T' cs
  let (hour, cs) ← takeDigits 1 2 cs
  let cs ← takeChar ':' cs
  let (minute, cs) ← takeDigits 2 2 cs
  return ({ shape with clock := some (hour, minute) }, cs)

/-- Takes seconds off a text. -/
def takeSecond (shape : MomentShape) (cs : List Char) : Option (MomentShape × List Char) := do
  let cs ← takeChar ':' cs
  let (second, cs) ← takeDigits 2 2 cs
  return ({ shape with second := some second }, cs)

/-- Takes a fraction of a second off a text. -/
def takeFraction (shape : MomentShape) (cs : List Char) : Option (MomentShape × List Char) := do
  let cs ← takeChar '.' cs
  let (fraction, cs) ← takeDigits 1 cs.length cs
  return ({ shape with fraction := some fraction }, cs)

/-- Every way to read a moment at the start of a text, the longest first, each with the text that
is left. -/
def readings (cs : List Char) : List (MomentShape × List Char) :=
  match takeDay cs with
  | none => []
  | some day =>
    match takeClock day.1 day.2 with
    | none => [day]
    | some clock =>
      match takeSecond clock.1 clock.2 with
      | none => [clock, day]
      | some second => (takeFraction second.1 second.2).toList ++ [second, clock, day]

/-- The microseconds that a fraction spells; digits past the sixth are dropped. -/
def micros (fraction : List Char) : Nat :=
  let ds := fraction.take 6
  Text.decimalValue ds * Nat.pow 10 (6 - ds.length)

/-- The day that a shape names. -/
def toDate (shape : MomentShape) : Except MomentFault Date :=
  let year := Text.decimalValue shape.year
  let month := Text.decimalValue shape.month
  let day := Text.decimalValue shape.day
  if hy : 1 ≤ year ∧ year ≤ 9999 then
    if hm : 1 ≤ month ∧ month ≤ 12 then
      if hd : 1 ≤ day ∧ day ≤ daysInMonth year month then
        .ok ⟨year, month, day, hy, hm, hd⟩
      else .error .day
    else .error .month
  else .error (.year year)

/-- The time of the day with the given parts. -/
def toClock (hour minute second : Nat) (fraction : List Char) : Except MomentFault Clock :=
  if hh : hour ≤ 23 then
    if hm : minute ≤ 59 then
      if hs : second ≤ 59 then
        if hf : micros fraction < 1000000 then
          .ok ⟨hour, minute, second, micros fraction, hh, hm, hs, hf⟩
        else .error .second
      else .error .second
    else .error .minute
  else .error .hour

/-- The moment that a shape names; the parts are checked from the year to the second. -/
def toMoment (shape : MomentShape) : Except MomentFault Moment := do
  let date ← shape.toDate
  match shape.clock with
  | none => return .day date
  | some (hour, minute) =>
    let clock ← toClock (Text.decimalValue hour) (Text.decimalValue minute)
      (Text.decimalValue (shape.second.getD [])) (shape.fraction.getD [])
    return .instant date clock

end MomentShape

namespace Moment

/-- The number of characters of the moment at the start of a text.  A moment is not followed by a
word character or a point, so a longer reading gives way to a shorter one that is not. -/
def length? (cs : List Char) : Option Nat :=
  let stands (rest : List Char) : Bool :=
    match rest with
    | [] => true
    | c :: _ => !(Text.isWord c || c == '.')
  ((MomentShape.readings cs).find? fun r => stands r.2).map fun r => cs.length - r.2.length

/-- Reads a whole text as a moment; one line end may follow. -/
def read (s : String) : Except MomentFault Moment :=
  match (MomentShape.readings s.toList).find? fun r => r.2.isEmpty || r.2 == ['\n'] with
  | some (shape, _) => shape.toMoment
  | none => .error (.malformed s)

/-- A number with zeros in front up to the width. -/
def pad (width n : Nat) : String :=
  String.ofList (Binary64.padded width n)

/-- The text of a day. -/
def dateText (d : Date) : String :=
  pad 4 d.year ++ "-" ++ pad 2 d.month ++ "-" ++ pad 2 d.day

/-- The text of a time of the day; microseconds are written unless they are zero. -/
def clockText (t : Clock) : String :=
  let seconds := pad 2 t.hour ++ ":" ++ pad 2 t.minute ++ ":" ++ pad 2 t.second
  if t.micro = 0 then seconds else seconds ++ "." ++ pad 6 t.micro

/-- The text of a moment. -/
def text : Moment → String
  | .day d => dateText d
  | .instant d t => dateText d ++ "T" ++ clockText t

/-- A moment as it is shown: its parts, and further ones.  Of a time, parts after the minute that
are zero are left out from the end. -/
def shownParts (m : Moment) (more : List String) : String :=
  let parts (ns : List Nat) : String := String.intercalate ", " (ns.map toString ++ more)
  match m with
  | .day d => "datetime.date(" ++ parts [d.year, d.month, d.day] ++ ")"
  | .instant d t =>
    let tail :=
      if t.micro != 0 then [t.second, t.micro] else if t.second != 0 then [t.second] else []
    "datetime.datetime(" ++ parts ([d.year, d.month, d.day, t.hour, t.minute] ++ tail) ++ ")"

/-- A moment as it is shown. -/
def shown (m : Moment) : String :=
  m.shownParts []

end Moment

end VaultQuery
