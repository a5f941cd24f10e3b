import VaultQuery.Moment

/-!
Time stamps: moments that may come with their lead on universal time.
-/

namespace VaultQuery

/-- The number of days from the first day of year 1 to the first day of a year. -/
def daysBeforeYear (year : Nat) : Nat :=
  let y := year - 1
  365 * y + y / 4 - y / 100 + y / 400

/-- The place of a day in the calendar, counted from the first day of year 1. -/
def Date.ordinal (d : Date) : Nat :=
  let months := (List.range (d.month - 1)).map fun m => daysInMonth d.year (m + 1)
  daysBeforeYear d.year + months.foldr (· + ·) 0 + d.day

/-- A moment and, if it is given, its lead on universal time in minutes. -/
structure Stamp where
  moment : Moment
  lead? : Option Int := none
deriving DecidableEq, Repr

/-- Why a time stamp does not exist. -/
inductive StampFault where
  | moment (fault : MomentFault)
  /-- A lead of a day or more. -/
  | lead (minutes : Int)
deriving DecidableEq, Repr

/-- The minutes of a day. -/
def dayMinutes : Nat := 24 * 60

/-- A span of minutes as it is shown: days, which may be negative, and seconds, which are not. -/
def shownSpan (minutes : Int) : String :=
  let days := minutes.fdiv dayMinutes
  let seconds := minutes.fmod dayMinutes * 60
  let parts := (if days = 0 then [] else ["days=" ++ intText days]) ++
    (if seconds = 0 then [] else ["seconds=" ++ intText seconds])
  "datetime.timedelta(" ++ (if parts.isEmpty then "0" else String.intercalate ", " parts) ++ ")"

/-- The message of a fault. -/
def StampFault.message : StampFault → String
  | .moment fault => fault.message
  | .lead minutes =>
    "offset must be a timedelta strictly between -timedelta(hours=24) and timedelta(hours=24), not "
      ++ shownSpan minutes ++ "."

namespace Stamp

/-- The lead on universal time as it is shown. -/
def shownLead (minutes : Int) : String :=
  if minutes = 0 then "datetime.timezone.utc"
  else "datetime.timezone(" ++ shownSpan minutes ++ ")"

/-- A time stamp as it is shown: its parts, and its lead if it is given. -/
def shown (s : Stamp) : String :=
  match s.lead? with
  | none => Moment.shownParts s.moment []
  | some minutes => Moment.shownParts s.moment ["tzinfo=" ++ shownLead minutes]

/-- The lead on universal time in hours and minutes. -/
def leadText (minutes : Int) : String :=
  (if minutes < 0 then "-" else "+") ++ Moment.pad 2 (minutes.natAbs / 60) ++ ":" ++
    Moment.pad 2 (minutes.natAbs % 60)

/-- The text of a time stamp. -/
def text (s : Stamp) : String :=
  match s.moment with
  | .day d => Moment.dateText d
  | .instant d t =>
    Moment.dateText d ++ " " ++ Moment.clockText t ++ (s.lead?.map leadText).getD ""

/-- Minute, second and microsecond of a moment in universal time. -/
def instant (d : Date) (t : Clock) (lead : Int) : Int × Nat × Nat :=
  ((d.ordinal * dayMinutes + t.hour * 60 + t.minute : Nat) - lead, t.second, t.micro)

/-- Whether two time stamps are the same moment.  Where both leads are given, universal time
counts. -/
def same (a b : Stamp) : Bool :=
  match a.moment, a.lead?, b.moment, b.lead? with
  | .instant d t, some lead, .instant e u, some other => instant d t lead == instant e u other
  | m, none, n, none => m == n
  | _, _, _, _ => false

end Stamp

end VaultQuery
