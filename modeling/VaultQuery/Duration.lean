import VaultQuery.Number
import VaultQuery.Text.Case

/-!
Durations: an amount of a time unit, such as `7 days`, and the spellings of the units.
-/

namespace VaultQuery

/-- A unit of time.  The query language has eight; a duration that is built and not read may name
another. -/
inductive TimeUnit where
  | year | month | week | day | hour | minute | second | millisecond
  | other (name : String)
deriving DecidableEq, Repr

namespace TimeUnit

/-- The units of the query language. -/
def standard : List TimeUnit :=
  [.year, .month, .week, .day, .hour, .minute, .second, .millisecond]

/-- The singular name of a unit. -/
def name : TimeUnit → String
  | .year => "year"
  | .month => "month"
  | .week => "week"
  | .day => "day"
  | .hour => "hour"
  | .minute => "minute"
  | .second => "second"
  | .millisecond => "millisecond"
  | .other name => name

/-- The lower-case spellings of a unit. -/
def spellings : TimeUnit → List String
  | .year => ["y", "yr", "yrs", "year", "years"]
  | .month => ["mo", "month", "months"]
  | .week => ["w", "wk", "wks", "week", "weeks"]
  | .day => ["d", "day", "days"]
  | .hour => ["h", "hr", "hrs", "hour", "hours"]
  | .minute => ["m", "min", "mins", "minute", "minutes"]
  | .second => ["s", "sec", "secs", "second", "seconds"]
  | .millisecond => ["ms", "millisecond", "milliseconds"]
  | .other _ => []

/-- The unit that a word spells, in any case. -/
def ofSpelling? (word : String) : Option TimeUnit :=
  let w := Text.lowerCase word
  standard.find? fun u => u.spellings.contains w

/-- The unit with a given name. -/
def ofName (name : String) : TimeUnit :=
  (standard.find? fun u => u.name == name).getD (.other name)

end TimeUnit

/-- An amount of a unit of time. -/
structure Duration where
  amount : Number
  unit : TimeUnit
deriving DecidableEq, Repr

namespace Duration

/-- The duration in the other direction. -/
def neg (d : Duration) : Duration :=
  { d with amount := d.amount.neg }

/-- The duration as it is written: weeks count as seven days, and a real amount without a fraction
is an integer. -/
def normal (d : Duration) : Duration :=
  if d.unit = .week then ⟨(d.amount.scale 7).settle, .day⟩ else ⟨d.amount.settle, d.unit⟩

/-- Whether the amount is one or minus one. -/
def isSingular (d : Duration) : Bool :=
  d.amount == .int 1 || d.amount == .int (-1)

/-- Whether the amount to be written has too many digits. -/
def isOverlong (d : Duration) : Bool :=
  d.normal.amount.isOverlong

/-- The text of a duration, such as `7 days` or `-1 day`. -/
def text (d : Duration) : String :=
  let n := d.normal
  let words := n.amount.text ++ " " ++ n.unit.name
  if n.isSingular then words else words ++ "s"

/-- The text of a duration, unless its amount is too long to be written. -/
def write (d : Duration) : Except NumeralFault String :=
  if d.isOverlong then .error .tooLongToWrite else .ok d.text

/-- The numeral and the word of a text such as `" 1.5 hrs "`. -/
def split? (cs : List Char) : Option (String × String) :=
  let cs := cs.dropWhile Text.isBlank
  let (sign, cs) := match cs with
    | '-' :: cs => (['-'], cs)
    | cs => ([], cs)
  let whole := cs.takeWhile Text.isDigit
  let cs := cs.drop whole.length
  let fraction := match cs with
    | '.' :: rest => (rest.takeWhile Text.isDigit)
    | _ => []
  let point := if fraction.isEmpty then [] else '.' :: fraction
  let cs := (cs.drop point.length).dropWhile Text.isBlank
  let word := cs.takeWhile Char.isAlpha
  if whole.isEmpty || word.isEmpty || !(cs.drop word.length).all Text.isBlank then none
  else some (String.ofList (sign ++ whole ++ point), String.ofList word)

/-- The numeral and the unit of a text that spells a duration. -/
def spelled? (s : String) : Option (String × TimeUnit) := do
  let (numeral, word) ← split? s.toList
  let unit ← TimeUnit.ofSpelling? word
  return (numeral, unit)

end Duration

end VaultQuery
