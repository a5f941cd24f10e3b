import VaultQuery.Number.Shortest
import VaultQuery.Text.Blank
import VaultQuery.Text.Digit
import VaultQuery.Text.Quoted

/-!
Numbers of the query language: integers of any size and binary reals, their texts, and the reading
of numerals.  An integer of more than `digitLimit` digits is neither read nor written.
-/

namespace VaultQuery

/-- An integer or a real number; the two are kept apart. -/
inductive Number where
  | int (value : Int)
  | real (value : Binary64)
deriving DecidableEq, Repr

/-- The largest number of digits of an integer that is read or written. -/
def digitLimit : Nat := 4300

/-- The largest number of characters that a message shows of what should be an integer. -/
def shownLength : Nat := 200

/-- Why a numeral has no value, or a value no numeral. -/
inductive NumeralFault where
  | tooManyDigits (count : Nat)
  | tooLongToWrite
  | notAnInteger (base : Nat) (numeral : String)
  | notAReal (numeral : String)
deriving DecidableEq, Repr

/-- The message of a fault. -/
def NumeralFault.message : NumeralFault → String
  | .tooManyDigits count =>
    "Exceeds the limit (" ++ toString digitLimit ++ " digits) for integer string conversion: "
      ++ "value has " ++ toString count
      ++ " digits; use sys.set_int_max_str_digits() to increase the limit"
  | .tooLongToWrite =>
    "Exceeds the limit (" ++ toString digitLimit ++ " digits) for integer string conversion; "
      ++ "use sys.set_int_max_str_digits() to increase the limit"
  | .notAnInteger base numeral =>
    "invalid literal for int() with base " ++ toString base ++ ": "
      ++ String.ofList ((Text.shown numeral).toList.take shownLength)
  | .notAReal numeral => "could not convert string to float: " ++ Text.shown numeral

/-- The text of an integer. -/
def intText (n : Int) : String :=
  let ds := String.ofList (Nat.toDigits 10 n.natAbs)
  if n < 0 then "-" ++ ds else ds

namespace Number

/-- The text of a number. -/
def text : Number → String
  | .int n => intText n
  | .real x => x.text

/-- The number under the other sign. -/
def neg : Number → Number
  | .int n => .int (-n)
  | .real x => .real x.neg

/-- The product with a natural number. -/
def scale (factor : Nat) : Number → Number
  | .int n => .int (n * factor)
  | .real x => .real (x.scale factor)

/-- A real number without a fraction as an integer; any other number as it is. -/
def settle : Number → Number
  | .int n => .int n
  | .real x => match x.toInt? with
    | some n => .int n
    | none => .real x

/-- Whether a number is an integer that is too long to be written. -/
def isOverlong : Number → Bool
  | .int n => digitLimit < (Nat.toDigits 10 n.natAbs).length
  | .real _ => false

end Number

/-! ## Numerals -/

namespace Numeral

/-- A blank that may stand around a numeral; the separators among the controls may not. -/
def isBlank (c : Char) : Bool :=
  Text.isBlank c && !(0x1C ≤ c.toNat && c.toNat ≤ 0x1F)

/-- A numeral without the blanks around it. -/
def bare (cs : List Char) : List Char :=
  Text.dropEndWhile isBlank (cs.dropWhile isBlank)

/-- The sign of a numeral and what follows it. -/
def sign : List Char → Bool × List Char
  | '-' :: cs => (true, cs)
  | '+' :: cs => (false, cs)
  | cs => (false, cs)

/-- The digits of a run in which single low lines may stand between two digits. -/
def digits? (afterDigit : Bool) : List Char → Option (List Char)
  | [] => if afterDigit then some [] else none
  | c :: cs =>
    if Text.isDigit c then (digits? true cs).map (c :: ·)
    else if c == '_' && afterDigit then digits? false cs
    else none

/-- The digits of a run that may be empty. -/
def digitsOrNone? (cs : List Char) : Option (List Char) :=
  if cs.isEmpty then some [] else digits? false cs

/-- The value of a signed run of digits. -/
def signed (negative : Bool) (ds : List Char) : Int :=
  if negative then -(Text.decimalValue ds : Int) else Text.decimalValue ds

/-- Reads an integer: blanks around it, a sign, and digits.  The number of digits is looked at
before what follows them. -/
def readInt (s : String) : Except NumeralFault Int :=
  let (negative, cs) := sign (bare s.toList)
  let run := cs.takeWhile fun c => Text.isDigit c || c == '_'
  match digits? false run with
  | none => .error (.notAnInteger 10 s)
  | some ds =>
    if digitLimit < ds.length then .error (.tooManyDigits ds.length)
    else if run.length < cs.length then .error (.notAnInteger 10 s)
    else .ok (signed negative ds)

/-- The exponent of a numeral: nothing, or `e` with a signed run of digits. -/
def exponent? : List Char → Option Int
  | [] => some 0
  | c :: cs =>
    if c == 'e' || c == 'E' then
      let (negative, ds) := sign cs
      (digits? false ds).map (signed negative)
    else none

/-- The name of a real that no digits spell. -/
def special? (negative : Bool) (cs : List Char) : Option Binary64 :=
  let name := String.ofList (cs.map Char.toLower)
  if name == "inf" || name == "infinity" then
    some (Binary64.ofMagnitude negative Binary64.infinityBits)
  else if name == "nan" then
    some (Binary64.ofMagnitude negative Binary64.nanBits)
  else none

/-- Reads the digits, the fraction and the exponent of a real without its sign. -/
def unsignedReal? (negative : Bool) (cs : List Char) : Option Binary64 := do
  let isMark (c : Char) : Bool := c == 'e' || c == 'E'
  let body := cs.takeWhile (!isMark ·)
  let whole := body.takeWhile (· != '.')
  let fraction := (body.dropWhile (· != '.')).drop 1
  let ws ← digitsOrNone? whole
  let fs ← digitsOrNone? fraction
  if ws.isEmpty && fs.isEmpty then none
  let e ← exponent? (cs.dropWhile (!isMark ·))
  return Binary64.ofDecimal negative (Text.decimalValue (ws ++ fs)) (e - fs.length)

/-- Reads a real number: blanks around it, a sign, digits with a point, and an exponent. -/
def readReal? (s : String) : Option Binary64 :=
  let (negative, cs) := sign (bare s.toList)
  (special? negative cs).or (unsignedReal? negative cs)

/-- Reads a numeral: with a point it is a real number, else an integer. -/
def read (s : String) : Except NumeralFault Number :=
  if s.toList.contains '.' then
    match readReal? s with
    | some x => .ok (.real x)
    | none => .error (.notAReal s)
  else (readInt s).map .int

end Numeral

end VaultQuery
