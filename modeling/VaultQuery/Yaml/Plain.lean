import VaultQuery.Data
import VaultQuery.Yaml.Fault

/-!
What a plain scalar of YAML means.  A scalar without quotes is a text unless it has the form of a
truth value, a number, a time stamp, a null or one of a few marks.
-/

namespace VaultQuery.Yaml

/-! ## Forms -/

/-- The words for true. -/
def trueWords : List String :=
  ["yes", "Yes", "YES", "true", "True", "TRUE", "on", "On", "ON"]

/-- The words for false. -/
def falseWords : List String :=
  ["no", "No", "NO", "false", "False", "FALSE", "off", "Off", "OFF"]

/-- The words for null, of which one is empty. -/
def nullWords : List String :=
  ["", "~", "null", "Null", "NULL"]

/-- Scalars that are marks and no texts. -/
def marks : List String :=
  ["<<", "=", "!", "&", "*"]

/-- A digit of a run in which low lines may stand. -/
def isRunDigit (c : Char) : Bool :=
  c.isDigit || c == '_'

/-- One or more digits and low lines, the first of which is a digit. -/
def isRun : List Char → Bool
  | [] => false
  | c :: cs => c.isDigit && cs.all isRunDigit

/-- A run that does not start with zero. -/
def isCountingRun (cs : List Char) : Bool :=
  isRun cs && cs.head? != some '0'

/-- A part of a number to the base sixty: one digit, or two of which the first is below six. -/
def isSixtieth : List Char → Bool
  | [c] => c.isDigit
  | [c, d] => '0' ≤ c && c ≤ '5' && d.isDigit
  | _ => false

/-- Parts with colons between them, the first satisfying `first` and the others sixtieths. -/
def isSexagesimal (first : List Char → Bool) (cs : List Char) : Bool :=
  match Text.cutAt ':' cs with
  | whole :: part :: parts => first whole && (part :: parts).all isSixtieth
  | _ => false

/-- The text after a sign, if there is one. -/
def unsigned : List Char → List Char
  | '+' :: cs => cs
  | '-' :: cs => cs
  | cs => cs

/-- A letter or digit of a number to the base sixteen. -/
def isHexDigit (c : Char) : Bool :=
  c.isDigit || ('a' ≤ c && c ≤ 'f') || ('A' ≤ c && c ≤ 'F')

/-- One or more characters of a class, low lines included. -/
def isFilled (p : Char → Bool) (cs : List Char) : Bool :=
  !cs.isEmpty && cs.all fun c => p c || c == '_'

/-- The form of an integer. -/
def isIntForm (s : List Char) : Bool :=
  let cs := unsigned s
  match cs with
  | ['0'] => true
  | '0' :: 'b' :: ds => isFilled (fun c => c == '0' || c == '1') ds
  | '0' :: 'x' :: ds => isFilled isHexDigit ds
  | '0' :: ds => isFilled (fun c => '0' ≤ c && c ≤ '7') ds
  | _ => isCountingRun cs || isSexagesimal isCountingRun cs

/-- Nothing, or an exponent with a sign. -/
def isExponent : List Char → Bool
  | [] => true
  | e :: s :: ds =>
    (e == 'e' || e == 'E') && (s == '-' || s == '+') && !ds.isEmpty && ds.all Char.isDigit
  | _ => false

/-- A fraction, which may be empty, with an exponent. -/
def isFraction (cs : List Char) : Bool :=
  isExponent (cs.dropWhile isRunDigit)

/-- The form of a real number. -/
def isRealForm (s : List Char) : Bool :=
  let cs := unsigned s
  let whole := cs.takeWhile (· != '.')
  let rest := cs.drop whole.length
  match rest with
  | [] => false
  | _ :: fraction =>
    (isRun whole && isFraction fraction) ||
    (isSexagesimal isRun whole && fraction.all isRunDigit) ||
    (s.head? == some '.' && isRun (fraction.takeWhile isRunDigit) && isFraction fraction) ||
    (whole.isEmpty && ["inf", "Inf", "INF"].contains (String.ofList fraction)) ||
    (s.head? == some '.' && ["nan", "NaN", "NAN"].contains (String.ofList fraction))

/-- Takes `least` to `most` digits off a text. -/
def digitRun? (least most : Nat) (cs : List Char) : Option (List Char × List Char) :=
  let ds := (cs.take most).takeWhile Char.isDigit
  if ds.length < least then none else some (ds, cs.drop ds.length)

/-- What is left of a text after a character of a class. -/
def afterChar? (p : Char → Bool) : List Char → Option (List Char)
  | [] => none
  | c :: cs => if p c then some cs else none

/-- A blank inside a line. -/
def isInlineBlank (c : Char) : Bool :=
  c == ' ' || c == '\t'

/-- What stands at the end of a time stamp: nothing, the sign of universal time, or the lead on it
in hours and minutes. -/
inductive Zone where
  | unknown
  | universal
  | lead (negative : Bool) (hours minutes : List Char)
deriving DecidableEq, Repr

/-- Reads the end of a time stamp. -/
def zone? (cs : List Char) : Option Zone :=
  match cs.dropWhile isInlineBlank with
  | [] => if cs.isEmpty then some .unknown else none
  | ['Z'] => some .universal
  | c :: rest =>
    if c == '-' || c == '+' then
      match digitRun? 1 2 rest with
      | some (hours, []) => some (.lead (c == '-') hours [])
      | some (hours, ':' :: rest) =>
        match digitRun? 2 2 rest with
        | some (minutes, []) => some (.lead (c == '-') hours minutes)
        | _ => none
      | _ => none
    else none

/-- The form of a time stamp: its digits and its end. -/
structure StampForm where
  shape : MomentShape
  zone : Zone := .unknown
deriving DecidableEq, Repr

/-- Reads the form of a day. -/
def dayForm? (cs : List Char) : Option StampForm := do
  let (year, cs) ← digitRun? 4 4 cs
  let cs ← afterChar? (· == '-') cs
  let (month, cs) ← digitRun? 2 2 cs
  let cs ← afterChar? (· == '-') cs
  let (day, cs) ← digitRun? 2 2 cs
  if cs.isEmpty then some { shape := { year, month, day } } else none

/-- Reads the form of a time on a day. -/
def timeForm? (cs : List Char) : Option StampForm := do
  let (year, cs) ← digitRun? 4 4 cs
  let cs ← afterChar? (· == '-') cs
  let (month, cs) ← digitRun? 1 2 cs
  let cs ← afterChar? (· == '-') cs
  let (day, cs) ← digitRun? 1 2 cs
  let cs ←
    match cs with
    | 'T' :: cs => some cs
    | 't' :: cs => some cs
    | cs => (afterChar? isInlineBlank cs).map (List.dropWhile isInlineBlank)
  let (hour, cs) ← digitRun? 1 2 cs
  let cs ← afterChar? (· == ':') cs
  let (minute, cs) ← digitRun? 2 2 cs
  let cs ← afterChar? (· == ':') cs
  let (second, cs) ← digitRun? 2 2 cs
  let (fraction, cs) :=
    match cs with
    | '.' :: cs => (cs.takeWhile Char.isDigit, cs.dropWhile Char.isDigit)
    | cs => ([], cs)
  let zone ← zone? cs
  return { shape := { year, month, day, clock := some (hour, minute), second, fraction }, zone }

/-- Reads the form of a day or of a time on a day. -/
def stampForm? (cs : List Char) : Option StampForm :=
  (dayForm? cs).or (timeForm? cs)

/-- Whether a plain scalar would not be read as a text. -/
def isReserved (cs : List Char) : Bool :=
  let s := String.ofList cs
  nullWords.contains s || trueWords.contains s || falseWords.contains s || marks.contains s ||
    isIntForm cs || isRealForm cs || (stampForm? cs).isSome

/-! ## Values -/

/-- The value of a digit to a base up to sixteen. -/
def digitOf (c : Char) : Nat :=
  if c.isDigit then c.toNat - 0x30
  else if 'a' ≤ c && c ≤ 'f' then c.toNat - 0x61 + 10
  else c.toNat - 0x41 + 10

/-- The number that digits spell to a base. -/
def toBase (base : Nat) (cs : List Char) : Nat :=
  cs.foldl (fun n c => base * n + digitOf c) 0

/-- The number that digits spell to the base ten, unless there are too many of them. -/
def decimal (ds : List Char) : Except Fault Nat :=
  if digitLimit < ds.length then .error (.numeral (.tooManyDigits ds.length))
  else .ok (toBase 10 ds)

/-- The number that digits spell to a base that is a power of two; there has to be a digit. -/
def powerOfTwo (base : Nat) (ds : List Char) : Except Fault Nat :=
  if ds.isEmpty then .error (.numeral (.notAnInteger base "")) else .ok (toBase base ds)

/-- The value of a scalar in the form of an integer.  Low lines do not count. -/
def intValue (s : List Char) : Except Fault Int := do
  let cs := (unsigned s).filter (· != '_')
  let n ←
    match cs with
    | '0' :: 'b' :: ds => powerOfTwo 2 ds
    | '0' :: 'x' :: ds => powerOfTwo 16 ds
    | '0' :: ds => powerOfTwo 8 ('0' :: ds)
    | _ => do
      let parts ← (Text.cutAt ':' cs).mapM decimal
      pure (parts.foldl (fun n p => 60 * n + p) 0)
  return if s.head? == some '-' then -(n : Int) else n

/-- The real number that parts spell to the base sixty, the part of least weight first; `weight` is
the worth of that part. -/
def sexagesimal (weight : Nat) (sum : Binary64) : List (List Char) → Except Fault Binary64
  | [] => .ok sum
  | part :: parts =>
    let factor := Binary64.ofInt weight
    if factor.isFinite then
      let digit := (Numeral.unsignedReal? false part).getD ⟨0⟩
      sexagesimal (60 * weight) (sum.add (digit.mul factor)) parts
    else .error .tooLarge

/-- The value of a scalar in the form of a real number.  Low lines do not count. -/
def realValue (s : List Char) : Except Fault Binary64 :=
  let negative := s.head? == some '-'
  let cs := (unsigned s).filter (· != '_')
  match cs with
  | '.' :: 'i' :: _ => .ok (Binary64.ofMagnitude negative Binary64.infinityBits)
  | '.' :: 'I' :: _ => .ok (Binary64.ofMagnitude negative Binary64.infinityBits)
  | '.' :: 'n' :: _ => .ok (Binary64.ofMagnitude false Binary64.nanBits)
  | '.' :: 'N' :: _ => .ok (Binary64.ofMagnitude false Binary64.nanBits)
  | _ =>
    if cs.contains ':' then do
      let x ← sexagesimal 1 ⟨0⟩ (Text.cutAt ':' cs).reverse
      return if negative then x.neg else x
    else .ok ((Numeral.unsignedReal? negative cs).getD ⟨0⟩)

/-- The lead on universal time in minutes; it has to be less than a day. -/
def Zone.minutes : Zone → Except Fault (Option Int)
  | .unknown => .ok none
  | .universal => .ok (some 0)
  | .lead negative hours minutes =>
    let n := 60 * toBase 10 hours + toBase 10 minutes
    let lead : Int := if negative then -(n : Int) else n
    if n < dayMinutes then .ok (some lead) else .error (.stamp (.lead lead))

/-- The value of a scalar in the form of a time stamp. -/
def StampForm.value (f : StampForm) : Except Fault Stamp := do
  let lead? ← f.zone.minutes
  let moment ← f.shape.toMoment.mapError fun e => .stamp (.moment e)
  return { moment, lead? }

/-- The data that a plain scalar stands for. -/
def resolve (cs : List Char) : Except Fault Data :=
  let s := String.ofList cs
  if nullWords.contains s then .ok .null
  else if trueWords.contains s then .ok (.bool true)
  else if falseWords.contains s then .ok (.bool false)
  else if isIntForm cs then (intValue cs).map .int
  else if isRealForm cs then (realValue cs).map .real
  else match stampForm? cs with
    | some f => f.value.map .stamp
    | none => .ok (.text s)

end VaultQuery.Yaml
