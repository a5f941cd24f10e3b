import VaultQuery.Data

/-!
Checking data against a shape.  All the places where data have the wrong shape are reported, in the
order of the shape.
-/

namespace VaultQuery

/-- What is wrong with a piece of data. -/
inductive Mismatch where
  | notText | notList | notMap | notModel
  | missing
  | notChoice
  | notInt | notIntText | tooLong | notWhole | notFinite | notPositive
  | notBool | notBoolValue
deriving DecidableEq, Repr

/-- The name of a mismatch. -/
def Mismatch.name : Mismatch → String
  | .notText => "string_type"
  | .notList => "list_type"
  | .notMap => "dict_type"
  | .notModel => "model_type"
  | .missing => "missing"
  | .notChoice => "literal_error"
  | .notInt => "int_type"
  | .notIntText => "int_parsing"
  | .tooLong => "int_parsing_size"
  | .notWhole => "int_from_float"
  | .notFinite => "finite_number"
  | .notPositive => "greater_than"
  | .notBool => "bool_type"
  | .notBoolValue => "bool_parsing"

/-- A mismatch at a place in a document. -/
structure Misfit where
  path : List String
  mismatch : Mismatch
deriving DecidableEq, Repr

/-- A value, or all the places where data do not fit. -/
abbrev Checked (α : Type) : Type := Except (List Misfit) α

namespace Checked

/-- A single misfit. -/
def fail {α : Type} (mismatch : Mismatch) : Checked α :=
  .error [⟨[], mismatch⟩]

/-- The same result one step further down. -/
def at_ {α : Type} (step : String) (r : Checked α) : Checked α :=
  r.mapError fun ms => ms.map fun m => { m with path := step :: m.path }

/-- Applies one result to another; the misfits of both are kept. -/
def ap {α β : Type} (f : Checked (α → β)) (x : Checked α) : Checked β :=
  match f, x with
  | .ok f, .ok x => .ok (f x)
  | .ok _, .error ms => .error ms
  | .error ms, .ok _ => .error ms
  | .error ms, .error ns => .error (ms ++ ns)

/-- The results of a list; the misfits of all are kept. -/
def all {α : Type} : List (Checked α) → Checked (List α)
  | [] => .ok []
  | r :: rs => ap (ap (.ok List.cons) r) (all rs)

end Checked

namespace Data

/-- A text. -/
def asText : Data → Checked String
  | .text s => .ok s
  | _ => .fail .notText

/-- The digits of an integer without the zeros in front and the low lines among them; of zeros and
low lines alone, the last character is left. -/
def withoutLeadingZeros : List Char → List Char
  | [] => []
  | [c] => [c]
  | c :: d :: cs =>
    if c == '0' || c == '_' then withoutLeadingZeros (d :: cs) else c :: d :: cs

/-- The text of an integer without a point and zeros after it; none if something else follows the
point. -/
def wholePart? (cs : List Char) : Option (List Char) :=
  let whole := cs.takeWhile (· != '.')
  match cs.drop whole.length with
  | [] => some whole
  | _ :: fraction =>
    if fraction.all (· == '0') && !fraction.isEmpty then some whole else none

/-- The sign and the digits of an integer in a text: blanks may stand around it, single low lines
between digits, and a point with zeros after it. -/
def intDigits? (s : String) : Option (Bool × List Char) := do
  let (negative, cs) := Numeral.sign (Numeral.bare s.toList)
  let whole ← wholePart? cs
  if !(whole.head?.any Char.isDigit) then none
  let rest := if whole.head? == some '0' then withoutLeadingZeros whole else whole
  if !(rest.all fun c => c.isDigit || c == '_') then none
  let ds ← Numeral.digits? false rest
  return (negative, ds)

/-- An integer from a text. -/
def intOfText (s : String) : Checked Int :=
  match intDigits? s with
  | none => .fail .notIntText
  | some (negative, ds) =>
    if digitLimit < ds.length then .fail .tooLong else .ok (Numeral.signed negative ds)

/-- The first integer beyond those of 64 bits, `2 ^ 63`. -/
def wordEnd : Int := 0x8000000000000000

/-- Whether an integer lies strictly between the ends of the integers of 64 bits. -/
def isWord (n : Int) : Bool :=
  -wordEnd < n && n < wordEnd

/-- An integer from a real number: it has no fraction and is a word. -/
def intOfReal (x : Binary64) : Checked Int :=
  match x.toInt? with
  | some n => if isWord n then .ok n else .fail .tooLong
  | none => .fail (if x.isFinite then .notWhole else .notFinite)

/-- An integer, or what counts as one: a truth value, a real without a fraction, a numeral. -/
def asInt : Data → Checked Int
  | .int n => .ok n
  | .bool b => .ok (if b then 1 else 0)
  | .real x => intOfReal x
  | .text s => intOfText s
  | _ => .fail .notInt

/-- A positive integer. -/
def asPositive (d : Data) : Checked Nat :=
  match d.asInt with
  | .ok n => if 0 < n then .ok n.toNat else .fail .notPositive
  | .error ms => .error ms

/-- The truth value that a word spells, in any case. -/
def boolOfText? (s : String) : Option Bool :=
  let w := String.ofList (s.toList.map Char.toLower)
  if ["1", "on", "t", "true", "y", "yes"].contains w then some true
  else if ["0", "off", "f", "false", "n", "no"].contains w then some false
  else none

/-- A truth value from a number: zero or one.  Other integers of 64 bits are refused for their
value, and all other numbers for their kind. -/
def boolOfNumber (isInRange : Bool) (n : Option Int) : Checked Bool :=
  match n with
  | some n =>
    if !isInRange then .fail .notBool
    else if n = 0 then .ok false
    else if n = 1 then .ok true
    else .fail .notBoolValue
  | none => .fail .notBool

/-- A truth value, or what counts as one: zero, one, a word. -/
def asBool : Data → Checked Bool
  | .bool b => .ok b
  | .int n => boolOfNumber (-wordEnd ≤ n && n < wordEnd) (some n)
  | .real x => boolOfNumber (x.toInt?.any isWord) x.toInt?
  | .text s =>
    match boolOfText? s with
    | some b => .ok b
    | none => .fail .notBoolValue
  | _ => .fail .notBool

/-- A list whose items are checked one by one. -/
def asList {α : Type} (item : Data → Checked α) : Data → Checked (List α)
  | .list xs =>
    Checked.all ((List.range xs.length).zipWith (fun i x => (item x).at_ (toString i)) xs)
  | _ => .fail .notList

/-- A value that may be missing; a null counts as missing. -/
def optional {α : Type} (check : Data → Checked α) : Option Data → Checked (Option α)
  | none => .ok none
  | some .null => .ok none
  | some d => (check d).map some

/-- A value that may be left out. -/
def orDefault {α : Type} (default : α) (check : Data → Checked α) : Option Data → Checked α
  | none => .ok default
  | some d => check d

/-- One entry of a map from texts to texts. -/
def textEntry (e : Key × Data) : Checked (String × String) :=
  let key : Checked String :=
    match e.1 with
    | .text s => .ok s
    | _ => (Checked.fail .notText).at_ "[key]"
  Checked.at_ e.1.label (Checked.ap (Checked.ap (.ok Prod.mk) key) e.2.asText)

/-- A map from texts to texts. -/
def asTextMap : Data → Checked (List (String × String))
  | .map entries => Checked.all (entries.map textEntry)
  | _ => .fail .notMap

end Data

end VaultQuery
