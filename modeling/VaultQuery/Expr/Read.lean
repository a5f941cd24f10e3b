import VaultQuery.Clause
import VaultQuery.Expr

/-!
Reading expressions.  From the loosest to the tightest: logical operators, comparisons, sums,
products, negation and sign, access to parts, primaries.  All binary operators group to the left.
The depth of nesting is bounded: each bracket, call, negation or sign goes one level further in.
-/

namespace VaultQuery.Expr

/-! ## Operators -/

/-- Logical operators. -/
def logical? : Token.Kind → Option BinOp
  | .and => some .and
  | .or => some .or
  | _ => none

/-- Comparisons. -/
def comparison? : Token.Kind → Option BinOp
  | .eq => some .eq
  | .ne => some .ne
  | .lt => some .lt
  | .gt => some .gt
  | .le => some .le
  | .ge => some .ge
  | _ => none

/-- Sums. -/
def additive? : Token.Kind → Option BinOp
  | .plus => some .add
  | .minus => some .sub
  | _ => none

/-- Products. -/
def multiplicative? : Token.Kind → Option BinOp
  | .star => some .mul
  | .slash => some .div
  | .percent => some .rem
  | _ => none

/-! ## One level of nesting -/

/-- The readers that a nested construct calls, one level further in. -/
structure Inner where
  expression : Reader Expr
  unary : Reader Expr

/-- Goes one level further in, unless no level is left. -/
def enter {α : Type} (c : Clause) (inner : Option Inner) (body : Inner → Reader α) : Reader α :=
  fun ts => match inner with
    | none => .error (c.tooNested ts)
    | some i => body i ts

/-- Whether `[-] number unit` comes next, as the argument of a call of `dur`. -/
def atDuration : List Token → Bool
  | a :: b :: ts =>
    let amountAndUnit (n u : Token) : Bool :=
      n.kind == .number && u.kind == .identifier && (TimeUnit.ofSpelling? u.text).isSome
    if a.kind == .minus then
      match ts with
      | u :: _ => amountAndUnit b u
      | [] => false
    else amountAndUnit a b
  | _ => false

/-- Reads the amount and the unit of a duration. -/
def amountAndUnit (negative : Bool) : Reader Duration
  | n :: u :: ts => do
    let amount ← (Numeral.read n.text).mapError .numeral
    let unit := (TimeUnit.ofSpelling? u.text).getD (.other u.text)
    return (⟨if negative then amount.neg else amount, unit⟩, ts)
  | ts => .ok (⟨.int 0, .day⟩, ts)

/-- Reads a duration that is known to come next. -/
def duration : Reader Duration
  | [] => amountAndUnit false []
  | t :: ts => if t.kind = .minus then amountAndUnit true ts else amountAndUnit false (t :: ts)

/-- The arguments of a call, up to the closing parenthesis. -/
def arguments (name : String) (i : Inner) : Reader (List Expr) := fun ts =>
  if ts.head?.any (·.kind == .parenClose) then .ok ([], ts)
  else if Text.lowerCase name == "dur" && atDuration ts then do
    let (d, ts) ← duration ts
    return ([.literal (.duration d)], ts)
  else Reader.items i.expression ts

/-- A call, after its opening parenthesis. -/
def callTail (c : Clause) (inner : Option Inner) (name : String) : Reader Expr := fun ts => do
  let (args, ts) ← enter c inner (arguments name) ts
  let (_, ts) ← Reader.expect c .parenClose .argumentsNotClosed ts
  return (.call name args, ts)

/-- The items of a list, up to the closing bracket. -/
def listItems (i : Inner) : Reader (List Expr) := fun ts =>
  if ts.head?.any (·.kind == .bracketClose) then .ok ([], ts)
  else Reader.items i.expression ts

/-- Literals, variables, calls, expressions in parentheses and lists. -/
def primary (c : Clause) (inner : Option Inner) : Reader Expr
  | [] => .error (c.complain [] .expressionEnds)
  | t :: ts =>
    match t.kind with
    | .string => .ok (.literal (.text t.text), ts)
    | .number => do
      let n ← (Numeral.read t.text).mapError .numeral
      return (.literal (.number n), ts)
    | .boolean => .ok (.literal (.bool (Text.lowerCase t.text == "true")), ts)
    | .null => .ok (.literal .null, ts)
    | .date =>
      match Moment.read t.text with
      | .ok m => .ok (.literal (.moment m), ts)
      | .error fault => .error (c.complain (t :: ts) (.moment fault))
    | .link => .ok (.call "link" [.literal (.text t.text)], ts)
    | .identifier =>
      match ts with
      | p :: rest =>
        if p.kind = .parenOpen then callTail c inner t.text rest
        else .ok (.var t.text, ts)
      | [] => .ok (.var t.text, [])
    | .parenOpen => do
      let (e, ts) ← enter c inner (·.expression) ts
      let (_, ts) ← Reader.expect c .parenClose .parenNotClosed ts
      return (e, ts)
    | .bracketOpen => do
      let (es, ts) ← enter c inner listItems ts
      let (_, ts) ← Reader.expect c .bracketClose .listNotClosed ts
      return (.list es, ts)
    | _ => .error (c.complain (t :: ts) (.unexpectedToken t.text))

/-- The properties and indices that follow an expression. -/
def parts (c : Clause) (inner : Option Inner) : (fuel : Nat) → Expr → Reader Expr
  | 0, e, ts => .ok (e, ts)
  | _ + 1, e, [] => .ok (e, [])
  | fuel + 1, e, t :: ts =>
    if t.kind = .dot then do
      let (name, ts) ← Reader.expect c .identifier .propertyExpected ts
      parts c inner fuel (.index e (.literal (.text name.text))) ts
    else if t.kind = .bracketOpen then do
      let (key, ts) ← enter c inner (·.expression) ts
      let (_, ts) ← Reader.expect c .bracketClose .indexNotClosed ts
      parts c inner fuel (.index e key) ts
    else .ok (e, t :: ts)

/-- A primary with the properties and indices that follow it. -/
def access (c : Clause) (inner : Option Inner) : Reader Expr := fun ts => do
  let (e, ts) ← primary c inner ts
  parts c inner ts.length e ts

/-- Negations and signs before an expression. -/
def unary (c : Clause) (inner : Option Inner) : Reader Expr
  | [] => access c inner []
  | t :: ts =>
    if t.kind = .not then do
      let (e, ts) ← enter c inner (·.unary) ts
      return (.negated e, ts)
    else if t.kind = .minus then do
      let (e, ts) ← enter c inner (·.unary) ts
      return (e.minus, ts)
    else access c inner (t :: ts)

/-- Products. -/
def product (c : Clause) (inner : Option Inner) : Reader Expr :=
  Reader.chain multiplicative? .binary (unary c inner)

/-- Sums. -/
def sum (c : Clause) (inner : Option Inner) : Reader Expr :=
  Reader.chain additive? .binary (product c inner)

/-- Comparisons. -/
def comparison (c : Clause) (inner : Option Inner) : Reader Expr :=
  Reader.chain comparison? .binary (sum c inner)

/-- Expressions. -/
def logical (c : Clause) (inner : Option Inner) : Reader Expr :=
  Reader.chain logical? .binary (comparison c inner)

/-! ## All levels -/

/-- The readers with `levels` levels of nesting left, the first of which they take. -/
def inner? (c : Clause) : (levels : Nat) → Option Inner
  | 0 => none
  | levels + 1 =>
    some ⟨logical c (inner? c levels), unary c (inner? c levels)⟩

/-- Reads an expression. -/
def expression (c : Clause) : Reader Expr :=
  logical c (inner? c c.budget)

/-- Reads an expression with an optional alias; without one the field is named by its text. -/
def namedField (c : Clause) : Reader NamedField := fun ts => do
  let (e, rest) ← expression c ts
  let first := c.next ts
  let last := (ts.take (ts.length - rest.length)).getLast?.getD first
  match rest with
  | [] => return (⟨c.textBetween first last, e, none⟩, [])
  | t :: more =>
    if t.kind = .asKeyword then
      match more with
      | [] => .error (c.complain [] .aliasExpected)
      | a :: after =>
        if a.kind = .identifier || a.kind = .string then
          return (⟨a.text, e, some a.text⟩, after)
        else .error (c.complain more .aliasExpected)
    else return (⟨c.textBetween first last, e, none⟩, rest)

end VaultQuery.Expr
