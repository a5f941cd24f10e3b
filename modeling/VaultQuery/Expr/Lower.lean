import VaultQuery.Expr.Shape
import VaultQuery.Fault
import VaultQuery.Filter

/-!
From expressions of a query to conditions of a base.  A combination of predicates becomes a group;
everything else becomes the text of an expression, with parentheses where the expression language
of a base needs them.  The depth of the walk is bounded: every step down counts one level, except
along a chain of operators of the same strength or of parts of parts.
-/

namespace VaultQuery

/-! ## Depth -/

/-- The depth one level further down, unless that passes the limit. -/
def descend (limit depth : Nat) : Except Fault Nat :=
  if depth + 1 ≤ limit then .ok (depth + 1) else .error (.obstacle (.tooDeep limit))

namespace Expr

/-- Where an expression stands: alone, or at the left end of a chain that it may continue. -/
inductive Place where
  | alone
  /-- Left of an operator of a strength that is not logical. -/
  | chain (precedence : Nat)
  /-- Left of a logical operator. -/
  | logical
  /-- Before a property or an index. -/
  | path
deriving DecidableEq, Repr

/-- Whether an expression continues the chain it stands in, and so costs no level of its own. -/
def continues : Place → Expr → Bool
  | .chain p, .binary op _ _ => !op.isLogical && op.precedence == p
  | .logical, .binary op _ _ => op.isLogical
  | .path, .index _ _ => true
  | _, _ => false

/-- The depth at which an expression is worked on. -/
def level (limit : Nat) (place : Place) (depth : Nat) (e : Expr) : Except Fault Nat :=
  if continues place e then .ok depth else descend limit depth

/-! ## Texts -/

/-- The text of a literal. -/
def literalText : Literal → Except Fault String
  | .null => .ok "null"
  | .bool b => .ok (if b then "true" else "false")
  | .number n => if n.isOverlong then .error (.numeral .tooLongToWrite) else .ok n.text
  | .text s => .ok (Vocabulary.quote s)
  | .moment m => .ok ("date(" ++ Vocabulary.quote m.text ++ ")")
  | .duration d => (d.write.mapError .numeral).map Vocabulary.quote

/-- How tightly parts of an expression bind to it. -/
def partPrecedence : Nat := 6

/-- An operand: a group is written as one expression, and an operation in parentheses if it binds
looser than its parent, or just as tightly on the right. -/
def operand (child : Expr) (value : Condition) (parent : Nat) (onRight : Bool) : String :=
  match value, child with
  | .leaf text, .binary op _ _ =>
    if op.precedence < parent || (onRight && op.precedence == parent) then "(" ++ text ++ ")"
    else text
  | value, _ => value.inline

/-- A member of a group: a conjunction or disjunction that is a text keeps its own parentheses. -/
def member (e : Expr) (value : Condition) : Condition :=
  match value with
  | .leaf text => if e.isLogical then .leaf ("(" ++ text ++ ")") else value
  | .group _ _ => value

/-- The connective of a logical operator. -/
def connective : BinOp → Connective
  | .and => .and
  | _ => .or

/-- Two operands of a logical operator.  If one of them is a predicate or a group they form a group,
else one expression. -/
def logicalPair (op : BinOp) (left right : Expr) (value rightValue : Condition) : Condition :=
  if isPredicate (.binary op left right) || value.isGroup || rightValue.isGroup then
    (member left value).join (connective op) (member right rightValue)
  else
    .leaf (operand left value op.precedence false ++ " " ++ op.baseSymbol ++ " " ++
      operand right rightValue op.precedence true)

/-- Whether a name may follow a point: a word that starts with no digit, in which dashes may
stand; one line end may follow it. -/
def isPlainKey (name : String) : Bool :=
  let isKey (cs : List Char) : Bool :=
    match cs with
    | [] => false
    | c :: cs => Text.isWordStart c && cs.all fun d => Text.isWord d || d == '-'
  let cs := name.toList
  isKey cs || (cs.getLast? == some '\n' && isKey cs.dropLast)

/-- The text of a part with a constant name: a part of a date is a call, a plain name follows a
point, and any other name is an index.  `value` is the object as an operand and `bare` the object
by itself. -/
def partText (value bare name : String) : String :=
  let lower := Text.lowerCase name
  if Vocabulary.dateParts.contains lower then lower ++ "(" ++ bare ++ ")"
  else if isPlainKey name then Vocabulary.property (value ++ "." ++ name)
  else value ++ "[" ++ Vocabulary.quote name ++ "]"

/-- Calls that a base writes in a way of its own: relative dates, moments, durations, and the
question whether a page has a tag. -/
def specialCall? (name : String) (args : List Expr) : Except Fault (Option String) :=
  let lower := Text.lowerCase name
  if lower == "date" then
    match args with
    | [.var v] => .ok (Vocabulary.relativeDates.lookup (Text.lowerCase v))
    | [.literal (.text s)] => .ok (Vocabulary.relativeDates.lookup (Text.lowerCase s))
    | [.literal (.moment m)] => (literalText (.moment m)).map some
    | _ => .ok none
  else if lower == "dur" then do
    match ← (duration? (.call name args)).mapError .numeral with
    | some d => return some (Vocabulary.quote (← d.write.mapError .numeral))
    | none => return none
  else if lower == "contains" then
    match args with
    | [tags, .literal (.text tag)] =>
      if tags.isTags then
        let bare := String.ofList (tag.toList.dropWhile (· == '#'))
        .ok (some ("file.hasTag(" ++ Vocabulary.quote bare ++ ")"))
      else .ok none
    | _ => .ok none
  else .ok none

/-- The text of a call whose arguments have been written. -/
def callText (name : String) (args : List String) : String :=
  let lower := Text.lowerCase name
  let spelled :=
    if lower == "notempty" then "!isEmpty"
    else if lower == "link" then "link"
    else Vocabulary.function name
  spelled ++ "(" ++ String.intercalate ", " args ++ ")"

/-! ## The walk -/

/-- Refuses a chain of logical operators that changes its operator more often than there are levels
left. -/
def checkChain (limit depth : Nat) (place : Place) (e : Expr) : Except Fault Unit :=
  if !continues place e && limit < depth + e.operatorChanges then
    .error (.obstacle (.chainTooDeep limit))
  else .ok ()

mutual

/-- The condition of an expression that stands at a place, `depth` levels down. -/
def lower (limit : Nat) (place : Place) (depth : Nat) : Expr → Except Fault Condition
  | .var name => do
    let _ ← level limit place depth (.var name)
    return .leaf (Vocabulary.property name)
  | .literal value => do
    let _ ← level limit place depth (.literal value)
    return .leaf (← literalText value)
  | .index object key => do
    let d ← level limit place depth (.index object key)
    let raw ← lower limit .path d object
    let bare := raw.inline
    let value := if object.isIndex then bare else operand object raw partPrecedence false
    match key with
    | .literal (.text name) => return .leaf (partText value bare name)
    | _ => do
      let inside ← lower limit .alone d key
      return .leaf (value ++ "[" ++ inside.inline ++ "]")
  | .binary op left right => do
    let d ← level limit place depth (.binary op left right)
    if op.isLogical then
      checkChain limit d place (.binary op left right)
      let value ← lower limit .logical d left
      let rightValue ← lower limit .alone d right
      return logicalPair op left right value rightValue
    else
      let p := op.precedence
      let value ← lower limit (.chain p) d left
      let text := if continues (.chain p) left then value.inline else operand left value p false
      let moved ← if op.isAdditive then right.duration?.mapError .numeral else .ok none
      match if left.isDate then moved else none with
      | some amount =>
        let signed := if op = .sub then amount.neg else amount
        return .leaf (text ++ " + \"" ++ (← signed.write.mapError .numeral) ++ "\"")
      | none =>
        let rightValue ← lower limit .alone d right
        return .leaf (text ++ " " ++ op.baseSymbol ++ " " ++ operand right rightValue p true)
  | .call name args => do
    let d ← level limit place depth (.call name args)
    match ← specialCall? name args with
    | some text => return .leaf text
    | none => return .leaf (callText name (← lowerAll limit d args))
  | .negated child => do
    let d ← level limit place depth (.negated child)
    return .group .not [← lower limit .alone d child]
  | .list items => do
    let d ← level limit place depth (.list items)
    return .leaf ("[" ++ String.intercalate ", " (← lowerAll limit d items) ++ "]")
  | .foreign node => do
    let _ ← level limit place depth (.foreign node)
    .error (.obstacle (.foreignField node.label))

/-- The texts of several expressions that stand alone. -/
def lowerAll (limit : Nat) (depth : Nat) : List Expr → Except Fault (List String)
  | [] => .ok []
  | e :: es => do
    let value ← lower limit .alone depth e
    let texts ← lowerAll limit depth es
    return value.inline :: texts

end

/-- The condition of an expression. -/
def condition (limit depth : Nat) (e : Expr) : Except Fault Condition :=
  lower limit .alone depth e

/-- The text of an expression. -/
def baseText (limit depth : Nat) (e : Expr) : Except Fault String :=
  (e.condition limit depth).map Condition.inline

end Expr

end VaultQuery
