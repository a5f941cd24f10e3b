import VaultQuery.Duration
import VaultQuery.Moment

/-!
Expressions of the query language: fields, sort keys, conditions and list items are all written as
expressions.
-/

namespace VaultQuery

/-- A literal value. -/
inductive Literal where
  | null
  | bool (value : Bool)
  | number (value : Number)
  | text (value : String)
  | moment (value : Moment)
  | duration (value : Duration)
deriving DecidableEq, Repr

/-- A binary operator.  The query language has thirteen; an expression that is built and not read
may carry another symbol. -/
inductive BinOp where
  | and | or
  | eq | ne | lt | gt | le | ge
  | add | sub | mul | div | rem
  | other (symbol : String)
deriving DecidableEq, Repr

namespace BinOp

/-- The operators of the query language. -/
def standard : List BinOp :=
  [.and, .or, .eq, .ne, .lt, .gt, .le, .ge, .add, .sub, .mul, .div, .rem]

/-- The symbol of an operator in a query. -/
def symbol : BinOp → String
  | .and => "&"
  | .or => "|"
  | .eq => "="
  | .ne => "!="
  | .lt => "<"
  | .gt => ">"
  | .le => "<="
  | .ge => ">="
  | .add => "+"
  | .sub => "-"
  | .mul => "*"
  | .div => "/"
  | .rem => "%"
  | .other symbol => symbol

/-- The operator with a given symbol. -/
def ofSymbol (symbol : String) : BinOp :=
  (standard.find? fun op => op.symbol == symbol).getD (.other symbol)

/-- The symbol of an operator in an expression of a base. -/
def baseSymbol : BinOp → String
  | .and => "&&"
  | .or => "||"
  | .eq => "=="
  | op => op.symbol

/-- How tightly an operator binds in an expression of a base. -/
def precedence : BinOp → Nat
  | .or => 1
  | .and => 2
  | .eq | .ne | .lt | .gt | .le | .ge => 3
  | .add | .sub => 4
  | .mul | .div | .rem => 5
  | .other _ => 0

/-- Conjunction and disjunction. -/
def isLogical : BinOp → Bool
  | .and | .or => true
  | _ => false

/-- The six comparisons. -/
def isComparison : BinOp → Bool
  | .eq | .ne | .lt | .gt | .le | .ge => true
  | _ => false

/-- Addition and subtraction. -/
def isAdditive : BinOp → Bool
  | .add | .sub => true
  | _ => false

end BinOp

/-- A node that stands where it does not belong, such as a tag among the arguments of a call. -/
structure Foreign where
  /-- What the node is. -/
  label : String
  /-- How the node is shown. -/
  text : String
deriving DecidableEq, Repr

/-- An expression. -/
inductive Expr where
  | var (name : String)
  | literal (value : Literal)
  /-- A property or an element: `file.name`, `row["key"]`. -/
  | index (object key : Expr)
  | binary (op : BinOp) (left right : Expr)
  | call (name : String) (args : List Expr)
  | negated (child : Expr)
  | list (items : List Expr)
  | foreign (node : Foreign)
deriving Repr

instance : Inhabited Expr := ⟨.literal .null⟩

/-- A field with its label: the alias, or the text of the expression if there is none. -/
structure NamedField where
  name : String
  field : Expr
  alias? : Option String := none
deriving Repr, Inhabited

namespace Expr

/-- The expression with its sign changed: a number or a duration takes the other sign, anything
else is multiplied by minus one. -/
def minus : Expr → Expr
  | .literal (.number n) => .literal (.number n.neg)
  | .literal (.duration d) => .literal (.duration d.neg)
  | e => .binary .mul (.literal (.number (.int (-1)))) e

end Expr

end VaultQuery
