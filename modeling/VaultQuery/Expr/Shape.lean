import VaultQuery.Expr
import VaultQuery.Text.Case
import VaultQuery.Vocabulary

/-!
What an expression is: a predicate, a date, a duration, the tags of a page, a formula.
-/

namespace VaultQuery.Expr

/-- An access to a part. -/
def isIndex : Expr → Bool
  | .index _ _ => true
  | _ => false

/-- A conjunction or a disjunction. -/
def isLogical : Expr → Bool
  | .binary op _ _ => op.isLogical
  | _ => false

/-- A column is a formula unless it is a variable or a chain of parts of one. -/
def isFormula : Expr → Bool
  | .var _ => false
  | .index object _ => isFormula object
  | _ => true

/-- A predicate: a comparison, a negation, a call of a predicate, or a conjunction or disjunction
with one of these. -/
def isPredicate : Expr → Bool
  | .binary op left right =>
    op.isComparison || (op.isLogical && (isPredicate left || isPredicate right))
  | .call name _ => Vocabulary.predicates.contains (Text.lowerCase name)
  | .negated _ => true
  | _ => false

/-- The tags of a page: `tags` in any case, or `file.tags`. -/
def isTags : Expr → Bool
  | .var name => Text.lowerCase name == "tags"
  | .index (.var object) (.literal (.text key)) => object == "file" && key == "tags"
  | _ => false

/-- The duration that an expression denotes: a duration, or a call of `dur` on one or on its
spelling.  A spelling with too long a numeral is a fault. -/
def duration? : Expr → Except NumeralFault (Option Duration)
  | .literal (.duration d) => .ok (some d)
  | .call name [.literal (.duration d)] =>
    .ok (if Text.lowerCase name == "dur" then some d else none)
  | .call name [.literal (.text s)] =>
    if Text.lowerCase name == "dur" then
      match Duration.spelled? s with
      | some (numeral, unit) => (Numeral.read numeral).map fun n => some ⟨n, unit⟩
      | none => .ok none
    else .ok none
  | _ => .ok none

/-- Whether an expression denotes a duration. -/
def isDuration (e : Expr) : Bool :=
  match e.duration? with
  | .ok (some _) => true
  | _ => false

/-- A date: a moment, a call of `date` or `now`, or a date moved by a duration. -/
def isDate : Expr → Bool
  | .binary op left right => op.isAdditive && isDuration right && isDate left
  | .call name _ =>
    let n := Text.lowerCase name
    n == "date" || n == "now"
  | .literal (.moment _) => true
  | _ => false

/-- Whether an expression is a date, where a spelling with too long a numeral on the way is a
fault. -/
def date? : Expr → Except NumeralFault Bool
  | .binary op left right =>
    if op.isAdditive then
      match right.duration? with
      | .error fault => .error fault
      | .ok none => .ok false
      | .ok (some _) => date? left
    else .ok false
  | e => .ok e.isDate

theorem isDate_of_date? {e : Expr} {b : Bool} (h : e.date? = .ok b) : e.isDate = b := by
  fun_induction date? e with
  | case1 => simp at h
  | case2 op left right hop hd => simp_all [isDate, isDuration]
  | case3 op left right hop d hd ih => simp_all [isDate, isDuration]
  | case4 op left right hop => simp_all [isDate]
  | case5 => simpa using h

/-- The number of places along a left chain of logical operators where the operator changes. -/
def operatorChanges : Expr → Nat
  | .binary op (.binary op' left right) _ =>
    if op.isLogical && op'.isLogical then
      operatorChanges (.binary op' left right) + if op = op' then 0 else 1
    else 0
  | _ => 0

end VaultQuery.Expr
