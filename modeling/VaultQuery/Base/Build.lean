import VaultQuery.Base
import VaultQuery.Query
import VaultQuery.Settings
import VaultQuery.Source.Lower

/-!
Building a base from a query.  The work keeps a small state: the formulas and columns so far, how
many formulas were named, how deep the walk stands, and what was noted on the way.  The state
outlives a failure.
-/

namespace VaultQuery

/-- A column of a table, kept so that sort and group keys can refer back to it. -/
structure Column where
  path : String
  expression : String
  alias? : Option String
deriving DecidableEq, Repr

/-- How important a remark is. -/
inductive Severity where
  | debug | warning
deriving DecidableEq, Repr

/-- The name of a severity. -/
def Severity.name : Severity → String
  | .debug => "DEBUG"
  | .warning => "WARNING"

/-- Something noted on the way. -/
structure Remark where
  severity : Severity
  message : String
deriving DecidableEq, Repr

/-- The state of the work on a query. -/
structure Workspace where
  counter : Nat := 0
  depth : Nat := 0
  formulas : List (String × String) := []
  columns : List Column := []
  remarks : List Remark := []
deriving DecidableEq, Repr

/-- Work that may fail; the state is kept in either case. -/
abbrev Work (α : Type) : Type := ExceptT Fault (StateM Workspace) α

namespace Work

/-- Forgets the formulas, columns and depth of earlier work. -/
def reset : Work Unit :=
  modify fun w => { w with counter := 0, depth := 0, formulas := [], columns := [] }

/-- Notes a remark. -/
def note (severity : Severity) (message : String) : Work Unit :=
  modify fun w => { w with remarks := w.remarks ++ [⟨severity, message⟩] }

/-- Walks a tree from the present depth.  A step down that is refused stays counted. -/
def walk {α : Type} (f : (depth : Nat) → Except Fault α) : Work α := do
  let w ← get
  match f w.depth with
  | .ok a => return a
  | .error (.obstacle (.tooDeep limit)) =>
    set { w with depth := w.depth + 1 }
    throw (.obstacle (.tooDeep limit))
  | .error e => throw e

/-- The condition of an expression. -/
def condition (s : Settings) (e : Expr) : Work Condition :=
  walk fun depth => e.condition s.treeLimit depth

/-- The text of an expression. -/
def baseText (s : Settings) (e : Expr) : Work String :=
  walk fun depth => e.baseText s.treeLimit depth

/-- The condition of a source. -/
def sourceCondition (s : Settings) (src : Source) : Work (Option Condition) :=
  walk fun depth => src.condition s.treeLimit depth

/-! ## Columns -/

/-- The key that an alias suggests for a formula: its words in lower case, joined by low lines. -/
def aliasKey (alias? : Option String) : String :=
  match alias? with
  | none => ""
  | some a => String.ofList (Text.joinWords '_' (Text.lower (Text.trim a.toList)))

/-- The first of `base`, `base_2`, `base_3`, ... that is not taken. -/
def freshKey (base : String) (taken : List String) : String :=
  let numbered := (List.range taken.length).map fun i => base ++ "_" ++ toString (i + 2)
  ((base :: numbered).find? fun k => !taken.contains k).getD base

/-- Names a formula: by its alias, or by its number. -/
def formulaKey (field : NamedField) : Work String := do
  modify fun w => { w with counter := w.counter + 1 }
  let w ← get
  let suggested := aliasKey field.alias?
  let base := if suggested.isEmpty then "formula_" ++ toString w.counter else suggested
  return freshKey base (w.formulas.map (·.1))

/-- The label of a column that is no formula: its alias unless that is empty, else one made from
its path. -/
def columnLabel (alias? : Option String) (path : String) : String :=
  match alias? with
  | some a => if a.isEmpty then Vocabulary.label path else a
  | none => Vocabulary.label path

/-- Adds a column, and gives its path and label. -/
def column (s : Settings) (field : NamedField) : Work (String × String) := do
  let expression ← baseText s field.field
  let (path, label) ←
    if field.field.isFormula then do
      let key ← formulaKey field
      modify fun w => { w with formulas := w.formulas ++ [(key, expression)] }
      pure ("formula." ++ key, field.name)
    else pure (expression, columnLabel field.alias? expression)
  modify fun w => { w with columns := w.columns ++ [⟨path, expression, field.alias?⟩] }
  return (path, label)

/-- Whether a column is what a sort or group key means: it has the same text, or the key is a
variable that names the column's alias. -/
def refersTo (field : Expr) (expression : String) (c : Column) : Bool :=
  c.expression == expression ||
    match field, c.alias? with
    | .var name, some a => Text.lowerCase a == Text.lowerCase name
    | _, _ => false

/-- The path of a sort or group key: that of the first column it refers to, else its own text. -/
def reference (s : Settings) (field : Expr) : Work String := do
  let expression ← baseText s field
  let w ← get
  return ((w.columns.find? (refersTo field expression)).map (·.path)).getD expression

/-! ## Header -/

/-- Pairs with a label for a path: a path has one place, the first, and one label, the last. -/
def putLabel (display : List (String × String)) (path label : String) : List (String × String) :=
  if display.any (·.1 == path) then
    display.map fun p => if p.1 == path then (path, label) else p
  else display ++ [(path, label)]

/-- Adds the columns of a table to the labels so far. -/
def columns (s : Settings) : List (String × String) → List NamedField →
    Work (List (String × String))
  | display, [] => return display
  | display, field :: fields => do
    let (path, label) ← column s field
    columns s (putLabel display path label) fields

/-- The column of page names. -/
def idColumn : String × String := ("file.name", "Name")

/-- The labels of a table, in the order of its columns. -/
def header (s : Settings) : Header → Work (List (String × String))
  | .table fields showId => columns s (if showId then [idColumn] else []) fields
  | h => throw (.unsupported (.header h.keyword))

/-! ## Limits -/

/-- The number of rows that a limit asks for: a number without a fraction, or a text of digits. -/
def rowCount? (amount : Expr) (text : String) : Except Fault (Option Int) :=
  match amount with
  | .literal (.number (.int n)) =>
    if (Binary64.ofInt n).isFinite then .ok (some n) else .error .tooLarge
  | .literal (.number (.real x)) => .ok x.toInt?
  | _ =>
    if Text.isDecimal (text.toList.dropWhile (· == '-')) then
      ((Numeral.readInt text).mapError .numeral).map some
    else .ok none

/-- The number of rows of a view, unless the limit is no positive integer; then it is refused if
limits are strict, else left out with a remark. -/
def limit (s : Settings) (amount : Expr) (present : Option Int) : Work (Option Int) := do
  let text ← baseText s amount
  let count ← MonadExcept.ofExcept (rowCount? amount text)
  match count.filter (0 < ·) with
  | some n => return some n
  | none =>
    if s.strictLimit then throw (.unsupported (.limit text))
    note .warning ("Ignoring LIMIT amount that is not a positive integer: " ++ text)
    return present

/-! ## Operations -/

/-- What the operations of a query set; the last one of a kind wins. -/
structure Slots where
  kept : Option Condition := none
  sort : Option (List SortKey) := none
  limit : Option Int := none
  groupBy : Option String := none
deriving Repr

/-- The sort keys of a view. -/
def sortKeys (s : Settings) : List SortField → Work (List SortKey)
  | [] => return []
  | f :: fs => do
    let column ← reference s f.field
    return ⟨column, f.direction⟩ :: (← sortKeys s fs)

/-- Notes that a step has no counterpart in a base. -/
def ignore (step : String) : Work Unit :=
  note .debug ("Ignoring " ++ step ++ " step; Bases has no equivalent")

/-- Carries out one operation. -/
def operation (s : Settings) (slots : Slots) : Operation → Work Slots
  | .keep clause => return { slots with kept := some (← condition s clause) }
  | .sort fields => return { slots with sort := some (← sortKeys s fields) }
  | .limit amount => return { slots with limit := ← limit s amount slots.limit }
  | .group field => return { slots with groupBy := some (← reference s field.field) }
  | .flatten _ => do ignore "FLATTEN"; return slots
  | .extract _ => do ignore "EXTRACT"; return slots
  | .foreign node => throw (.obstacle (.foreignOperation node.text))

/-- Carries out operations in order. -/
def operations (s : Settings) : Slots → List Operation → Work Slots
  | slots, [] => return slots
  | slots, op :: ops => do operations s (← operation s slots op) ops

/-! ## The whole query -/

/-- Builds the base of a query; `inView` says where the filters belong, if not the settings. -/
def base (s : Settings) (q : Query) (inView : Option Bool) : Work (Base Condition) := do
  reset
  let display ← header s q.header
  let source ← sourceCondition s q.source
  let slots ← operations s {} q.operations
  let filters := Condition.both source slots.kept
  let formulas := (← get).formulas
  let filled : Bool := !display.isEmpty
  let inView := inView.getD s.filtersInView
  let view : View Condition :=
    { name := s.viewName
      limit := slots.limit
      filters := if inView then filters else none
      order := if filled then some (display.map (·.1)) else none
      groupBy := slots.groupBy
      sort := slots.sort }
  return {
    filters := if inView then none else filters
    formulas := if formulas.isEmpty then none else some formulas
    display := if filled then some display else none
    views := [view] }

end Work

/-- The base of a query, from a fresh state. -/
def Query.toBase (s : Settings) (q : Query) (inView : Option Bool := none) :
    Except Fault (Base Condition) :=
  ((Work.base s q inView).run.run {}).1

end VaultQuery
