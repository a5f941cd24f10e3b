import VaultQuery.Source

/-!
Queries: a header, a source and a list of operations.
-/

namespace VaultQuery

/-- The direction of a sort key. -/
inductive Direction where
  | asc | desc
deriving DecidableEq, Repr, Inhabited

/-- The word for a direction. -/
def Direction.word : Direction → String
  | .asc => "asc"
  | .desc => "desc"

/-- One key of a `SORT` clause. -/
structure SortField where
  field : Expr
  direction : Direction := .asc
deriving Repr, Inhabited

/-- What a query shows. -/
inductive Header where
  | table (fields : List NamedField) (showId : Bool)
  | list (format : Option Expr) (showId : Bool)
  | task
  | calendar (field : NamedField)
deriving Repr, Inhabited

/-- The word that opens a query. -/
def Header.keyword : Header → String
  | .table _ _ => "TABLE"
  | .list _ _ => "LIST"
  | .task => "TASK"
  | .calendar _ => "CALENDAR"

/-- One clause after the header, sources excepted. -/
inductive Operation where
  | keep (clause : Expr)
  | sort (fields : List SortField)
  | limit (amount : Expr)
  | group (field : NamedField)
  | flatten (field : NamedField)
  /-- Named expressions; built, never read. -/
  | extract (fields : List (String × Expr))
  | foreign (node : Foreign)
deriving Repr, Inhabited

/-- A query. -/
structure Query where
  header : Header
  source : Source := .everything
  operations : List Operation := []
deriving Repr, Inhabited

end VaultQuery
