import VaultQuery.Text.Quoted

/-!
Tokens of a query: the words, literals and marks of its text, each with its place.
-/

namespace VaultQuery

namespace Token

/-- What a token is. -/
inductive Kind where
  -- words that open a query
  | table | list | task | calendar
  -- words that open a clause
  | fromClause | whereClause | sortClause | limitClause | flattenClause | groupBy
  | withoutId | asKeyword
  -- logical operators
  | and | or | not
  -- comparisons
  | eq | ne | lt | gt | le | ge
  -- arithmetic
  | plus | minus | star | slash | percent
  -- literals
  | string | number | boolean | null | date | link | tag
  | identifier
  -- punctuation
  | comma | parenOpen | parenClose | bracketOpen | bracketClose | dot
  | endOfText
deriving DecidableEq, Repr

namespace Kind

/-- Every kind, in the order of the declaration. -/
def all : List Kind :=
  [.table, .list, .task, .calendar, .fromClause, .whereClause, .sortClause, .limitClause,
   .flattenClause, .groupBy, .withoutId, .asKeyword, .and, .or, .not, .eq, .ne, .lt, .gt, .le, .ge,
   .plus, .minus, .star, .slash, .percent, .string, .number, .boolean, .null, .date, .link, .tag,
   .identifier, .comma, .parenOpen, .parenClose, .bracketOpen, .bracketClose, .dot, .endOfText]

/-- The name under which a kind is shown. -/
def name : Kind → String
  | .table => "TABLE"
  | .list => "LIST"
  | .task => "TASK"
  | .calendar => "CALENDAR"
  | .fromClause => "FROM"
  | .whereClause => "WHERE"
  | .sortClause => "SORT"
  | .limitClause => "LIMIT"
  | .flattenClause => "FLATTEN"
  | .groupBy => "GROUP_BY"
  | .withoutId => "WITHOUT_ID"
  | .asKeyword => "AS"
  | .and => "AND"
  | .or => "OR"
  | .not => "NOT"
  | .eq => "EQUALS"
  | .ne => "NOT_EQUALS"
  | .lt => "LESS_THAN"
  | .gt => "GREATER_THAN"
  | .le => "LESS_EQUAL"
  | .ge => "GREATER_EQUAL"
  | .plus => "PLUS"
  | .minus => "MINUS"
  | .star => "STAR"
  | .slash => "SLASH"
  | .percent => "PERCENT"
  | .string => "STRING"
  | .number => "NUMBER"
  | .boolean => "BOOLEAN"
  | .null => "NULL"
  | .date => "DATE"
  | .link => "LINK"
  | .tag => "TAG"
  | .identifier => "IDENTIFIER"
  | .comma => "COMMA"
  | .parenOpen => "LPAREN"
  | .parenClose => "RPAREN"
  | .bracketOpen => "LBRACKET"
  | .bracketClose => "RBRACKET"
  | .dot => "DOT"
  | .endOfText => "EOF"

/-- The kind shown under a name. -/
def ofName? (name : String) : Option Kind :=
  all.find? (·.name == name)

/-- The words that open a query. -/
def isHeader : Kind → Bool
  | .table | .list | .task | .calendar => true
  | _ => false

/-- The words that open a clause after the header. -/
def isClause : Kind → Bool
  | .fromClause | .whereClause | .sortClause | .limitClause | .flattenClause | .groupBy => true
  | _ => false

/-- The kind of the bracket that a closing bracket closes. -/
def opener? : Kind → Option Kind
  | .parenClose => some .parenOpen
  | .bracketClose => some .bracketOpen
  | _ => none

/-- An opening bracket. -/
def isOpener : Kind → Bool
  | .parenOpen | .bracketOpen => true
  | _ => false

end Kind

end Token

/-- A token: its kind and text, the line and column it starts at, counted from 1, and the part of
the query text it covers, as offsets in characters. -/
structure Token where
  kind : Token.Kind
  text : String
  line : Nat
  column : Nat
  start : Nat := 0
  stop : Nat := 0
deriving DecidableEq, Repr

namespace Token

/-- A token as it is shown. -/
def shown (t : Token) : String :=
  "Token(" ++ t.kind.name ++ ", " ++ Text.shown t.text ++ ", " ++ toString t.line ++ ":" ++
    toString t.column ++ ")"

end Token

end VaultQuery
