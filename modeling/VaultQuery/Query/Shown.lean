import VaultQuery.Query
import VaultQuery.Text.Quoted

/-!
How trees are shown in messages: the name of a node with its parts in parentheses.
-/

namespace VaultQuery

namespace Shown

/-- Parts with a comma and a space between each two. -/
def parts (ps : List String) : String :=
  String.intercalate ", " ps

/-- A node: its label, and the name and the text of each of its parts. -/
def node (label : String) (ps : List (String × String)) : String :=
  label ++ "(" ++ parts (ps.map fun p => p.1 ++ "=" ++ p.2) ++ ")"

/-- A sequence; one of a single item has a comma after it. -/
def sequence : List String → String
  | [] => "()"
  | [p] => "(" ++ p ++ ",)"
  | ps => "(" ++ parts ps ++ ")"

/-- A truth value. -/
def bool (b : Bool) : String :=
  if b then "True" else "False"

/-- A text, or the word for none. -/
def text? : Option String → String
  | none => "None"
  | some s => Text.shown s

/-- A duration. -/
def duration (d : Duration) : String :=
  node "Duration" [("amount", d.amount.text), ("unit", Text.shown d.unit.name)]

/-- A literal value. -/
def literal : Literal → String
  | .null => "None"
  | .bool b => bool b
  | .number n => n.text
  | .text s => Text.shown s
  | .moment m => m.shown
  | .duration d => duration d

mutual

/-- An expression. -/
def expr : Expr → String
  | .var name => node "Variable" [("name", Text.shown name)]
  | .literal value => node "Literal" [("value", literal value)]
  | .index object key => node "Index" [("object", expr object), ("key", expr key)]
  | .binary op left right =>
    node "BinaryOp" [("op", Text.shown op.symbol), ("left", expr left), ("right", expr right)]
  | .call name args =>
    node "Function" [("name", Text.shown name), ("args", sequence (exprs args))]
  | .negated child => node "Negated" [("child", expr child)]
  | .list items => node "ListField" [("items", sequence (exprs items))]
  | .foreign n => n.text

/-- Each of several expressions. -/
def exprs : List Expr → List String
  | [] => []
  | e :: es => expr e :: exprs es

end

/-- A named field. -/
def named (f : NamedField) : String :=
  node "NamedField"
    [("name", Text.shown f.name), ("field", expr f.field), ("alias", text? f.alias?)]

/-- A source. -/
def source : Source → String
  | .folder path => node "FolderSource" [("path", Text.shown path)]
  | .tag name => node "TagSource" [("tag", Text.shown name)]
  | .link target => node "LinkSource" [("target", Text.shown target)]
  | .negated child => node "NegatedSource" [("child", source child)]
  | .joined joint left right =>
    node "BinaryOpSource"
      [("op", Text.shown joint.symbol), ("left", source left), ("right", source right)]
  | .everything => node "EmptySource" []
  | .foreign n => n.text

/-- A direction. -/
def direction : Direction → String
  | .asc => "<SortDirection.ASC: 'asc'>"
  | .desc => "<SortDirection.DESC: 'desc'>"

/-- A sort key. -/
def sortField (f : SortField) : String :=
  node "SortField" [("field", expr f.field), ("direction", direction f.direction)]

/-- A header. -/
def header : Header → String
  | .table fields showId =>
    node "TableHeader" [("fields", sequence (fields.map named)), ("show_id", bool showId)]
  | .list format showId =>
    node "ListHeader" [("format", (format.map expr).getD "None"), ("show_id", bool showId)]
  | .task => node "TaskHeader" []
  | .calendar field => node "CalendarHeader" [("field", named field)]

/-- An operation. -/
def operation : Operation → String
  | .keep clause => node "Where" [("clause", expr clause)]
  | .sort fields => node "SortBy" [("fields", sequence (fields.map sortField))]
  | .limit amount => node "Limit" [("amount", expr amount)]
  | .group field => node "Group" [("field", named field)]
  | .flatten field => node "Flatten" [("field", named field)]
  | .extract fields =>
    node "Extract"
      [("fields",
        "\x7b" ++ parts (fields.map fun f => Text.shown f.1 ++ ": " ++ expr f.2) ++ "\x7d")]
  | .foreign n => n.text

/-- A query: its type, the number of its fields, its source and the number of its operations, each
unless there is none. -/
def query (q : Query) : String :=
  let fields := match q.header with
    | .table (f :: fs) _ => ["fields=" ++ toString (f :: fs).length]
    | _ => []
  let src := if q.source = .everything then [] else ["source=" ++ source q.source]
  let ops := if q.operations.isEmpty then [] else ["operations=" ++ toString q.operations.length]
  parts (("Query(type=" ++ q.header.keyword) :: fields ++ src ++ ops) ++ ")"

/-- A node that stands where it does not belong, from the way it is shown. -/
def foreign (text : String) : Foreign :=
  ⟨String.ofList (text.toList.takeWhile (· != '(')), text⟩

end Shown

end VaultQuery
