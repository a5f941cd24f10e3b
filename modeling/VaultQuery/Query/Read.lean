import VaultQuery.Expr.Read
import VaultQuery.Query
import VaultQuery.Source.Read
import VaultQuery.Token.Scan

/-!
Reading queries.  The tokens are first cut into segments, one for the header and one for each
clause word outside of brackets; each segment is then read as a whole.
-/

namespace VaultQuery

/-- A clause word with the tokens up to the next one. -/
structure Segment where
  keyword : Token
  body : List Token
deriving DecidableEq, Repr

namespace Segment

/-- Cuts tokens into segments: `opened` holds the brackets that are open, the last one first, and
`body` the tokens since `keyword`, the last one first. -/
def cut (text : String) (opened : List Token) (keyword : Token) (body : List Token) :
    List Token → Except Fault (List Segment)
  | [] =>
    match opened with
    | [] => .ok [⟨keyword, body.reverse⟩]
    | o :: _ => .error (Clause.complaintAt text o (.unmatched o.text))
  | t :: ts =>
    if t.kind.isOpener then cut text (t :: opened) keyword (t :: body) ts
    else match t.kind.opener?, opened with
      | some kind, o :: os =>
        if o.kind = kind then cut text os keyword (t :: body) ts
        else .error (Clause.complaintAt text t (.unmatched t.text))
      | some _, [] => .error (Clause.complaintAt text t (.unmatched t.text))
      | none, [] =>
        if t.kind.isClause then
          (cut text [] t [] ts).map (⟨keyword, body.reverse⟩ :: ·)
        else cut text [] keyword (t :: body) ts
      | none, o :: os => cut text (o :: os) keyword (t :: body) ts

/-- Reads the whole body of a segment. -/
def readAll {α : Type} (c : Clause) (name : String) (reader : Reader α) : Except Fault α := do
  let (x, ts) ← reader c.tokens
  c.finish name ts
  return x

/-- The clause of a segment. -/
def clause (text : String) (limit : Int) (s : Segment) : Clause :=
  Clause.ofTokens text limit s.body

/-- The clause of a segment that may not be empty. -/
def filledClause (text : String) (limit : Int) (s : Segment) : Except Fault Clause :=
  if s.body.isEmpty then
    .error (Clause.complaintAt text s.keyword (.valueExpected s.keyword.text))
  else .ok (s.clause text limit)

/-- The word `WITHOUT ID` in front of the fields. -/
def withoutId : List Token → Bool × List Token
  | [] => (true, [])
  | t :: ts => if t.kind = .withoutId then (false, ts) else (true, t :: ts)

/-- The fields of a table. -/
def tableFields (c : Clause) : Reader Header := fun ts => do
  let (showId, ts) := withoutId ts
  if ts.isEmpty then return (.table [] showId, [])
  let (fields, ts) ← Reader.items (Expr.namedField c) ts
  return (.table fields showId, ts)

/-- The format of a list. -/
def listFormat (c : Clause) : Reader Header := fun ts => do
  let (showId, ts) := withoutId ts
  if ts.isEmpty then return (.list none showId, [])
  let (format, ts) ← Expr.expression c ts
  return (.list (some format) showId, ts)

/-- Reads the header of a query. -/
def header (text : String) (limit : Int) (s : Segment) : Except Fault Header :=
  match s.keyword.kind with
  | .task => do
    let c := s.clause text limit
    c.finish "TASK" c.tokens
    return .task
  | .calendar => do
    let c ← s.filledClause text limit
    return .calendar (← readAll c "CALENDAR" (Expr.namedField c))
  | .list =>
    let c := s.clause text limit
    readAll c "LIST" (listFormat c)
  | _ =>
    let c := s.clause text limit
    readAll c "TABLE" (tableFields c)

/-- The direction that a word spells, in any case. -/
def direction? (word : String) : Option Direction :=
  let w := Text.upperCase word
  if w == "ASC" || w == "ASCENDING" then some .asc
  else if w == "DESC" || w == "DESCENDING" then some .desc
  else none

/-- Reads one sort key. -/
def sortField (c : Clause) : Reader SortField := fun ts => do
  let (e, ts) ← Expr.expression c ts
  match ts with
  | [] => return (⟨e, .asc⟩, [])
  | t :: rest =>
    match if t.kind = .identifier then direction? t.text else none with
    | some d => return (⟨e, d⟩, rest)
    | none => return (⟨e, .asc⟩, t :: rest)

/-- Reads the source of a query. -/
def source (text : String) (limit : Int) (s : Segment) : Except Fault Source := do
  let c ← s.filledClause text limit
  readAll c "FROM" (Source.source c)

/-- Reads one operation. -/
def operation (text : String) (limit : Int) (s : Segment) : Except Fault Operation := do
  let c ← s.filledClause text limit
  match s.keyword.kind with
  | .whereClause => return .keep (← readAll c s.keyword.text (Expr.expression c))
  | .sortClause => return .sort (← readAll c s.keyword.text (Reader.items (sortField c)))
  | .limitClause => return .limit (← readAll c s.keyword.text (Expr.expression c))
  | .groupBy => return .group (← readAll c s.keyword.text (Expr.namedField c))
  | _ => return .flatten (← readAll c s.keyword.text (Expr.namedField c))

/-- Reads the clauses after the header, in order; a second source is refused. -/
def clauses (text : String) (limit : Int) :
    Option Source → List Segment → Except Fault (Option Source × List Operation)
  | found, [] => .ok (found, [])
  | found, s :: ss =>
    if s.keyword.kind = .fromClause then
      match found with
      | some _ => .error (Clause.complaintAt text s.keyword .duplicateFrom)
      | none => do
        let src ← s.source text limit
        clauses text limit (some src) ss
    else do
      let op ← s.operation text limit
      let (found, ops) ← clauses text limit found ss
      return (found, op :: ops)

end Segment

namespace Query

/-- Reads a query from its tokens; the text may be unknown. -/
def ofTokens (text : String) (limit : Int) (tokens : List Token) : Except Fault Query :=
  let whole := Clause.ofTokens text limit tokens
  match whole.tokens with
  | [] => .error (Clause.complaintAt text whole.stop (.queryTypeExpected whole.stop.text))
  | first :: rest =>
    if first.kind.isHeader then do
      match ← Segment.cut text [] first [] rest with
      | [] => return { header := .table [] true }
      | head :: tail =>
        let header ← head.header text limit
        let (found, operations) ← Segment.clauses text limit none tail
        return { header, source := found.getD .everything, operations }
    else .error (Clause.complaintAt text first (.queryTypeExpected first.text))

/-- Reads a query text. -/
def read (text : String) (limit : Int) : Except Fault Query := do
  let tokens ← (Token.tokenize text).mapError .malformed
  ofTokens text limit tokens

end Query

namespace Expr

/-- Reads a text that is one expression. -/
def read (text : String) (limit : Int) : Except Fault Expr := do
  let tokens ← (Token.tokenize text).mapError .malformed
  let c := Clause.ofTokens text limit tokens
  Segment.readAll c "expression" (expression c)

end Expr

end VaultQuery
