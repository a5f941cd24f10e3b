import VaultQuery.Fault
import VaultQuery.Text.Blank
import VaultQuery.Token

/-!
The tokens of one clause of a query, and the readers that run over them.  A reader takes the tokens
that are left and gives a value with the tokens that are left after it.
-/

namespace VaultQuery

/-- The tokens of a clause, what stands at its end, and the query text they were cut from, which
may be unknown. -/
structure Clause where
  text : String
  tokens : List Token
  stop : Token
  /-- How deep the clause may nest; below one it may not nest at all. -/
  limit : Int

/-- A reader over the tokens of a clause. -/
abbrev Reader (α : Type) : Type :=
  List Token → Except Fault (α × List Token)

namespace Clause

/-- How deep a clause is followed, whatever its limit. -/
def followedDepth : Nat := 100

/-- The end of a list of tokens that lacks one: it stands where the last token does. -/
def missingEnd (tokens : List Token) : Token :=
  match tokens.getLast? with
  | none => ⟨.endOfText, "", 0, 0, 0, 0⟩
  | some t => ⟨.endOfText, "", t.line, t.column, t.stop, t.stop⟩

/-- The clause of a list of tokens; it ends at the first end of text. -/
def ofTokens (text : String) (limit : Int) (tokens : List Token) : Clause :=
  let isBody (t : Token) : Bool := t.kind != .endOfText
  { text, limit
    tokens := tokens.takeWhile isBody
    stop := (tokens.dropWhile isBody).headD (missingEnd tokens) }

/-! ## Complaints -/

/-- The text that a complaint about a token shows: from the token to the end of its line. -/
def fragment (text : String) (t : Token) : String :=
  if t.kind = .endOfText then "end of input"
  else
    let rest := if text.isEmpty then t.text.toList else text.toList.drop t.start
    let shown := (Text.trim (Text.firstLine rest)).take 40
    if shown.isEmpty then t.text else String.ofList shown

/-- A complaint about a token; line and column zero mean that the place is not known. -/
def complaintAt (text : String) (t : Token) (complaint : Complaint) : Fault :=
  let known (n : Nat) : Option Nat := if n = 0 then none else some n
  .malformed ⟨complaint, known t.line, known t.column, fragment text t⟩

/-- The token that comes next. -/
def next (c : Clause) (ts : List Token) : Token :=
  ts.headD c.stop

/-- A complaint about the token that comes next. -/
def complain (c : Clause) (ts : List Token) (complaint : Complaint) : Fault :=
  complaintAt c.text (c.next ts) complaint

/-- The complaint that the clause nests too deeply. -/
def tooNested (c : Clause) (ts : List Token) : Fault :=
  if c.limit ≤ followedDepth then c.complain ts (.nestingExceeded c.limit)
  else
    .malformed ⟨.nestedTooDeeply, none, none, String.ofList ((Text.trim c.text.toList).take 40)⟩

/-- The number of levels that a clause may still nest when it starts. -/
def budget (c : Clause) : Nat :=
  min c.limit.toNat followedDepth

/-- Fails if a clause has tokens left. -/
def finish (c : Clause) (name : String) (ts : List Token) : Except Fault Unit :=
  match ts with
  | [] => .ok ()
  | t :: _ => .error (c.complain ts (.leftover t.text name))

/-! ## The text of a part -/

/-- The text from one token to another.  If the query text is not known, the texts of the tokens
from the first one equal to `first` to the first one equal to `last` are joined. -/
def textBetween (c : Clause) (first last : Token) : String :=
  if c.text.isEmpty then
    let i := c.tokens.idxOf first
    let j := c.tokens.idxOf last
    String.intercalate " " (((c.tokens.take (j + 1)).drop i).map (·.text))
  else
    String.ofList
      (Text.joinWords ' ' ((c.text.toList.take last.stop).drop first.start))

end Clause

/-! ## Readers -/

namespace Reader

/-- Takes one token of a kind, or complains. -/
def expect (c : Clause) (kind : Token.Kind) (complaint : Complaint) : Reader Token
  | [] => .error (c.complain [] complaint)
  | t :: ts => if t.kind = kind then .ok (t, ts) else .error (c.complain (t :: ts) complaint)

/-- The items after the first one of a list with commas between them. -/
def moreItems {α : Type} (item : Reader α) : (fuel : Nat) → Reader (List α)
  | 0, ts => .ok ([], ts)
  | _ + 1, [] => .ok ([], [])
  | fuel + 1, t :: ts =>
    if t.kind = .comma then do
      let (x, ts) ← item ts
      let (xs, ts) ← moreItems item fuel ts
      return (x :: xs, ts)
    else .ok ([], t :: ts)

/-- One or more items with commas between them. -/
def items {α : Type} (item : Reader α) : Reader (List α) := fun ts => do
  let (x, ts) ← item ts
  let (xs, ts) ← moreItems item ts.length ts
  return (x :: xs, ts)

/-- The operands after the first one of a chain, each joined to what stands before it. -/
def moreOperands {α β : Type} (operator? : Token.Kind → Option β) (join : β → α → α → α)
    (operand : Reader α) : (fuel : Nat) → α → Reader α
  | 0, left, ts => .ok (left, ts)
  | _ + 1, left, [] => .ok (left, [])
  | fuel + 1, left, t :: ts =>
    match operator? t.kind with
    | none => .ok (left, t :: ts)
    | some op => do
      let (right, ts) ← operand ts
      moreOperands operator? join operand fuel (join op left right) ts

/-- Operands with operators between them, grouped to the left. -/
def chain {α β : Type} (operator? : Token.Kind → Option β) (join : β → α → α → α)
    (operand : Reader α) : Reader α := fun ts => do
  let (left, ts) ← operand ts
  moreOperands operator? join operand ts.length left ts

end Reader

end VaultQuery
