import VaultQuery.Expr.Lower
import VaultQuery.Source

/-!
From sources of a query to conditions of a base.
-/

namespace VaultQuery.Source

/-- The connective of a joint. -/
def connective? : Joint → Option Connective
  | .and => some .and
  | .or => some .or
  | .other _ => none

/-- The number of places along a left chain of joined sources where the joint changes. -/
def jointChanges : Source → Nat
  | .joined j (.joined k left right) _ =>
    if (connective? j).isSome && (connective? k).isSome then
      jointChanges (.joined k left right) + if j = k then 0 else 1
    else 0
  | _ => 0

/-- Joins two conditions, each of which may be missing. -/
def joinOptional (c : Connective) : Option Condition → Option Condition → Option Condition
  | none, g => g
  | f, none => f
  | f, g => Filter.flatten c [f, g]

/-- A condition on a page that calls a function of files on a text. -/
def fileCall (function argument : String) : Condition :=
  .leaf ("file." ++ function ++ "(" ++ Vocabulary.quote argument ++ ")")

/-- The condition of a source, `depth` levels down, or none if it admits every page.  A source that
stands `inChain` at the left end of a chain and continues it costs no level. -/
def lower (limit : Nat) (inChain : Bool) (depth : Nat) : Source → Except Fault (Option Condition)
  | .folder path => do
    let _ ← descend limit depth
    return if path.isEmpty then none else some (fileCall "inFolder" path)
  | .tag name => do
    let _ ← descend limit depth
    return some (fileCall "hasTag" (String.ofList (name.toList.dropWhile (· == '#'))))
  | .link target => do
    let _ ← descend limit depth
    return some (fileCall "hasLink" target)
  | .negated child => do
    let d ← descend limit depth
    let inner ← lower limit false d child
    return inner.map fun f => .group .not [f]
  | .joined joint left right => do
    let continued := inChain && (connective? joint).isSome
    let d ← if continued then .ok depth else descend limit depth
    if !continued && limit < d + jointChanges (.joined joint left right) then
      .error (.obstacle (.chainTooDeep limit))
    match connective? joint with
    | none => .error .noOperand
    | some c =>
      let value ← lower limit true d left
      let rightValue ← lower limit false d right
      return joinOptional c value rightValue
  | .everything => do
    let _ ← descend limit depth
    return none
  | .foreign node => do
    let _ ← descend limit depth
    .error (.obstacle (.foreignSource node.label))

/-- The condition of a source. -/
def condition (limit depth : Nat) (s : Source) : Except Fault (Option Condition) :=
  lower limit false depth s

end VaultQuery.Source
