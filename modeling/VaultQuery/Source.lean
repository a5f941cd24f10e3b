import VaultQuery.Expr

/-!
Sources of a query: which pages it looks at.
-/

namespace VaultQuery

/-- How two sources are joined.  The query language has two ways; a source that is built and not
read may carry another symbol. -/
inductive Joint where
  | and | or
  | other (symbol : String)
deriving DecidableEq, Repr

namespace Joint

/-- The symbol of a joint. -/
def symbol : Joint → String
  | .and => "&"
  | .or => "|"
  | .other symbol => symbol

/-- The joint with a given symbol. -/
def ofSymbol (symbol : String) : Joint :=
  if symbol == "&" then .and else if symbol == "|" then .or else .other symbol

end Joint

/-- A source. -/
inductive Source where
  | folder (path : String)
  | tag (name : String)
  | link (target : String)
  | negated (child : Source)
  | joined (joint : Joint) (left right : Source)
  /-- No restriction. -/
  | everything
  | foreign (node : Foreign)
deriving DecidableEq, Repr

instance : Inhabited Source := ⟨.everything⟩

end VaultQuery
