/-!
Filters: conditions joined under connectives.  A filter is kept flat: members that are groups under
the same connective are taken in place of the group.
-/

namespace VaultQuery

/-- What joins the members of a group. -/
inductive Connective where
  | and | or | not
deriving DecidableEq, Repr

namespace Connective

/-- The word for a connective. -/
def key : Connective → String
  | .and => "and"
  | .or => "or"
  | .not => "not"

/-- The connective for a word. -/
def ofKey? (key : String) : Option Connective :=
  [Connective.and, .or, .not].find? fun c => c.key == key

end Connective

/-- A filter over conditions of type `α`: one condition, or a group under a connective. -/
inductive Filter (κ α : Type) where
  | leaf (condition : α)
  | group (connective : κ) (members : List (Filter κ α))
deriving Repr

instance {κ α : Type} [Inhabited α] : Inhabited (Filter κ α) := ⟨.leaf default⟩

/-- A filter over conditions in the text form of a base. -/
abbrev Condition : Type := Filter Connective String

namespace Filter

variable {κ α : Type}

/-- A group, as opposed to a single condition. -/
def isGroup : Filter κ α → Bool
  | .leaf _ => false
  | .group _ _ => true

/-- A group whose label is the word for a connective. -/
def isLogical : Filter String α → Bool
  | .leaf _ => false
  | .group key _ => (Connective.ofKey? key).isSome

/-- The members that a filter adds to a group: its own if it is a group of the same kind, else
itself. -/
def spread [DecidableEq κ] (c : κ) : Filter κ α → List (Filter κ α)
  | .leaf a => [.leaf a]
  | .group k members => if k = c then members else [.group k members]

/-- A group of members, one member standing for itself and none for no filter. -/
def gather? (c : κ) : List (Filter κ α) → Option (Filter κ α)
  | [] => none
  | [f] => some f
  | fs => some (.group c fs)

/-- Joins filters, some of which may be missing, under a connective. -/
def flatten [DecidableEq κ] (c : κ) (items : List (Option (Filter κ α))) : Option (Filter κ α) :=
  gather? c (items.flatMap fun item => (item.map (spread c)).getD [])

/-- Joins two filters under a connective. -/
def join [DecidableEq κ] (c : κ) (f g : Filter κ α) : Filter κ α :=
  .group c (f.spread c ++ g.spread c)

end Filter

namespace Condition

/-- The filter that asks for both of two filters, each of which may be missing. -/
def both : Option Condition → Option Condition → Option Condition
  | none, g => g
  | f, none => f
  | f, g => Filter.flatten .and [f, g]

mutual

/-- A filter as one expression.  A negation of several members negates all of them together. -/
def inline : Condition → String
  | .leaf text => text
  | .group .not [.leaf text] => "!(" ++ text ++ ")"
  | .group .not [.group c members] => "!" ++ inline (.group c members)
  | .group .not members => "!(" ++ String.intercalate " && " (inlineAll members) ++ ")"
  | .group .and members => "(" ++ String.intercalate " && " (inlineAll members) ++ ")"
  | .group .or members => "(" ++ String.intercalate " || " (inlineAll members) ++ ")"

/-- Each of several filters as one expression. -/
def inlineAll : List Condition → List String
  | [] => []
  | f :: fs => inline f :: inlineAll fs

end

end Condition

end VaultQuery
