import VaultQuery.Data.Check
import VaultQuery.Text.Case

/-!
Settings of a conversion: defaults, values from the environment, and values given outright.
-/

namespace VaultQuery

/-- The settings of a conversion. -/
structure Settings where
  /-- The name of the view. -/
  viewName : String := "Default view"
  /-- Whether filters belong to the view or to the base. -/
  filtersInView : Bool := true
  /-- How deep a query may nest. -/
  nestingLimit : Nat := 32
  /-- How deep the tree of a query may be. -/
  treeLimit : Nat := 200
  /-- Whether a limit that is no positive integer is refused. -/
  strictLimit : Bool := false
  logLevel : String := "INFO"
deriving DecidableEq, Repr

namespace Settings

/-- What the name of an environment variable starts with, in lower case. -/
def variableStem : String := "dataview_bases_"

/-- The value under a name in any case; of several spellings the last one counts. -/
def findAnyCase {α : Type} (entries : List (String × α)) (name : String) : Option α :=
  (entries.reverse.find? fun e => Text.lowerCase e.1 == name).map (·.2)

/-- The value of a setting: the one given outright, in the spelling of the name if there is one,
else the one of the environment. -/
def lookup (given : List (String × Data)) (environment : List (String × String)) (name : String) :
    Option Data :=
  match (given.lookup name).or (findAnyCase given name) with
  | some d => some d
  | none => (findAnyCase environment (variableStem ++ name)).map .text

/-- The settings for values given outright and an environment. -/
def make (given : List (String × Data)) (environment : List (String × String)) :
    Checked Settings :=
  let value := lookup given environment
  let field {α : Type} (name : String) (default : α) (check : Data → Checked α) : Checked α :=
    (Data.orDefault default check (value name)).at_ name
  let defaults : Settings := {}
  Checked.ap (Checked.ap (Checked.ap (Checked.ap (Checked.ap (Checked.ap (.ok Settings.mk)
    (field "view_name" defaults.viewName Data.asText))
    (field "place_filters_in_view" defaults.filtersInView Data.asBool))
    (field "max_nesting_depth" defaults.nestingLimit Data.asPositive))
    (field "max_tree_depth" defaults.treeLimit Data.asPositive))
    (field "strict_limit" defaults.strictLimit Data.asBool))
    (field "log_level" defaults.logLevel Data.asText)

/-- Settings that are read from the environment once and kept from then on. -/
structure Kept where
  settings? : Option Settings := none
deriving DecidableEq, Repr

/-- The settings that are kept; if there are none, those of the environment, kept from now on
unless they are not valid. -/
def Kept.get (k : Kept) (environment : List (String × String)) : Checked (Settings × Kept) :=
  match k.settings? with
  | some s => .ok (s, k)
  | none => (make [] environment).map fun s => (s, ⟨some s⟩)

/-- Forgets what was kept. -/
def Kept.clear (_ : Kept) : Kept :=
  {}

theorem Kept.get_of_some {k : Kept} {s : Settings} (h : k.settings? = some s)
    (environment : List (String × String)) : k.get environment = .ok (s, k) := by
  simp [Kept.get, h]

end Settings

end VaultQuery
