import VaultQuery.Data.Check
import VaultQuery.Filter
import VaultQuery.Query

/-!
Bases: the definition of views over the pages of a vault, and its form as plain data.
-/

namespace VaultQuery

/-- One key that a view is sorted by. -/
structure SortKey where
  column : String
  direction : Direction := .asc
deriving DecidableEq, Repr

/-- A view, with filters of type `φ`. -/
structure View (φ : Type) where
  layout : String := "table"
  name : String := "Default view"
  limit : Option Int := none
  filters : Option φ := none
  order : Option (List String) := none
  groupBy : Option String := none
  sort : Option (List SortKey) := none
deriving Repr

/-- The definition of a base, with filters of type `φ`. -/
structure Base (φ : Type) where
  filters : Option φ := none
  formulas : Option (List (String × String)) := none
  display : Option (List (String × String)) := none
  views : List (View φ) := []
deriving Repr

/-! ## Filters as data -/

namespace Data

/-- A map with one text key. -/
def single (key : String) (value : Data) : Data :=
  .map [(.text key, value)]

mutual

/-- A filter as data: a text, or a map from the connective to the list of the members. -/
def ofCondition : Condition → Data
  | .leaf s => .text s
  | .group c members => single c.key (.list (ofConditions members))

/-- Each of several filters as data. -/
def ofConditions : List Condition → List Data
  | [] => []
  | f :: fs => ofCondition f :: ofConditions fs

end

mutual

/-- Data in which maps have no entries without a value. -/
def pruned : Data → Data
  | .list items => .list (prunedAll items)
  | .map entries => .map (prunedEntries entries)
  | d => d

/-- Each of several data without empty entries. -/
def prunedAll : List Data → List Data
  | [] => []
  | d :: ds => pruned d :: prunedAll ds

/-- Entries without those that have no value. -/
def prunedEntries : List (Key × Data) → List (Key × Data)
  | [] => []
  | (_, .null) :: es => prunedEntries es
  | (k, d) :: es => (k, pruned d) :: prunedEntries es

end

/-- A map from texts to texts. -/
def ofPairs (pairs : List (String × String)) : Data :=
  .map (pairs.map fun p => (.text p.1, .text p.2))

/-- A list of texts. -/
def ofTexts (texts : List String) : Data :=
  .list (texts.map .text)

/-- An entry, unless it has no value. -/
def entry? (name : String) (value : Option Data) : List (Key × Data) :=
  match value with
  | none | some .null => []
  | some d => [(.text name, d)]

end Data

/-! ## Definitions as data -/

namespace View

/-- A view whose filters are turned into another form. -/
def mapFilters {φ ψ : Type} (f : φ → ψ) (v : View φ) : View ψ :=
  { v with filters := v.filters.map f }

/-- A sort key as data. -/
def sortKeyData (k : SortKey) : Data :=
  .map [(.text "column", .text k.column), (.text "direction", .text k.direction.word)]

/-- A view as data, without entries that have no value. -/
def toData (v : View Data) : Data :=
  .map (
    [(.text "type", .text v.layout), (.text "name", .text v.name)] ++
    Data.entry? "limit" (v.limit.map .int) ++
    Data.entry? "filters" (v.filters.map Data.pruned) ++
    Data.entry? "order" (v.order.map Data.ofTexts) ++
    Data.entry? "group_by" (v.groupBy.map .text) ++
    Data.entry? "sort" (v.sort.map fun ks => .list (ks.map sortKeyData)))

end View

namespace Base

/-- A base whose filters are turned into another form. -/
def mapFilters {φ ψ : Type} (f : φ → ψ) (b : Base φ) : Base ψ :=
  { b with filters := b.filters.map f, views := b.views.map (View.mapFilters f) }

/-- A base as data, without entries that have no value. -/
def toData (b : Base Data) : Data :=
  .map (
    Data.entry? "filters" (b.filters.map Data.pruned) ++
    Data.entry? "formulas" (b.formulas.map Data.ofPairs) ++
    Data.entry? "display" (b.display.map Data.ofPairs) ++
    [(.text "views", .list (b.views.map View.toData))])

end Base

/-! ## Definitions from data -/

namespace Data

/-- The direction of a sort key. -/
def asDirection : Data → Checked Direction
  | .text "asc" => .ok .asc
  | .text "desc" => .ok .desc
  | _ => .fail .notChoice

/-- A value that must be there. -/
def required {α : Type} (check : Data → Checked α) : Option Data → Checked α
  | none => .fail .missing
  | some d => check d

/-- A sort key. -/
def asSortKey : Data → Checked SortKey
  | .map es =>
    Checked.ap (Checked.ap (.ok SortKey.mk)
      ((required asText (get? es "column")).at_ "column"))
      ((orDefault .asc asDirection (get? es "direction")).at_ "direction")
  | _ => .fail .notModel

/-- Any data but null. -/
def present? : Option Data → Option Data
  | some .null => none
  | d => d

/-- A view. -/
def asView : Data → Checked (View Data)
  | .map es =>
    let layout := (orDefault "table" asText (get? es "type")).at_ "type"
    let name := (orDefault "Default view" asText (get? es "name")).at_ "name"
    let limit := (optional asInt (get? es "limit")).at_ "limit"
    let order := (optional (asList asText) (get? es "order")).at_ "order"
    let groupBy := (optional asText (get? es "group_by")).at_ "group_by"
    let sort := (optional (asList asSortKey) (get? es "sort")).at_ "sort"
    let make (layout name : String) (limit : Option Int) (order : Option (List String))
        (groupBy : Option String) (sort : Option (List SortKey)) : View Data :=
      { layout, name, limit, filters := present? (get? es "filters"), order, groupBy, sort }
    Checked.ap (Checked.ap (Checked.ap (Checked.ap (Checked.ap (Checked.ap (.ok make) layout) name)
      limit) order) groupBy) sort
  | _ => .fail .notModel

/-- A base. -/
def asBase : Data → Checked (Base Data)
  | .map es =>
    let formulas := (optional asTextMap (get? es "formulas")).at_ "formulas"
    let display := (optional asTextMap (get? es "display")).at_ "display"
    let views := (orDefault [] (asList asView) (get? es "views")).at_ "views"
    let make (formulas display : Option (List (String × String))) (views : List (View Data)) :
        Base Data :=
      { filters := present? (get? es "filters"), formulas, display, views }
    Checked.ap (Checked.ap (Checked.ap (.ok make) formulas) display) views
  | _ => .fail .notModel

end Data

end VaultQuery
