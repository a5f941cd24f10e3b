import VaultQuery.Base
import VaultQuery.Fault
import VaultQuery.Yaml.Read
import VaultQuery.Yaml.Write

/-!
Bases as YAML documents.
-/

namespace VaultQuery

namespace Filter

mutual

/-- The number of groups inside each other. -/
def groupDepth {κ α : Type} : Filter κ α → Nat
  | .leaf _ => 0
  | .group _ members => groupDepths members + 1

/-- The largest number of groups inside each other in one of several filters. -/
def groupDepths {κ α : Type} : List (Filter κ α) → Nat
  | [] => 0
  | f :: fs => max (groupDepth f) (groupDepths fs)

end

end Filter

namespace Base

/-- The document of a base with any data for filters. -/
def document (b : Base Data) : String :=
  Yaml.document b.toData

/-- How many groups inside each other are written at most. -/
def writableDepth : Nat := 160

/-- The largest number of groups inside each other in the filters of a base. -/
def groupDepth (b : Base Condition) : Nat :=
  let depth (f : Option Condition) : Nat := (f.map Filter.groupDepth).getD 0
  (b.views.map fun v => depth v.filters).foldl max (depth b.filters)

/-- The document of a base, unless its filters have too many groups inside each other. -/
def toYaml (b : Base Condition) : Except Fault String :=
  if writableDepth < b.groupDepth then .error .tooDeepToWrite
  else .ok (b.mapFilters Data.ofCondition).document

/-- What counts as nothing: null, falsehood, zero, and whatever is empty. -/
def countsAsNothing : Data → Bool
  | .null | .bool false | .int 0 | .text "" | .list [] | .map [] => true
  | .real x => x.toInt? == some 0
  | _ => false

/-- A base from data, where what counts as nothing stands for an empty one. -/
def ofData (d : Data) : Checked (Base Data) :=
  if countsAsNothing d then Data.asBase (.map []) else d.asBase

/-- Whether two bases define the same. -/
def same (a b : Base Data) : Bool :=
  Data.same a.toData b.toData

/-- Reads the document of a base. -/
def read (text : String) : Except Yaml.Fault (Checked (Base Data)) :=
  (Yaml.read text).map ofData

end Base

end VaultQuery
