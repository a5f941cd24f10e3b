import VaultQuery.Yaml.Plain

/-!
The nodes of a document as they are read, before plain scalars have a meaning, and the data that
they stand for.
-/

namespace VaultQuery.Yaml

/-- A node of a document. -/
inductive Node where
  | plain (text : List Char)
  | quoted (text : String)
  | list (items : List Node)
  | map (entries : List (Node × Node))

instance : Inhabited Node := ⟨.plain []⟩

namespace Node

mutual

/-- The faults of a node, each with the number of maps and lists around it. -/
def faults (depth : Nat) : Node → List (Nat × Fault)
  | .plain cs =>
    match resolve cs with
    | .ok _ => []
    | .error f => [(depth, f)]
  | .quoted _ => []
  | .list xs => faultsAll (depth + 1) xs
  | .map es => faultsEntries (depth + 1) es

/-- The faults of several nodes. -/
def faultsAll (depth : Nat) : List Node → List (Nat × Fault)
  | [] => []
  | x :: xs => faults depth x ++ faultsAll depth xs

/-- The faults of the keys and values of a map; a key has to be a scalar. -/
def faultsEntries (depth : Nat) : List (Node × Node) → List (Nat × Fault)
  | [] => []
  | (k, v) :: es =>
    (match k with
      | .list _ => [(depth, .collectionKey)]
      | .map _ => [(depth, .collectionKey)]
      | k => faults depth k) ++ faults depth v ++ faultsEntries depth es

end

/-- The fault with the fewest maps and lists around it, and of those the first. -/
def foremost (fs : List (Nat × Fault)) : Option Fault :=
  (fs.foldl (fun best f =>
    match best with
    | none => some f
    | some b => if f.1 < b.1 then some f else some b) none).map (·.2)

mutual

/-- The data of a node, where a scalar with a fault is null. -/
def plainData : Node → Data
  | .plain cs => (resolve cs).toOption.getD .null
  | .quoted s => .text s
  | .list xs => .list (plainDataAll xs)
  | .map es => .map (entriesFrom [] es)

/-- The data of several nodes. -/
def plainDataAll : List Node → List Data
  | [] => []
  | x :: xs => plainData x :: plainDataAll xs

/-- The entries of a map; `found` holds those before. -/
def entriesFrom (found : List (Key × Data)) : List (Node × Node) → List (Key × Data)
  | [] => found
  | (k, v) :: es =>
    entriesFrom (Data.insert found ((plainData k).toKey?.getD .null) (plainData v)) es

end

/-- The data of a node, unless it has a fault. -/
def toData (n : Node) : Except Fault Data :=
  match foremost (n.faults 0) with
  | some f => .error f
  | none => .ok n.plainData

end Node

end VaultQuery.Yaml
