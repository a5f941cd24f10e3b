import VaultQuery.Stamp

/-!
Plain data: what a document of definitions holds before it is known to be one.
-/

namespace VaultQuery

/-- A key of a map: a text or another scalar. -/
inductive Key where
  | null
  | bool (value : Bool)
  | int (value : Int)
  | real (value : Binary64)
  | text (value : String)
  | stamp (value : Stamp)
deriving DecidableEq, Repr

namespace Key

/-- The integer that a key is, or is equal to: truth values count as one and zero. -/
def whole? : Key → Option Int
  | .bool b => some (if b then 1 else 0)
  | .int n => some n
  | .real x => x.toInt?
  | _ => none

/-- Whether two keys are the same: equal numbers are, whatever their kind, and so are time stamps of
the same moment. -/
def same (k l : Key) : Bool :=
  match k, l with
  | .stamp s, .stamp t => s.same t
  | _, _ =>
    match k.whole?, l.whole? with
    | some m, some n => m == n
    | none, none => k == l
    | _, _ => false

/-- The name of a key in the path to a place of a document. -/
def label : Key → String
  | .null => "None"
  | .bool b => if b then "1" else "0"
  | .int n => intText n
  | .real x => x.text
  | .text s => s
  | .stamp s => s.shown

end Key

/-- Plain data. -/
inductive Data where
  | null
  | bool (value : Bool)
  | int (value : Int)
  | real (value : Binary64)
  | text (value : String)
  | stamp (value : Stamp)
  | list (items : List Data)
  | map (entries : List (Key × Data))
deriving Repr

instance : Inhabited Data := ⟨.null⟩

/-- A key as data. -/
def Key.toData : Key → Data
  | .null => .null
  | .bool b => .bool b
  | .int n => .int n
  | .real x => .real x
  | .text s => .text s
  | .stamp s => .stamp s

namespace Data

/-- Scalar data as a key; maps and lists are none. -/
def toKey? : Data → Option Key
  | .null => some .null
  | .bool b => some (.bool b)
  | .int n => some (.int n)
  | .real x => some (.real x)
  | .text s => some (.text s)
  | .stamp s => some (.stamp s)
  | .list _ => none
  | .map _ => none

@[simp]
theorem toKey?_toData (k : Key) : k.toData.toKey? = some k := by
  cases k <;> rfl

/-- Entries with one more, where a key has one place, the first, and one value, the last. -/
def insert (entries : List (Key × Data)) (key : Key) (value : Data) : List (Key × Data) :=
  if entries.any (·.1.same key) then
    entries.map fun e => if e.1.same key then (e.1, value) else e
  else entries ++ [(key, value)]

/-- The value of a text key in a map. -/
def get? (entries : List (Key × Data)) (name : String) : Option Data :=
  (entries.find? fun e => e.1 == .text name).map (·.2)

mutual

/-- Whether two data are the same. -/
def same : Data → Data → Bool
  | .null, .null => true
  | .bool a, .bool b => a == b
  | .int a, .int b => a == b
  | .real a, .real b => a == b
  | .text a, .text b => a == b
  | .stamp a, .stamp b => a.same b
  | .list xs, .list ys => sameAll xs ys
  | .map xs, .map ys => sameEntries xs ys
  | _, _ => false

/-- Whether two lists of data are the same. -/
def sameAll : List Data → List Data → Bool
  | [], [] => true
  | x :: xs, y :: ys => same x y && sameAll xs ys
  | _, _ => false

/-- Whether two lists of entries are the same. -/
def sameEntries : List (Key × Data) → List (Key × Data) → Bool
  | [], [] => true
  | (k, x) :: xs, (l, y) :: ys => k == l && same x y && sameEntries xs ys
  | _, _ => false

end

end Data

end VaultQuery
