import VaultQuery.Yaml.Scalar

/-!
Data as YAML in block form.  Maps and lists stand one entry a line; a list that is the value of a
key stands at the column of the key, and a map or a list that is an item of a list starts on the
line of its dash.
-/

namespace VaultQuery.Yaml

/-- The text of a real number, which always holds a point. -/
def realText (x : Binary64) : String :=
  let cs := x.text.toList
  if x.isFinite then
    if cs.contains '.' then x.text
    else String.ofList (cs.takeWhile (· != 'e') ++ '.' :: '0' :: cs.dropWhile (· != 'e'))
  else if x.text == "nan" then ".nan"
  else if x.isNegative then "-.inf"
  else ".inf"

/-- The text of a number, a truth value or a null. -/
def atomText? : Data → Option String
  | .null => some "null"
  | .bool b => some (if b then "true" else "false")
  | .int n => some (intText n)
  | .real x => some (realText x)
  | .stamp s => some s.text
  | .list [] => some "[]"
  | .map [] => some "\x7b\x7d"
  | _ => none

/-- The text of a key, before it is known how it is written. -/
def keyText (k : Key) : String :=
  match k with
  | .text s => s
  | _ => (atomText? k.toData).getD ""

/-- Whether a key stands on one line before a colon: it is short, not empty and has no breaks. -/
def isSimpleKey (k : Key) : Bool :=
  let cs := (keyText k).toList
  !cs.isEmpty && !isMultiline cs && 5 + cs.length < 128

/-- A key as a scalar. -/
def keyScalar (isSimple : Bool) (indent column : Nat) (k : Key) : List Char :=
  match k with
  | .text s => scalar isSimple indent column s
  | _ => (keyText k).toList

mutual

/-- The text of data after a dash, a question mark or a colon in a block that starts at `indent`;
`column` is the one after that mark.  After the colon of a simple key, maps and lists go to the
next line. -/
def node (afterKey : Bool) (indent column : Nat) : Data → List Char
  | .text s => ' ' :: scalar false (indent + 2) (column + 1) s
  | .list (x :: xs) =>
    if afterKey then newline indent ++ listItems indent (x :: xs)
    else ' ' :: listItems (indent + 2) (x :: xs)
  | .map (e :: es) =>
    if afterKey then newline (indent + 2) ++ mapEntries (indent + 2) (e :: es)
    else ' ' :: mapEntries (indent + 2) (e :: es)
  | d => ' ' :: ((atomText? d).getD "").toList

/-- The items of a list that starts at `indent`, the first without its indent. -/
def listItems (indent : Nat) : List Data → List Char
  | [] => []
  | d :: ds =>
    let item := '-' :: node false indent (indent + 1) d
    if ds.isEmpty then item else item ++ newline indent ++ listItems indent ds

/-- The entries of a map that starts at `indent`, the first without its indent.  A key that is not
simple stands after a question mark, with its value on the next line. -/
def mapEntries (indent : Nat) : List (Key × Data) → List Char
  | [] => []
  | (k, d) :: es =>
    let key := keyScalar true (indent + 2) indent k
    let entry :=
      if isSimpleKey k then key ++ ':' :: node true indent (indent + key.length + 1) d
      else
        '?' :: ' ' :: keyScalar false (indent + 2) (indent + 2) k ++ newline indent ++
          ':' :: node false indent (indent + 1) d
    if es.isEmpty then entry else entry ++ newline indent ++ mapEntries indent es

end

/-- The text of data that no block surrounds. -/
def rootNode : Data → List Char
  | .text s => scalar false 2 0 s
  | .list (x :: xs) => listItems 0 (x :: xs)
  | .map (e :: es) => mapEntries 0 (e :: es)
  | d => ((atomText? d).getD "").toList

/-- A document, which ends with a line end. -/
def document (d : Data) : String :=
  String.ofList (rootNode d ++ ['\n'])

end VaultQuery.Yaml
