import VaultQuery.Yaml.Node
import VaultQuery.Yaml.Scalar

/-!
Reading YAML in block form: maps and lists by their columns, explicit keys, empty maps and lists in
brackets, comments, and scalars in the three forms, which may go over several lines.
-/

namespace VaultQuery.Yaml

/-- A place in a document: the column and the text that is left. -/
structure Cursor where
  column : Nat
  rest : List Char
deriving DecidableEq, Repr

/-- The text of a document with one kind of line end, the separators of lines and paragraphs
excepted. -/
def normalized : List Char → List Char
  | [] => []
  | [c] => [if c == '\r' || c.toNat == 0x85 then '\n' else c]
  | c :: d :: cs =>
    if c == '\r' && d == '\n' then '\n' :: normalized cs
    else (if c == '\r' || c.toNat == 0x85 then '\n' else c) :: normalized (d :: cs)

/-- Goes over spaces, comments and line ends; says whether a line ended. -/
def skipGap (inComment crossed : Bool) (column : Nat) : List Char → Bool × Cursor
  | [] => (crossed, ⟨column, []⟩)
  | c :: cs =>
    if isBreak c then skipGap false true 0 cs
    else if inComment then skipGap true crossed (column + 1) cs
    else if c == ' ' then skipGap false crossed (column + 1) cs
    else if c == '#' then skipGap true crossed (column + 1) cs
    else (crossed, ⟨column, c :: cs⟩)

/-- The next content after a place, and whether it stands on a later line. -/
def Cursor.content (cur : Cursor) : Bool × Cursor :=
  skipGap false false cur.column cur.rest

/-! ## Scalars -/

/-- Blanks and breaks of a scalar that have been passed and not yet kept. -/
inductive Pending where
  | blanks (passed : List Char)
  /-- Line ends: the first one unless it was escaped, and the others. -/
  | breaks (first : Option Char) (others : List Char)
deriving DecidableEq, Repr

namespace Pending

/-- One more blank; at the start of a line blanks do not count. -/
def blank (c : Char) : Pending → Pending
  | .blanks passed => .blanks (passed ++ [c])
  | .breaks first others => .breaks first others

/-- One more line end. -/
def lineEnd (c : Char) : Pending → Pending
  | .blanks _ => .breaks (some c) []
  | .breaks first others => .breaks first (others ++ [c])

/-- What is kept: blanks inside a line; of line ends all but the first, and a space if there is no
other.  A separator of lines or paragraphs is kept even if it is the first. -/
def kept : Pending → List Char
  | .blanks passed => passed
  | .breaks none others => others
  | .breaks (some c) others =>
    if c != '\n' then c :: others else if others.isEmpty then [' '] else others

/-- Whether nothing is pending. -/
def isNone : Pending → Bool
  | .blanks [] => true
  | _ => false

/-- Whether a line end is pending. -/
def isBreaks : Pending → Bool
  | .blanks _ => false
  | .breaks _ _ => true

end Pending

/-- A scalar that has been read: its text, the place after it, and whether a line ended on the way
there. -/
structure Scanned where
  text : List Char
  after : Cursor
  crossed : Bool
deriving Repr

/-- Reads a plain scalar whose further lines start at column `least` or later.  `taken` is its text
so far, the last character first. -/
def plainScan (least : Nat) (taken : List Char) (crossed : Bool) (pending : Pending)
    (column : Nat) : List Char → Scanned
  | [] => ⟨taken.reverse, ⟨column, []⟩, crossed⟩
  | c :: cs =>
    let stop : Scanned := ⟨taken.reverse, ⟨column, c :: cs⟩, crossed || pending.isBreaks⟩
    if isBreak c then plainScan least taken crossed (pending.lineEnd c) 0 cs
    else if c == ' ' then plainScan least taken crossed (pending.blank c) (column + 1) cs
    else if c == '\t' then stop
    else if c == '#' && !pending.isNone then stop
    else if c == ':' && spaceFollows cs then stop
    else
      match pending with
      | .blanks passed => plainScan least (c :: passed.reverse ++ taken) crossed (.blanks [])
          (column + 1) cs
      | .breaks first others =>
        if column < least then stop
        else plainScan least (c :: (Pending.breaks first others).kept.reverse ++ taken) true
          (.blanks []) (column + 1) cs

/-- The state of reading a quoted scalar. -/
inductive QuoteState where
  | inside (pending : Pending)
  /-- A single quote has been passed, which ends the scalar or is the first of two. -/
  | quoteSeen
  /-- A backslash has been passed. -/
  | escape
  /-- Digits of an escape are being read. -/
  | digits (left value : Nat)
deriving DecidableEq, Repr

/-- The character of a short escape. -/
def unescape? (c : Char) : Option Char :=
  match c with
  | '0' => some (Char.ofNat 0)
  | 'a' => some (Char.ofNat 0x07)
  | 'b' => some (Char.ofNat 0x08)
  | 't' => some '\t'
  | '\t' => some '\t'
  | 'n' => some '\n'
  | 'v' => some (Char.ofNat 0x0B)
  | 'f' => some (Char.ofNat 0x0C)
  | 'r' => some '\r'
  | 'e' => some (Char.ofNat 0x1B)
  | ' ' => some ' '
  | '\x22' => some '\x22'
  | '\x5c' => some '\x5c'
  | '/' => some '/'
  | 'N' => some (Char.ofNat 0x85)
  | '_' => some (Char.ofNat 0xA0)
  | 'L' => some (Char.ofNat 0x2028)
  | 'P' => some (Char.ofNat 0x2029)
  | _ => none

/-- The number of digits of a long escape. -/
def escapeDigits? (c : Char) : Option Nat :=
  match c with
  | 'x' => some 2
  | 'u' => some 4
  | 'U' => some 8
  | _ => none

/-- The character with a code that an escape names. -/
def charOfCode (code : Nat) : Except Fault Char :=
  if code < 0x110000 then .ok (Char.ofNat code)
  else if code < 0x80000000 then .error .notACodePoint
  else .error .notACode

/-- Reads a quoted scalar after its opening quote.  `taken` is its text so far, the last character
first. -/
def quotedScan (double : Bool) (taken : List Char) (crossed : Bool) (state : QuoteState)
    (column : Nat) : List Char → Except Fault Scanned
  | [] =>
    match state with
    | .quoteSeen => .ok ⟨taken.reverse, ⟨column, []⟩, crossed⟩
    | _ => .error .malformed
  | c :: cs =>
    match state with
    | .inside pending =>
      let now := pending.kept.reverse ++ taken
      let nowCrossed := crossed || pending.isBreaks
      if isBreak c then quotedScan double taken crossed (.inside (pending.lineEnd c)) 0 cs
      else if c == ' ' || c == '\t' then
        quotedScan double taken crossed (.inside (pending.blank c)) (column + 1) cs
      else if double && c == '\x22' then .ok ⟨now.reverse, ⟨column + 1, cs⟩, nowCrossed⟩
      else if double && c == '\x5c' then
        quotedScan double now nowCrossed .escape (column + 1) cs
      else if !double && c == '\x27' then
        quotedScan double now nowCrossed .quoteSeen (column + 1) cs
      else quotedScan double (c :: now) nowCrossed (.inside (.blanks [])) (column + 1) cs
    | .quoteSeen =>
      if c == '\x27' then
        quotedScan double (c :: taken) crossed (.inside (.blanks [])) (column + 1) cs
      else .ok ⟨taken.reverse, ⟨column, c :: cs⟩, crossed⟩
    | .escape =>
      if isBreak c then quotedScan double taken true (.inside (.breaks none [])) 0 cs
      else match unescape? c, escapeDigits? c with
        | some e, _ =>
          quotedScan double (e :: taken) crossed (.inside (.blanks [])) (column + 1) cs
        | none, some n => quotedScan double taken crossed (.digits n 0) (column + 1) cs
        | none, none => .error .malformed
    | .digits left value =>
      if isHexDigit c then
        let value := 16 * value + digitOf c
        if left ≤ 1 then
          match charOfCode value with
          | .ok e => quotedScan double (e :: taken) crossed (.inside (.blanks [])) (column + 1) cs
          | .error f => .error f
        else quotedScan double taken crossed (.digits (left - 1) value) (column + 1) cs
      else .error .malformed

/-- Reads a scalar: its node, the place after it, and whether it went over a line end. -/
def scalarAt (least : Nat) (cur : Cursor) : Except Fault (Node × Cursor × Bool) :=
  let quoted (double : Bool) (cs : List Char) : Except Fault (Node × Cursor × Bool) :=
    (quotedScan double [] false (.inside (.blanks [])) (cur.column + 1) cs).map fun r =>
      (.quoted (String.ofList r.text), r.after, r.crossed)
  match cur.rest with
  | '\x22' :: cs => quoted true cs
  | '\x27' :: cs => quoted false cs
  | cs =>
    let r := plainScan least [] false (.blanks []) cur.column cs
    .ok (.plain r.text, r.after, r.crossed)

/-! ## Blocks -/

/-- What is left after a mark that a blank or the end follows. -/
def afterMark? (mark : Char) : List Char → Option (List Char)
  | [] => none
  | c :: cs => if c == mark && spaceFollows cs then some cs else none

/-- The place after the colon of a key, blanks before it left out. -/
def afterColon? (cur : Cursor) : Option Cursor :=
  let spaces := (cur.rest.takeWhile (· == ' ')).length
  (afterMark? ':' (cur.rest.drop spaces)).map fun cs => ⟨cur.column + spaces + 1, cs⟩

/-- Empty brackets, with the place after them. -/
def emptyBrackets? (cur : Cursor) : Option (Node × Cursor) :=
  let close (bracket : Char) (n : Node) (cs : List Char) : Option (Node × Cursor) :=
    match skipGap false false (cur.column + 1) cs with
    | (_, ⟨column, c :: rest⟩) => if c == bracket then some (n, ⟨column + 1, rest⟩) else none
    | _ => none
  match cur.rest with
  | '[' :: cs => close ']' (.list []) cs
  | '\x7b' :: cs => close '\x7d' (.map []) cs
  | _ => none

mutual

/-- Reads the node at a place; its lines start at column `least` or later. -/
def nodeAt : (fuel : Nat) → (least : Nat) → Cursor → Except Fault (Node × Cursor)
  | 0, _, _ => .error .malformed
  | fuel + 1, least, cur =>
    if (afterMark? '-' cur.rest).isSome then
      (itemsAt fuel cur.column cur).map fun (xs, after) => (.list xs, after)
    else if (afterMark? '?' cur.rest).isSome then
      (entriesAt fuel cur.column cur).map fun (es, after) => (.map es, after)
    else
      match emptyBrackets? cur with
      | some r => .ok r
      | none =>
        match scalarAt least cur with
        | .error f => .error f
        | .ok (n, after, crossed) =>
          if !crossed && (afterColon? after).isSome then
            (entriesAt fuel cur.column cur).map fun (es, after) => (.map es, after)
          else .ok (n, after)

/-- Reads what follows a mark in a block at `column`.  After the marks of a key and of its value, a
list may stand at the column of the block. -/
def valueAt : (fuel : Nat) → (inEntry : Bool) → (column : Nat) → Cursor →
    Except Fault (Node × Cursor)
  | 0, _, _, _ => .error .malformed
  | fuel + 1, inEntry, column, cur =>
    let (crossed, next) := cur.content
    if next.rest.isEmpty then .ok (.plain [], next)
    else if !crossed || column < next.column then nodeAt fuel (column + 1) next
    else if inEntry && next.column == column && (afterMark? '-' next.rest).isSome then
      (itemsAt fuel column next).map fun (xs, after) => (.list xs, after)
    else .ok (.plain [], next)

/-- Reads the items of a list at `column`. -/
def itemsAt : (fuel : Nat) → (column : Nat) → Cursor → Except Fault (List Node × Cursor)
  | 0, _, _ => .error .malformed
  | fuel + 1, column, cur =>
    match afterMark? '-' cur.rest with
    | none => .ok ([], cur)
    | some rest => do
      let (n, after) ← valueAt fuel false column ⟨cur.column + 1, rest⟩
      let (_, next) := after.content
      if next.column == column && (afterMark? '-' next.rest).isSome then
        let (ns, after) ← itemsAt fuel column next
        return (n :: ns, after)
      else return ([n], next)

/-- Reads one entry of a map at `column`: a key after a question mark, whose value may be missing,
or a scalar before a colon. -/
def entryAt : (fuel : Nat) → (column : Nat) → Cursor → Except Fault ((Node × Node) × Cursor)
  | 0, _, _ => .error .malformed
  | fuel + 1, column, cur =>
    match afterMark? '?' cur.rest with
    | some rest => do
      let (k, after) ← valueAt fuel true column ⟨cur.column + 1, rest⟩
      let (_, next) := after.content
      match afterMark? ':' next.rest with
      | some rest =>
        if next.column == column then do
          let (v, after) ← valueAt fuel true column ⟨next.column + 1, rest⟩
          return ((k, v), after)
        else return ((k, .plain []), next)
      | none => return ((k, .plain []), next)
    | none => do
      let (k, after, _) ← scalarAt (column + 1) cur
      match afterColon? after with
      | none => .error .malformed
      | some after =>
        let (v, after) ← valueAt fuel true column after
        return ((k, v), after)

/-- Reads the entries of a map at `column`. -/
def entriesAt : (fuel : Nat) → (column : Nat) → Cursor →
    Except Fault (List (Node × Node) × Cursor)
  | 0, _, _ => .error .malformed
  | fuel + 1, column, cur => do
    let (e, after) ← entryAt fuel column cur
    let (_, next) := after.content
    if next.column == column && !next.rest.isEmpty && (afterMark? '-' next.rest).isNone then
      let (es, after) ← entriesAt fuel column next
      return (e :: es, after)
    else return ([e], next)

end

/-- A text without the mark of its byte order, which may stand before it. -/
def unmarked : List Char → List Char
  | [] => []
  | c :: cs => if c.toNat == 0xFEFF then cs else c :: cs

/-- Reads a document; an empty one is null. -/
def read (s : String) : Except Fault Data :=
  let cs := normalized (unmarked s.toList)
  let (_, start) := Cursor.content ⟨0, cs⟩
  if start.rest.isEmpty then .ok .null
  else do
    let (n, _) ← nodeAt (6 * cs.length + 12) 0 start
    n.toData

end VaultQuery.Yaml
