import VaultQuery.Text.Quoted
import VaultQuery.Yaml.Plain

/-!
Texts as scalars of YAML: the choice between plain, single-quoted and double-quoted form, and the
writing of each form.  Lines are folded once they are longer than `width`.
-/

namespace VaultQuery.Yaml

/-! ## What a text holds -/

/-- A line break. -/
def isBreak (c : Char) : Bool :=
  c == '\n' || c.toNat == 0x85 || c.toNat == 0x2028 || c.toNat == 0x2029

/-- A blank or a break around an indicator. -/
def isSpace (c : Char) : Bool :=
  c == ' ' || c == '\t' || c == '\r' || c.toNat == 0 || isBreak c

/-- A character that stands in a text without an escape. -/
def isOrdinary (c : Char) : Bool :=
  let n := c.toNat
  c == '\n' || (0x20 ≤ n && n ≤ 0x7E) ||
    ((n == 0x85 || (0xA0 ≤ n && n ≤ 0xD7FF) || (0xE000 ≤ n && n ≤ 0xFFFD) ||
      (0x10000 ≤ n && n < 0x10FFFF)) && n != 0xFEFF)

/-- A blank or break, or nothing, comes next. -/
def spaceFollows : List Char → Bool
  | [] => true
  | c :: _ => isSpace c

/-- Characters that cannot start a plain scalar. -/
def isLeadingIndicator (c : Char) : Bool :=
  "#,[]\x7b\x7d&*!|>'\"%@`".toList.contains c

/-- Whether a colon before a blank, or a hash sign after one, stands in a text whose preceding
character is `before`. -/
def holdsIndicator (before : Char) : List Char → Bool
  | [] => false
  | c :: cs =>
    (c == ':' && spaceFollows cs) || (c == '#' && isSpace before) || holdsIndicator c cs

/-- Whether a plain scalar of this text would be taken for something else. -/
def hasIndicator (cs : List Char) : Bool :=
  "---".toList.isPrefixOf cs || "...".toList.isPrefixOf cs ||
    match cs with
    | [] => false
    | c :: rest =>
      isLeadingIndicator c ||
        ((c == '?' || c == ':' || c == '-') && spaceFollows rest) ||
        holdsIndicator c rest

/-- Whether two neighbouring characters have two properties. -/
def hasPair (p q : Char → Bool) : List Char → Bool
  | c :: d :: cs => (p c && q d) || hasPair p q (d :: cs)
  | _ => false

/-- A text that breaks into lines. -/
def isMultiline (cs : List Char) : Bool :=
  cs.any isBreak

/-- Whether a text can be written between single quotes. -/
def allowsSingle (cs : List Char) : Bool :=
  cs.all isOrdinary && !hasPair isBreak (· == ' ') cs && !hasPair (· == ' ') isBreak cs

/-- Whether a text can be written without quotes. -/
def allowsPlain (cs : List Char) : Bool :=
  allowsSingle cs && !isMultiline cs && !hasIndicator cs &&
    cs.head? != some ' ' && cs.getLast? != some ' '

/-! ## Styles -/

/-- The form of a scalar. -/
inductive Style where
  | plain | single | double
deriving DecidableEq, Repr

/-- The form in which a text is written; a key on one line cannot be broken. -/
def style (isKey : Bool) (cs : List Char) : Style :=
  if allowsPlain cs && !isReserved cs then .plain
  else if allowsSingle cs && !(isKey && isMultiline cs) then .single
  else .double

/-! ## Writing -/

/-- The column past which a line is folded. -/
def width : Nat := 80

/-- A line end with the spaces of the next line. -/
def newline (indent : Nat) : List Char :=
  '\n' :: List.replicate indent ' '

/-- Whether a single space may be folded: the line is long enough and no space follows. -/
def foldsHere (column : Nat) (rest : List Char) : Bool :=
  width < column && rest.head? != some ' '

/-- A plain scalar from a column on; `spaced` says that a space stands before. -/
def plainFrom (folds : Bool) (indent : Nat) : (column : Nat) → (spaced : Bool) → List Char →
    List Char
  | _, _, [] => []
  | column, spaced, c :: cs =>
    if c == ' ' && !spaced && folds && foldsHere column cs then
      newline indent ++ plainFrom folds indent indent false cs
    else c :: plainFrom folds indent (column + 1) (c == ' ') cs

/-- What stands before a character of a single-quoted scalar. -/
inductive Before where
  | opening | space | lineBreak | other
deriving DecidableEq, Repr

/-- A single-quoted scalar from a column on, up to its closing quote. -/
def singleFrom (folds : Bool) (indent : Nat) : (column : Nat) → Before → List Char → List Char
  | _, _, [] => ['\x27']
  | column, before, c :: cs =>
    if c == ' ' then
      if before != .space && before != .opening && !cs.isEmpty && folds && foldsHere column cs then
        newline indent ++ singleFrom folds indent indent .space cs
      else c :: singleFrom folds indent (column + 1) .space cs
    else if isBreak c then
      -- a run of breaks that starts with a line end takes one more, and the last one is indented
      let extra := if before != .lineBreak && c == '\n' then ['\n'] else []
      if cs.head?.any isBreak then
        extra ++ c :: singleFrom folds indent 0 .lineBreak cs
      else
        extra ++ c :: List.replicate indent ' ' ++ singleFrom folds indent indent .lineBreak cs
    else if c == '\x27' then
      c :: c :: singleFrom folds indent (column + 2) .other cs
    else c :: singleFrom folds indent (column + 1) .other cs

/-- The letter of a short escape. -/
def escapeLetter? (c : Char) : Option Char :=
  match c.toNat with
  | 0x00 => some '0'
  | 0x07 => some 'a'
  | 0x08 => some 'b'
  | 0x09 => some 't'
  | 0x0A => some 'n'
  | 0x0B => some 'v'
  | 0x0C => some 'f'
  | 0x0D => some 'r'
  | 0x1B => some 'e'
  | 0x22 => some '\x22'
  | 0x5C => some '\x5c'
  | 0x85 => some 'N'
  | 0xA0 => some '_'
  | 0x2028 => some 'L'
  | 0x2029 => some 'P'
  | _ => none

/-- Hexadecimal digits in upper case. -/
def upperHex (width n : Nat) : List Char :=
  (Text.hex width n).map Char.toUpper

/-- A character as an escape. -/
def escape (c : Char) : List Char :=
  match escapeLetter? c with
  | some l => ['\x5c', l]
  | none =>
    if c.toNat ≤ 0xFF then '\x5c' :: 'x' :: upperHex 2 c.toNat
    else if c.toNat ≤ 0xFFFF then '\x5c' :: 'u' :: upperHex 4 c.toNat
    else '\x5c' :: 'U' :: upperHex 8 c.toNat

/-- A character that stands between double quotes as it is. -/
def isUnescaped (c : Char) : Bool :=
  let n := c.toNat
  c != '\x22' && c != '\x5c' && n != 0x2028 && n != 0x2029 && n != 0xFEFF &&
    ((0x20 ≤ n && n ≤ 0x7E) || (0xA0 ≤ n && n ≤ 0xD7FF) || (0xE000 ≤ n && n ≤ 0xFFFD))

/-- A fold inside double quotes: the line end is escaped, and so is a space that starts the next
line. -/
def escapedNewline (indent : Nat) (next : Option Char) : List Char :=
  '\x5c' :: newline indent ++ if next == some ' ' then ['\x5c'] else []

/-- The column after a fold inside double quotes. -/
def foldedColumn (indent : Nat) (next : Option Char) : Nat :=
  if next == some ' ' then indent + 1 else indent

/-- A double-quoted scalar from a column on, up to its closing quote.  `first` marks its first
character, and `fresh` a character with an escape or a fold right before it. -/
def doubleFrom (folds : Bool) (indent : Nat) : (column : Nat) → (first fresh : Bool) → List Char →
    List Char
  | _, _, _, [] => ['\x22']
  | column, first, fresh, c :: cs =>
    let inside := !first && !cs.isEmpty && folds
    if isUnescaped c then
      if inside && (c == ' ' || fresh) && width < column then
        escapedNewline indent (some c) ++
          c :: doubleFrom folds indent (foldedColumn indent (some c) + 1) false false cs
      else c :: doubleFrom folds indent (column + 1) false false cs
    else
      let e := escape c
      if inside && width < column + e.length - 1 then
        e ++ escapedNewline indent cs.head? ++
          doubleFrom folds indent (foldedColumn indent cs.head?) false true cs
      else e ++ doubleFrom folds indent (column + e.length) false true cs

/-- A text as a scalar that starts at a column; `indent` is where its further lines start. -/
def scalar (isKey : Bool) (indent column : Nat) (s : String) : List Char :=
  let cs := s.toList
  match style isKey cs with
  | .plain => plainFrom (!isKey) indent column false cs
  | .single => '\x27' :: singleFrom (!isKey) indent (column + 1) .opening cs
  | .double => '\x22' :: doubleFrom (!isKey) indent (column + 1) true true cs

end VaultQuery.Yaml
