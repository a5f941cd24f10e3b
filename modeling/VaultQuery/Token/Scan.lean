import VaultQuery.Fault
import VaultQuery.Text.Case
import VaultQuery.Token

/-!
Cutting a query text into tokens.  `lexeme` says what stands at the start of a text, given the kind
of the token before it; `scan` repeats it, one character at a time, and keeps the place.
-/

namespace VaultQuery.Token

/-! ## Places -/

/-- A place in a text: characters before it, its line and its column. -/
structure Position where
  offset : Nat := 0
  line : Nat := 1
  column : Nat := 1
deriving DecidableEq, Repr

/-- The place after one more character. -/
def Position.step (p : Position) (c : Char) : Position :=
  if c == '\n' then ⟨p.offset + 1, p.line + 1, 1⟩ else ⟨p.offset + 1, p.line, p.column + 1⟩

/-! ## What stands at the start of a text -/

/-- What stands at the start of a text: `length` characters that are skipped, or that form a
token. -/
inductive Lexeme where
  | gap (length : Nat)
  | token (kind : Kind) (text : String) (length : Nat)
deriving DecidableEq, Repr

/-- The blanks between tokens. -/
def isGap (c : Char) : Bool :=
  c == ' ' || c == '\t' || c == '\r' || c == '\n'

/-- The character that a backslash and `c` stand for inside a string. -/
def unescape (c : Char) : Char :=
  if c == 'n' then '\n' else if c == 't' then '\t' else if c == 'r' then '\r' else c

/-- The text of a string up to its closing quote, with the number of characters read; the opening
quote has been read. -/
def stringBody (quote : Char) : List Char → Option (List Char × Nat)
  | [] => none
  | [c] => if c == quote then some ([], 1) else none
  | c :: d :: cs =>
    if c == quote then some ([], 1)
    else if c == '\x5c' then (stringBody quote cs).map fun (s, n) => (unescape d :: s, n + 2)
    else (stringBody quote (d :: cs)).map fun (s, n) => (c :: s, n + 1)

/-- The text of a link up to its two closing brackets; the opening ones have been read. -/
def linkBody : List Char → Option (List Char)
  | ']' :: ']' :: _ => some []
  | [] => none
  | c :: cs => (linkBody cs).map (c :: ·)

/-- The target of a link: what stands before the first bar, without blanks around it. -/
def linkTarget (body : List Char) : String :=
  String.ofList (Text.trim (body.takeWhile (· != '|')))

/-- The number of digits at the start of a text, with a point and more digits if they follow. -/
def numberLength (cs : List Char) : Nat :=
  let whole := (cs.takeWhile Text.isDigit).length
  match cs.drop whole with
  | '.' :: rest =>
    let fraction := (rest.takeWhile Text.isDigit).length
    if fraction = 0 then whole else whole + 1 + fraction
  | _ => whole

/-- The number of characters of an identifier after its first one: word characters, and dashes that
a word character follows. -/
def identifierTail : List Char → Nat
  | [] => 0
  | c :: cs =>
    if Text.isWord c then identifierTail cs + 1
    else if c == '-' then
      match cs with
      | d :: _ => if Text.isWord d then identifierTail cs + 1 else 0
      | [] => 0
    else 0

/-- A character of a tag after its hash sign. -/
def isTagChar (c : Char) : Bool :=
  Text.isWord c || c == '/' || c == '-'

/-- Operators of two characters. -/
def pairOperator? (c d : Char) : Option Kind :=
  if d != '=' then none
  else if c == '!' then some .ne
  else if c == '<' then some .le
  else if c == '>' then some .ge
  else none

/-- Operators of one character. -/
def operator? (c : Char) : Option Kind :=
  match c with
  | '=' => some .eq
  | '<' => some .lt
  | '>' => some .gt
  | '+' => some .plus
  | '-' => some .minus
  | '*' => some .star
  | '/' => some .slash
  | '%' => some .percent
  | '&' => some .and
  | '|' => some .or
  | '!' => some .not
  | _ => none

/-- Punctuation. -/
def punctuation? (c : Char) : Option Kind :=
  match c with
  | ',' => some .comma
  | '(' => some .parenOpen
  | ')' => some .parenClose
  | '[' => some .bracketOpen
  | ']' => some .bracketClose
  | '.' => some .dot
  | _ => none

/-! ## Words -/

/-- The words that open a query, as they are spelled in upper case. -/
def headerWord? (upper : String) : Option Kind :=
  if upper == "TABLE" then some .table
  else if upper == "LIST" then some .list
  else if upper == "TASK" then some .task
  else if upper == "CALENDAR" then some .calendar
  else none

/-- The words that are keywords after the first token, as they are spelled in upper case. -/
def keyword? (upper : String) : Option Kind :=
  if upper == "FROM" then some .fromClause
  else if upper == "WHERE" then some .whereClause
  else if upper == "SORT" then some .sortClause
  else if upper == "LIMIT" then some .limitClause
  else if upper == "FLATTEN" then some .flattenClause
  else if upper == "AS" then some .asKeyword
  else if upper == "AND" then some .and
  else if upper == "OR" then some .or
  else if upper == "NOT" then some .not
  else if upper == "TRUE" then some .boolean
  else if upper == "FALSE" then some .boolean
  else if upper == "NULL" then some .null
  else none

/-- Whether `c` is the lower-case ASCII letter `l` in any case; the two other forms of the letter i
count as well. -/
def isLetterOf (l c : Char) : Bool :=
  c.toLower == l || (l == 'i' && (c.toNat == 0x130 || c.toNat == 0x131))

/-- What is left of a text after a lower-case word, in any case. -/
def afterWord? : List Char → List Char → Option (List Char)
  | [], cs => some cs
  | _ :: _, [] => none
  | l :: ls, c :: cs => if isLetterOf l c then afterWord? ls cs else none

/-- The number of characters of a phrase of two words with blanks between them, which no word
character follows. -/
def phraseLength? (first second : String) (cs : List Char) : Option Nat := do
  let rest ← afterWord? first.toList cs
  let gap := (rest.takeWhile Text.isBlank).length
  if gap = 0 then none
  let rest ← afterWord? second.toList (rest.drop gap)
  match rest with
  | c :: _ => if Text.isWord c then none
  | [] => pure ()
  return cs.length - rest.length

/-- The token that a phrase of two words forms. -/
def phraseToken (kind : Kind) (cs : List Char) (length : Nat) : Lexeme :=
  .token kind (String.ofList (Text.joinWords ' ' (Text.upper (cs.take length)))) length

/-- What a word of `length` characters at the start of a text is.  After a point every word is an
identifier; as the first token it may open a query, else it may be a keyword; a clause word with an
opening parenthesis right after it is a call. -/
def word (before : Option Kind) (cs : List Char) (length : Nat) : Lexeme :=
  let own := String.ofList (cs.take length)
  let upper := Text.upperCase own
  let identifier : Lexeme := .token .identifier own length
  match before with
  | some .dot => identifier
  | none =>
    match headerWord? upper with
    | some kind => .token kind upper length
    | none => identifier
  | some _ =>
    let groupBy := if upper == "GROUP" then phraseLength? "group" "by" cs else none
    let withoutId := if upper == "WITHOUT" then phraseLength? "without" "id" cs else none
    match groupBy, withoutId with
    | some n, _ => phraseToken .groupBy cs n
    | none, some n => phraseToken .withoutId cs n
    | none, none =>
      match keyword? upper with
      | none => identifier
      | some .boolean => .token .boolean own length
      | some kind =>
        if kind.isClause && (cs.drop length).head? == some '(' then identifier
        else .token kind upper length

/-! ## One lexeme -/

/-- The first twenty characters of a text, which a complaint about it shows. -/
def excerpt (cs : List Char) : String :=
  String.ofList (cs.take 20)

/-- What stands at the start of a text that is not empty, after a token of the kind `before`. -/
def lexeme (before : Option Kind) (c : Char) (cs : List Char) : Except Complaint Lexeme :=
  let all := c :: cs
  if isGap c then .ok (.gap 1)
  else if c == '/' && cs.head? == some '/' then
    .ok (.gap (Text.firstLine all).length)
  else if c == '\x22' || c == '\x27' then
    match stringBody c cs with
    | some (body, n) => .ok (.token .string (String.ofList body) (n + 1))
    | none => .error .unterminatedString
  else if c == '[' && cs.head? == some '[' then
    match linkBody (cs.drop 1) with
    | some body => .ok (.token .link (linkTarget body) (body.length + 4))
    | none => .error .unterminatedLink
  else if Text.isDigit c then
    match Moment.length? all with
    | some n => .ok (.token .date (String.ofList (all.take n)) n)
    | none =>
      let n := numberLength all
      .ok (.token .number (String.ofList (all.take n)) n)
  else if c == '#' && cs.head?.any isTagChar then
    let n := (cs.takeWhile isTagChar).length + 1
    .ok (.token .tag (String.ofList (all.take n)) n)
  else
    match cs.head?.bind (pairOperator? c), operator? c with
    | some kind, _ => .ok (.token kind (String.ofList (all.take 2)) 2)
    -- an operator claims two characters unless another one follows it
    | none, some kind => .ok (.token kind c.toString (if cs.isEmpty then 2 else 1))
    | none, none =>
      if Text.isWordStart c then .ok (word before all (identifierTail cs + 1))
      else match punctuation? c with
        | some kind => .ok (.token kind c.toString 1)
        | none => .error (.unexpectedCharacter c)

/-! ## The whole text -/

/-- The token of a lexeme that starts at a place. -/
def Position.place (p : Position) (kind : Kind) (text : String) (length : Nat) : Token :=
  ⟨kind, text, p.line, p.column, p.offset, p.offset + length⟩

/-- A complaint about the text at a place. -/
def Position.complain (p : Position) (complaint : Complaint) (cs : List Char) : Located :=
  ⟨complaint, some p.line, some p.column, excerpt cs⟩

/-- The tokens of a text from a place on: `before` is the kind of the last token, and the first
`skip` characters belong to the last lexeme.  The end of the text stands after all that the last
lexeme claims. -/
def scan (p : Position) (before : Option Kind) : (skip : Nat) → List Char →
    Except Located (List Token)
  | skip, [] => .ok [{ p with offset := p.offset + skip }.place .endOfText "" 0]
  | skip + 1, c :: cs => scan (p.step c) before skip cs
  | 0, c :: cs =>
    match lexeme before c cs with
    | .error complaint => .error (p.complain complaint (c :: cs))
    | .ok (.gap n) => scan (p.step c) before (n - 1) cs
    | .ok (.token kind text n) =>
      (scan (p.step c) (some kind) (n - 1) cs).map (p.place kind text n :: ·)

/-- The tokens of a query text, with the end of the text as the last one. -/
def tokenize (text : String) : Except Located (List Token) :=
  scan {} none 0 text.toList

end VaultQuery.Token
