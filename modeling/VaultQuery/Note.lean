import VaultQuery.Text.Blank
import VaultQuery.Text.Pattern
import VaultQuery.Token.Scan

/-!
Query blocks in the text of a note: what stands between a fence that names the query language and
the next fence without a name.
-/

namespace VaultQuery

open Text (Pattern)

/-- A query block: its text, and the lines of its two fences, counted from zero. -/
structure Block where
  query : String
  start : Nat
  stop : Nat
deriving DecidableEq, Repr

namespace Block

/-- A blank inside a line. -/
def isInlineBlank (c : Char) : Bool :=
  c == ' ' || c == '\t'

/-- A character that ends a line. -/
def isLineEnd (c : Char) : Bool :=
  c == '\r' || c == '\n'

/-- A line with a fence and a word in any case, without its end. -/
def fence (word : String) : Pattern :=
  [.lineStart, .many isInlineBlank] ++ "```".toList.map (fun mark => .one (· == mark)) ++
    word.toList.map (fun letter => .one (Token.isLetterOf letter)) ++
    [.many isInlineBlank, .perhaps (· == '\r')]

/-- The line that opens a block: a fence with the name of the query language. -/
def opening : Pattern :=
  fence "dataview" ++ [.one (· == '\n')]

/-- The line that closes a block: a fence and nothing else. -/
def closing : Pattern :=
  fence "" ++ [.lineEnd]

/-- A whole block; as little as possible stands between its fences. -/
def pattern : Pattern :=
  opening ++ .few (fun _ => true) :: closing

/-- The block that was found at a place of a text. -/
def ofStretches (text : List Char) (place : Nat) (ts : List (List Char)) : Block :=
  { query := String.ofList (Text.dropEndWhile isLineEnd (ts.getD opening.length []))
    start := (text.take place).count '\n'
    stop := (text.take (place + ts.flatten.length)).count '\n' }

/-- The blocks of a note, in order; a block that is not closed does not count. -/
def all (note : String) : List Block :=
  let text := note.toList
  (pattern.search 0 none 0 text).map fun (place, ts) => ofStretches text place ts

/-- Whether a note has a block. -/
def occurs (note : String) : Bool :=
  pattern.occurs none note.toList

/-- A block as it is shown. -/
def shown (b : Block) : String :=
  "DataviewBlock(lines=" ++ toString b.start ++ "-" ++ toString b.stop ++ ")"

end Block

end VaultQuery
