import VaultQuery.Moment
import VaultQuery.Number

/-!
What can go wrong, as causes.  A complaint about the text of a query carries the place it points
to; the wording of every cause stands in one function.
-/

namespace VaultQuery

/-- What is wrong with the text of a query. -/
inductive Complaint where
  | unexpectedCharacter (c : Char)
  | unterminatedString
  | unterminatedLink
  | nestingExceeded (limit : Int)
  | leftover (text clause : String)
  | aliasExpected
  | propertyExpected
  | indexNotClosed
  | moment (fault : MomentFault)
  | parenNotClosed
  | listNotClosed
  | argumentsNotClosed
  | expressionEnds
  | unexpectedToken (text : String)
  | sourceNotClosed
  | sourceEnds
  | sourceExpected (text : String)
  | queryTypeExpected (text : String)
  | unmatched (text : String)
  | valueExpected (keyword : String)
  | duplicateFrom
  /-- The text is nested deeper than can be followed, whatever the limit. -/
  | nestedTooDeeply
deriving DecidableEq, Repr

/-- The wording of a complaint, without its place. -/
def Complaint.message : Complaint → String
  | .unexpectedCharacter c => "Unexpected character '" ++ c.toString ++ "'"
  | .unterminatedString => "Unterminated string"
  | .unterminatedLink => "Unterminated link"
  | .nestingExceeded limit => "Maximum nesting depth of " ++ intText limit ++ " exceeded"
  | .leftover text clause => "Unexpected '" ++ text ++ "' in " ++ clause ++ " clause"
  | .aliasExpected => "Expected alias after AS"
  | .propertyExpected => "Expected property name after '.'"
  | .indexNotClosed => "Expected ']' after index"
  | .moment fault => fault.message
  | .parenNotClosed => "Expected ')' after expression"
  | .listNotClosed => "Expected ']' after list items"
  | .argumentsNotClosed => "Expected ')' after function arguments"
  | .expressionEnds => "Unexpected end of expression"
  | .unexpectedToken text => "Unexpected token: " ++ text
  | .sourceNotClosed => "Expected ')' after source"
  | .sourceEnds => "Expected source after FROM"
  | .sourceExpected text => "Expected source path, got " ++ text
  | .queryTypeExpected text =>
    "Expected query type (TABLE, LIST, TASK, CALENDAR), got " ++
      if text.isEmpty then "nothing" else text
  | .unmatched text => "Unmatched '" ++ text ++ "'"
  | .valueExpected keyword => "Expected a value after " ++ keyword
  | .duplicateFrom => "Duplicate FROM clause"
  | .nestedTooDeeply => "Query is nested too deeply to parse"

/-- A complaint with the place it points to, as far as it is known. -/
structure Located where
  complaint : Complaint
  line : Option Nat
  column : Option Nat
  fragment : String
deriving DecidableEq, Repr

/-- A complaint with its place in words. -/
def Located.message (e : Located) : String :=
  let place := match e.line, e.column with
    | none, _ => ""
    | some line, none => " at line " ++ toString line
    | some line, some column => " at line " ++ toString line ++ ", column " ++ toString column
  let near := if e.fragment.isEmpty || e.complaint = .nestedTooDeeply then ""
    else " near " ++ Text.shown e.fragment
  e.complaint.message ++ place ++ near

/-- What a query says that a base cannot. -/
inductive Unsupported where
  | header (keyword : String)
  | limit (amount : String)
deriving DecidableEq, Repr

namespace Unsupported

/-- The name of the construct. -/
def construct : Unsupported → String
  | .header keyword => keyword
  | .limit _ => "LIMIT"

/-- The wording. -/
def message : Unsupported → String
  | .header keyword =>
    keyword ++ " queries are not supported. Please use TABLE queries instead."
  | .limit amount => "LIMIT amount must be a positive integer, got " ++ amount

end Unsupported

/-- Why a query tree has no base. -/
inductive Obstacle where
  /-- One more level would pass the limit. -/
  | tooDeep (limit : Nat)
  /-- A chain of logical operators changes its operator too often. -/
  | chainTooDeep (limit : Nat)
  | foreignField (label : String)
  | foreignSource (label : String)
  | foreignOperation (text : String)
deriving DecidableEq, Repr

/-- The wording of an obstacle. -/
def Obstacle.message : Obstacle → String
  | .tooDeep limit | .chainTooDeep limit =>
    "Query is nested deeper than " ++ toString limit ++ " levels"
  | .foreignField label => "Unknown field type: " ++ label
  | .foreignSource label => "Unknown source type: " ++ label
  | .foreignOperation text => "Unknown operation: " ++ text

/-- Every way in which a conversion can fail. -/
inductive Fault where
  | malformed (e : Located)
  | unsupported (u : Unsupported)
  | obstacle (o : Obstacle)
  | numeral (n : NumeralFault)
  /-- An integer is beyond the largest real number. -/
  | tooLarge
  /-- A joined source whose operator is neither of the two has no operands to start from. -/
  | noOperand
  /-- The filter has more nested groups than can be written. -/
  | tooDeepToWrite
deriving DecidableEq, Repr

/-- The wording of a fault. -/
def Fault.message : Fault → String
  | .malformed e => e.message
  | .unsupported u => u.message
  | .obstacle o => o.message
  | .numeral n => n.message
  | .tooLarge => "int too large to convert to float"
  | .noOperand => "list index out of range"
  | .tooDeepToWrite => "query is nested too deeply"

end VaultQuery
