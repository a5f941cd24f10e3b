import VaultQuery.Base.Build
import VaultQuery.Base.Yaml
import VaultQuery.Note
import VaultQuery.Query.Read

/-!
From the text of a query, or of a note with queries in it, to bases and their documents.
-/

namespace VaultQuery

/-- The base of a query text, with what was noted on the way. -/
def convert (s : Settings) (text : String) (inView : Option Bool) :
    Except Fault (Base Condition) × List Remark :=
  match Query.read text s.nestingLimit with
  | .error (.malformed e) =>
    let remarks := if e.complaint = .nestedTooDeeply then []
      else [⟨.debug, "Dataview syntax error: " ++ e.message⟩]
    (.error (.malformed e), remarks)
  | .error f => (.error f, [])
  | .ok q =>
    let (r, w) := (Work.base s q inView).run.run {}
    (r, w.remarks)

/-- The document of a query text. -/
def convertToYaml (s : Settings) (text : String) (inView : Option Bool) : Except Fault String :=
  (convert s text inView).1.bind Base.toYaml

/-- What an answer that is no document starts with. -/
def errorStem : String := "# Error parsing Dataview query"

/-- Whether a fault is about the query, and so is reported in place of a document. -/
def Fault.isReported : Fault → Bool
  | .malformed _ | .unsupported _ | .obstacle _ | .tooDeepToWrite => true
  | .numeral _ | .tooLarge | .noOperand => false

/-- The document of a query text, or a comment line that says what is wrong with it. -/
def convertQuery (s : Settings) (text : String) (inView : Option Bool) : Except Fault String :=
  match convertToYaml s text inView with
  | .ok yaml => .ok yaml
  | .error f => if f.isReported then .ok (errorStem ++ ": " ++ f.message) else .error f

/-! ## Notes -/

/-- What is wrong with a query block: the kind of the problem and the message. -/
structure Problem where
  kind : String
  message : String
deriving DecidableEq, Repr

/-- The problem that a fault is for a query block. -/
def Fault.problem? : Fault → Option Problem
  | .malformed e => some ⟨"syntax", e.message⟩
  | .unsupported u => some ⟨"unsupported", u.message⟩
  | .obstacle o => some ⟨"transform", o.message⟩
  | .tooDeepToWrite => some ⟨"transform", "Query is nested too deeply to convert"⟩
  | .numeral _ | .tooLarge | .noOperand => none

/-- The outcome of one query block. -/
structure BlockRecord where
  id : String
  source : String
  /-- The line of the opening fence, counted from one. -/
  line : Nat
  outcome : Except Problem String

/-- Converts one query block, the one with a given number. -/
def Block.convert (s : Settings) (number : Nat) (b : Block) : Except Fault BlockRecord :=
  let record (outcome : Except Problem String) : BlockRecord :=
    { id := "dv-" ++ toString number
      source := "```dataview\n" ++ b.query ++ "\n```"
      line := b.start + 1
      outcome }
  match convertToYaml s b.query none with
  | .ok yaml => .ok (record (.ok yaml))
  | .error f =>
    match f.problem? with
    | some p => .ok (record (.error p))
    | none => .error f

/-- Converts query blocks, the first of which has a given number. -/
def convertBlocks (s : Settings) : (number : Nat) → List Block → Except Fault (List BlockRecord)
  | _, [] => .ok []
  | number, b :: bs => do
    let r ← b.convert s number
    let rs ← convertBlocks s (number + 1) bs
    return r :: rs

/-- Converts every query block of a note. -/
def convertNote (s : Settings) (note : String) : Except Fault (List BlockRecord) :=
  convertBlocks s 1 (Block.all note)

end VaultQuery
