import VaultQuery.Text.Blank
import VaultQuery.Text.Case

/-!
The words that queries and bases spell differently: properties, functions and relative dates; and
the labels of columns.
-/

namespace VaultQuery.Vocabulary

/-- Properties of files that a base spells in its own way. -/
def properties : List (String × String) :=
  [("file.ext", "file.extension"), ("file.cday", "file.ctime"), ("file.mday", "file.mtime"),
   ("file.outlinks", "file.links"), ("file.inlinks", "file.backlinks")]

/-- Functions, in lower case, that a base spells in its own way. -/
def functions : List (String × String) :=
  [("avg", "average"), ("containsany", "containsAny"), ("containsall", "containsAll"),
   ("startswith", "startsWith"), ("endswith", "endsWith"), ("empty", "isEmpty"),
   ("dateformat", "format"), ("dur", "duration"), ("tofixed", "toFixed"),
   ("tostring", "toString")]

/-- Functions, in lower case, whose value is a truth value. -/
def predicates : List String :=
  ["contains", "containsany", "containsall", "icontains", "startswith", "endswith", "empty",
   "notempty", "hastag", "haslink", "infolder"]

/-- The parts of a date, which a base writes as calls. -/
def dateParts : List String :=
  ["year", "month", "day", "hour", "minute", "second", "millisecond"]

/-- Dates relative to the present, with their expressions in a base. -/
def relativeDates : List (String × String) :=
  [("today", "now()"), ("now", "now()"), ("tomorrow", "now() + \"1 day\""),
   ("yesterday", "now() + \"-1 day\"")]

/-- The labels of the properties of files. -/
def fileLabels : List (String × String) :=
  [("file.path", "File Path"), ("file.name", "File Name"), ("file.basename", "File Name"),
   ("file.folder", "Folder"), ("file.extension", "Extension"), ("file.size", "File Size"),
   ("file.ctime", "Created Time"), ("file.mtime", "Modified Time"), ("file.tags", "Tags"),
   ("file.links", "Links"), ("file.backlinks", "Backlinks")]

/-- The name of a property in a base: a few have another name, and in all others a dash becomes a
low line.  Blanks around the name are dropped. -/
def property (name : String) : String :=
  let cs := Text.trim name.toList
  match properties.lookup (String.ofList cs) with
  | some mapped => mapped
  | none => String.ofList (cs.map fun c => if c == '-' then '_' else c)

/-- The name of a function in a base. -/
def function (name : String) : String :=
  (functions.lookup (Text.lowerCase name)).getD name

/-- One character of a quoted text. -/
def quotedChar (c : Char) : List Char :=
  if c == '\x5c' then ['\x5c', '\x5c']
  else if c == '\x22' then ['\x5c', '\x22']
  else if c == '\n' then ['\x5c', 'n']
  else if c == '\r' then ['\x5c', 'r']
  else if c == '\t' then ['\x5c', 't']
  else [c]

/-- A text as a literal of a base: between double quotes, with escapes. -/
def quote (s : String) : String :=
  String.ofList ('\x22' :: s.toList.flatMap quotedChar ++ ['\x22'])

/-! ## Labels -/

/-- A text with its first character in upper case. -/
def capitalized (cs : List Char) : List Char :=
  Text.upper (cs.take 1) ++ cs.drop 1

/-- What stands between `part(` and the closing parenthesis at the end, if a text has that form. -/
def peelPart? (part : String) (cs : List Char) : Option (List Char) :=
  let opening := part.toList ++ ['(']
  if opening.isPrefixOf cs && cs.getLast? == some ')' then
    some ((cs.drop opening.length).dropLast)
  else none

/-- The date part that a text is a call of, with the argument of the call. -/
def peel? (cs : List Char) : Option (String × List Char) :=
  dateParts.findSome? fun part => (peelPart? part cs).map (part, ·)

/-- The characters after the last point. -/
def afterLastPoint (cs : List Char) : List Char :=
  (cs.reverse.takeWhile (· != '.')).reverse

/-- The label of a property path without date parts around it. -/
def plainLabel (cs : List Char) : List Char :=
  if "file.".toList.isPrefixOf cs then
    match fileLabels.lookup (String.ofList cs) with
    | some label => label.toList
    | none => afterLastPoint cs
  else capitalized cs

/-- The label of a path, taking at most `fuel` date parts off it. -/
def labelWithin : (fuel : Nat) → List Char → List Char
  | 0, cs => plainLabel cs
  | fuel + 1, cs =>
    match peel? cs with
    | some (part, inner) => capitalized part.toList ++ " of ".toList ++ labelWithin fuel inner
    | none => plainLabel cs

/-- The label of a column: `year(due)` is shown as `Year of Due`. -/
def label (path : String) : String :=
  String.ofList (labelWithin path.length path.toList)

end VaultQuery.Vocabulary
