import VaultQuery.Convert
import VaultQuery.Screen

/-!
The command line: `convert` writes the document of one query, and `note` shows the documents of all
query blocks of a note in boxes.  The commands are written over any way of reading files and the
standard input.
-/

namespace VaultQuery.Command

/-! ## Arguments -/

/-- What a command line asks for. -/
inductive Request where
  | version
  | convert (query file : Option String) (globalFilters : Bool)
  | note (path : String)
deriving DecidableEq, Repr

/-- A command with the arguments after it. -/
structure Chosen where
  verbose : Bool
  version : Bool
  command : Option String
  args : List String
deriving DecidableEq, Repr

/-- An argument that is an option: a dash with something after it. -/
def isOption (arg : String) : Bool :=
  match arg.toList with
  | '-' :: _ :: _ => true
  | _ => false

/-- An argument that asks for the version: in full, or by its letter, which may be repeated. -/
def asksVersion (arg : String) : Bool :=
  arg == "--version" || match arg.toList with
    | '-' :: c :: cs => (c :: cs).all (· == 'v')
    | _ => false

/-- Reads the options before the command; none if one of them is not known. -/
def choose? : List String → Option Chosen
  | [] => some ⟨false, false, none, []⟩
  | arg :: args =>
    if arg == "--verbose" then (choose? args).map fun c => { c with verbose := true }
    else if asksVersion arg then
      (choose? args).map fun c => { c with version := true }
    else if arg == "--" then
      match args with
      | [] => some ⟨false, false, none, []⟩
      | command :: args => some ⟨false, false, some command, args⟩
    else if isOption arg then none
    else some ⟨false, false, some arg, args⟩

/-- The options and arguments of `convert`. -/
structure ConvertArgs where
  queries : List String := []
  file : Option String := none
  globalFilters : Bool := false
deriving DecidableEq, Repr

/-- The value that is joined to the name of an option. -/
def joined? (name arg : String) : Option String :=
  if name.toList.isPrefixOf arg.toList then some (String.ofList (arg.toList.drop name.length))
  else none

/-- Reads the arguments of `convert`; none if an option is not known or has no value. -/
def convertArgs? (found : ConvertArgs) : List String → Option ConvertArgs
  | [] => some found
  | [arg] =>
    if arg == "--" then some found
    else if arg == "--global-filters" then some { found with globalFilters := true }
    else if arg == "--file" || arg == "-f" then none
    else match joined? "--file=" arg, joined? "-f" arg with
      | some path, _ => some { found with file := some path }
      | none, some path => some { found with file := some path }
      | none, none =>
        if isOption arg then none else some { found with queries := found.queries ++ [arg] }
  | arg :: next :: args =>
    if arg == "--" then some { found with queries := found.queries ++ next :: args }
    else if arg == "--global-filters" then
      convertArgs? { found with globalFilters := true } (next :: args)
    else if arg == "--file" || arg == "-f" then
      convertArgs? { found with file := some next } args
    else match joined? "--file=" arg, joined? "-f" arg with
      | some path, _ => convertArgs? { found with file := some path } (next :: args)
      | none, some path => convertArgs? { found with file := some path } (next :: args)
      | none, none =>
        if isOption arg then none
        else convertArgs? { found with queries := found.queries ++ [arg] } (next :: args)

/-- The arguments that are no options; none if there is an option. -/
def plainArgs? : List String → Option (List String)
  | [] => some []
  | arg :: args =>
    if arg == "--" then some args
    else if isOption arg then none
    else (plainArgs? args).map (arg :: ·)

/-- What a command with its arguments asks for; none if it is used wrongly. -/
def request? (command : String) (args : List String) : Option Request :=
  if command == "convert" then do
    let found ← convertArgs? {} args
    match found.queries with
    | [] => some (.convert none found.file found.globalFilters)
    | [query] => some (.convert (some query) found.file found.globalFilters)
    | _ => none
  else if command == "note" then do
    match ← plainArgs? args with
    | [path] => some (.note path)
    | _ => none
  else none

/-- The commands. -/
def isCommand (name : String) : Bool :=
  name == "convert" || name == "note"

/-! ## Boxes -/

/-- The lines that a box shows for a query block. -/
def recordLines (r : BlockRecord) : List (List Char) :=
  match r.outcome with
  | .ok yaml => Text.lines yaml.toList
  | .error p => Screen.messageLines ("[" ++ p.kind ++ "] " ++ p.message).toList

/-- The box of a query block. -/
def recordBox (r : BlockRecord) : List (List Char) :=
  Screen.box (r.id ++ " (line " ++ toString r.line ++ ")").toList (recordLines r)

/-- Whether a query block could not be converted. -/
def isFailed (r : BlockRecord) : Bool :=
  match r.outcome with
  | .ok _ => false
  | .error _ => true

/-! ## Running -/

/-- Why a command broke off. -/
inductive Breakdown where
  | settings (misfits : List Misfit)
  | logLevel (name : String)
  | fault (f : Fault)
  | markup
  | nullInPath
deriving Repr

/-- What a command leaves: an exit code, its output, and why it broke off if it did. -/
structure Outcome where
  exit : Nat
  output : String := ""
  breakdown : Option Breakdown := none

/-- The outcome of a command line that is used wrongly. -/
def misuse : Outcome :=
  { exit := 2 }

/-- The outcome of a command that broke off. -/
def broken (b : Breakdown) : Outcome :=
  { exit := 1, breakdown := some b }

/-- The levels of a log. -/
def logLevels : List String :=
  ["TRACE", "DEBUG", "INFO", "SUCCESS", "WARNING", "ERROR", "CRITICAL"]

/-- What the version option shows. -/
def versionText : String :=
  "dataview-bases version: 0.1.0\n"

/-- A text with a line end after it, unless it has one. -/
def ensureNewline (s : String) : String :=
  if s.toList.getLast? == some '\n' then s else s ++ "\n"

/-- The outcome of converting one query. -/
def convertOutcome (s : Settings) (query : String) (globalFilters : Bool) : Outcome :=
  match convertQuery s query (some !globalFilters) with
  | .error f => broken (.fault f)
  | .ok text =>
    { exit := if errorStem.toList.isPrefixOf text.toList then 1 else 0
      output := ensureNewline text }

/-- Whether a path holds the null character, which no path of a file does. -/
def holdsNull (path : String) : Bool :=
  path.toList.contains '\x00'

/-- A path as it is shown: without empty parts, and without parts that stay where they are. -/
def shownPath (path : String) : String :=
  let cs := path.toList
  let slashes := (cs.takeWhile (· == '/')).length
  let root := if slashes = 0 then "" else if slashes = 2 then "//" else "/"
  let parts := (Text.cutAt '/' cs).filter fun p => !p.isEmpty && p != ['.']
  let shown := root ++ String.intercalate "/" (parts.map String.ofList)
  if shown.isEmpty then "." else shown

/-- The outcome of converting the queries of a note. -/
def noteOutcome (s : Settings) (path content : String) : Outcome :=
  match convertNote s content with
  | .error f => broken (.fault f)
  | .ok [] =>
    let message := ("No Dataview queries found in " ++ shownPath path).toList
    if Text.Markup.isBalanced message then
      { exit := 0, output := Screen.unlines (Screen.wrap Screen.width (Text.Markup.shown message)) }
    else broken .markup
  | .ok records =>
    { exit := if records.any isFailed then 1 else 0
      output := Screen.unlines (records.flatMap recordBox) }

/-- A text whose line ends are all of one kind. -/
def unifyLineEnds : List Char → List Char
  | [] => []
  | [c] => [if c == '\r' then '\n' else c]
  | c :: d :: cs =>
    if c == '\r' then
      if d == '\n' then '\n' :: unifyLineEnds cs else '\n' :: unifyLineEnds (d :: cs)
    else c :: unifyLineEnds (d :: cs)

/-- A text that was read from a file or from the standard input. -/
def received (s : String) : String :=
  String.ofList (unifyLineEnds s.toList)

/-- Where a command reads from: files by their paths, and the standard input unless that is a
terminal. -/
structure Inputs (m : Type → Type) where
  file : String → m (Option String)
  input : m (Option String)

section

variable {m : Type → Type} [Monad m]

/-- Goes on with the settings, unless they are not valid. -/
def withSettings (settings : Checked Settings) (k : Settings → Outcome) : Outcome :=
  match settings with
  | .ok s => k s
  | .error ms => broken (.settings ms)

/-- Carries out a request. -/
def fulfil (inputs : Inputs m) (settings : Checked Settings) : Request → m Outcome
  | .version => return { exit := 0, output := versionText }
  | .convert query file globalFilters => do
    let finish (text : String) : Outcome :=
      withSettings settings fun s => convertOutcome s text globalFilters
    if (file.map holdsNull).getD false then return broken .nullInPath
    let content ← match file with
      | some path => inputs.file path
      | none => pure none
    match query, file, content with
    | _, some _, none => return misuse
    | some q, _, _ => return finish q
    | none, some _, some text => return finish (received text)
    | none, none, _ =>
      match ← inputs.input with
      | some text => return finish (received text)
      | none => return misuse
  | .note path => do
    if holdsNull path then return broken .nullInPath
    match ← inputs.file path with
    | none => return misuse
    | some text => return withSettings settings fun s => noteOutcome s path (received text)

/-- The outcome that the settings force before a command is looked at, if they are not valid. -/
def early? (verbose : Bool) (settings : Checked Settings) : Option Outcome :=
  if verbose then none
  else match settings with
    | .error ms => some (broken (.settings ms))
    | .ok s =>
      if logLevels.contains s.logLevel then none else some (broken (.logLevel s.logLevel))

/-- Carries out a command line. -/
def run (inputs : Inputs m) (environment : List (String × String)) (args : List String) :
    m Outcome :=
  let settings := Settings.make [] environment
  match choose? args with
  | none => return misuse
  | some chosen =>
    if chosen.version then fulfil inputs settings .version
    else match chosen.command with
      | none => return misuse
      | some command =>
        if !isCommand command then return misuse
        else match early? chosen.verbose settings, request? command chosen.args with
          | some outcome, _ => return outcome
          | none, none => return misuse
          | none, some request => fulfil inputs settings request

end

end VaultQuery.Command
