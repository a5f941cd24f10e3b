import VaultQuery.Command

/-!
The program: the command line over the files, the standard input and the environment of the system.
-/

open VaultQuery

/-- The environment variables that hold settings. -/
def settingVariables : IO (List (String × String)) := do
  let names := ["view_name", "place_filters_in_view", "max_nesting_depth", "max_tree_depth",
    "strict_limit", "log_level"]
  let spellings := names.flatMap fun name =>
    let full := Settings.variableStem ++ name
    [Text.upperCase full, full]
  spellings.filterMapM fun spelling => do
    return (← IO.getEnv spelling).map (spelling, ·)

/-- The content of a file, or none if it cannot be read. -/
def fileContent (path : String) : IO (Option String) := do
  try return some (← IO.FS.readFile path)
  catch _ => return none

/-- The content of the standard input, or none if that is a terminal. -/
def inputContent : IO (Option String) := do
  let stdin ← IO.getStdin
  if ← stdin.isTty then return none
  return some (← stdin.readToEnd)

/-- What is told about a command that broke off. -/
def breakdownText : Command.Breakdown → String
  | .settings misfits =>
    String.intercalate "\n" (misfits.map fun m =>
      String.intercalate "." m.path ++ ": " ++ m.mismatch.name)
  | .logLevel name => "Level '" ++ name ++ "' does not exist"
  | .fault f => f.message
  | .markup => "a tag in the path closes a style that is not open"
  | .nullInPath => "embedded null byte"

/-- Carries out the command line and gives its exit code. -/
def main (args : List String) : IO UInt32 := do
  let inputs : Command.Inputs IO := { file := fileContent, input := inputContent }
  let outcome ← Command.run inputs (← settingVariables) args
  IO.print outcome.output
  match outcome.breakdown with
  | some b => IO.eprintln (breakdownText b)
  | none => pure ()
  return outcome.exit.toUInt32
