import FilterSql.CommandLine.Run

/-!
# The program

Compiles filters to statements from the command line. All of its work is done by
`CommandLine.run`; here files are opened and texts are printed.
-/

namespace FilterSql.CommandLine

/-- What the file system holds under a path. -/
def findFile (path : String) : IO Found := do
  match ← (IO.FS.Handle.mk path .read).toBaseIO with
  | .error (.permissionDenied ..) => return .unreadable "Permission denied (os error 13)"
  | .error _ => return .nothing
  | .ok file =>
    match ← file.readToEnd.toBaseIO with
    | .ok content => return .file content
    | .error (.inappropriateType ..) => return .unreadable "Is a directory (os error 21)"
    | .error e => return .unreadable (toString e)

/-- The variables of the environment that matter to the program. -/
def surroundings : IO Environment := do
  let path ← IO.getEnv Settings.variableName
  return { entries := (path.map (.ofText Settings.variableName)).toList }

/-- The directory where the user keeps settings. -/
def settingsDirectory : IO (Option String) := do
  match (← IO.getEnv "XDG_CONFIG_HOME").filter (·.startsWith "/") with
  | some directory => return some directory
  | none => return (← IO.getEnv "HOME").map (· ++ "/.config")

end FilterSql.CommandLine

open FilterSql.CommandLine in
/-- Run the command line, print what it comes to, and exit. -/
def main (args : List String) : IO UInt32 := do
  let outcome ← run findFile (← surroundings) (← settingsDirectory) args
  match outcome with
  | .output text => IO.print text
  | .usage => IO.eprintln ("error: unacceptable arguments\n\n" ++ overview)
  | .failure f => IO.eprintln f.message
  return outcome.exitCode
