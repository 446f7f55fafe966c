import FilterSql.CommandLine.Compile
import FilterSql.CommandLine.Help
import FilterSql.Settings.Source

/-!
# Running the command line

What a command line comes to, from its arguments to the text that is printed. The only thing that is
asked of the surroundings is what is found under a path.
-/

namespace FilterSql.CommandLine

/-- What a command line comes to. -/
inductive Outcome where
  /-- This text is printed. -/
  | output (text : String)
  /-- The arguments are not acceptable. -/
  | usage
  /-- There is no statement to print. -/
  | failure (f : Failure)

/-- The exit code of a program with an outcome. -/
def Outcome.exitCode : Outcome → UInt32
  | output _ => 0
  | usage => 2
  | failure _ => 1

/-- What comes of arguments whose reading ends early. -/
def Stop.outcome : Stop → Outcome
  | .usage => .usage
  | .help about => .output (helpText about)
  | .version => .output versionText

/-- What a command comes to once the settings are loaded, or could not be. -/
def finish (v : Verb) (g : Given) : Except SettingsError Settings → Outcome
  | .error e => .failure (.configuration e)
  | .ok settings =>
    match compile settings v g with
    | .ok s => .output (printed s)
    | .error f => .failure f

variable {m : Type → Type} [Monad m]

/-- Run a command line: read the arguments, load the settings, and compile the statement. -/
def run (find : String → m Found) (env : Environment) (userDirectory : Option String)
    (args : List String) : m Outcome := do
  match read args with
  | .error stop => return stop.outcome
  | .ok (v, g) =>
    let settings ← match g.value? .config with
      | some path => Settings.ofFile find path
      | none => Settings.load find env userDirectory
    return finish v g settings

end FilterSql.CommandLine
