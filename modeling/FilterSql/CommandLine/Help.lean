import FilterSql.CommandLine.Arguments

/-!
# Help

The texts that are printed when help or the version is asked for.
-/

namespace FilterSql.CommandLine

/-- The word that the program is started with. -/
def programName : String := "quarry"

/-- What is printed for the version. -/
def versionText : String :=
  programName ++ " 0.1.0\n"

/-- What a command does. -/
def Verb.about : Verb → String
  | .select => "Compile a SELECT (optionally paged)"
  | .merge => "Compile an upsert"
  | .count => "Compile a COUNT(*)"

/-- What an option is for. -/
def Flag.about : Flag → String
  | .config =>
    "Config file (defaults to QUARRY_CONFIG, ./quarry.toml, then the user config dir)"
  | .table => "Table, optionally schema-qualified"
  | .dialect =>
    "SQL dialect to generate (defaults to the configured one) " ++
      "[possible values: sqlite, postgres, tsql, mysql]"
  | .filter => "Filter as JSON: object, array of conditions, or key value"
  | .columns => "Comma-separated columns to project"
  | .order => "Ordering as column[:asc|:desc], repeatable"
  | .page => "Zero-based page number"
  | .rows => "Rows per page"
  | .top => "Return at most N rows (ignored when paging)"
  | .hints => "Table hints, inserted verbatim"
  | .record => "Record to write, as a JSON object"
  | .qualifier => "Match-on column, repeatable (defaults to the identity)"
  | .identity => "Identity column reported back by the statement"

/-- An option with the name of its value. -/
def Flag.usage (f : Flag) : String :=
  "--" ++ f.name ++ " <" ++ f.name.map Char.toUpper ++ ">"

/-- Lines of two columns, the second one aligned. -/
def columnsOf (lines : List (String × String)) : String :=
  let width := (lines.map fun (left, _) => left.length).max?.getD 0
  String.join (lines.map fun (left, right) =>
    "  " ++ left ++ "".pushn ' ' (width - left.length) ++ "  " ++ right ++ "\n")

/-- The lines on some options. -/
def flagLines (flags : List Flag) : List (String × String) :=
  flags.map fun f =>
    let letter := match f.letter? with
      | some c => "-" ++ c.toString ++ ", "
      | none => "    "
    (letter ++ f.usage, f.about)

/-- The line on the option for help. -/
def helpLine : String × String := ("-h, --help", "Print help")

/-- The help on a command. -/
def Verb.help (v : Verb) : String :=
  let required := String.join (v.required.map fun f => " " ++ f.usage)
  v.about ++ "\n\nUsage: " ++ programName ++ " " ++ v.name ++ " [OPTIONS]" ++ required ++
    "\n\nOptions:\n" ++ columnsOf (flagLines v.flags ++ [helpLine])

/-- The help on the whole program. -/
def overview : String :=
  let commands := Verb.all.map (fun v => (v.name, v.about)) ++
    [("help", "Print this message or the help of the given subcommand(s)")]
  "Quarry - compile typed filters to parameterized multi-dialect SQL\n\nUsage: " ++ programName ++
    " [OPTIONS] <COMMAND>\n\nCommands:\n" ++ columnsOf commands ++ "\nOptions:\n" ++
    columnsOf (flagLines [.config] ++ [helpLine, ("-V, --version", "Print version")])

/-- The help that is asked for. -/
def helpText : Option Verb → String
  | some v => v.help
  | none => overview

end FilterSql.CommandLine
