import FilterSql.Text.Quoted
import FilterSql.Value

/-!
# Errors of settings

Why settings cannot be found, read or used.
-/

namespace FilterSql

/-- What is wrong with settings. -/
inductive SettingsError where
  /-- There is no file under the path. -/
  | fileNotFound (path : String)
  /-- The file cannot be read. -/
  | unreadable (reason : String)
  /-- The text is not TOML, or a setting has the wrong form. -/
  | malformed
  /-- A text names a variable that is not set. -/
  | missingVariable (name : String)
  /-- A type mapping is listed under a name that is no kind. -/
  | unknownKind (name : String)
  /-- A type mapping is listed under a name that is no property of an entity. -/
  | notAProperty (name : String)
deriving DecidableEq, Repr

/-- The message of a settings error. -/
def SettingsError.message : SettingsError → String
  | .fileNotFound path => s!"Config file not found: {path}"
  | .unreadable reason => s!"Failed to read config file: {reason}"
  | .malformed => "Failed to parse config file: not in the expected form"
  | .missingVariable name => s!"Missing environment variable: {name}"
  | .unknownKind name =>
    let kinds := ", ".intercalate (ValueKind.all.map fun k => "\x60" ++ k.name ++ "\x60")
    "Invalid configuration: [types] " ++ name ++ ": unknown variant \x60" ++ name ++
      "\x60, expected one of " ++ kinds
  | .notAProperty name =>
    s!"Invalid configuration: [properties] '{name}' is not of the form Entity.Property"

end FilterSql
