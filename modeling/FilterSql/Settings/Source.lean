import FilterSql.Settings.Reading

/-!
# Sources of settings

Where settings are looked for: in the file that the environment names, else in a file of the current
directory, else in a file of the user. The first of these that there is counts; if there is none,
everything has its usual value.
-/

namespace FilterSql

/-- What is found under a path. -/
inductive Found where
  /-- There is nothing. -/
  | nothing
  /-- There is something that cannot be read as a text. -/
  | unreadable (reason : String)
  /-- There is a file with this text. -/
  | file (content : String)

namespace Settings

/-- The variable that names the file with the settings. -/
def variableName : String := "QUARRY_CONFIG"

/-- The file with settings in the current directory. -/
def localPath : String := "quarry.toml"

/-- The file with settings below the directory where a user keeps such files. -/
def userPath (directory : String) : String :=
  directory ++ "/quarry/config.toml"

/-- The settings in what is found under a path. -/
def ofFound (path : String) : Found → Except SettingsError Settings
  | .nothing => .error (.fileNotFound path)
  | .unreadable reason => .error (.unreadable reason)
  | .file content => read content

variable {m : Type → Type} [Monad m]

/-- The settings in a file that has to be there. -/
def ofFile (find : String → m Found) (path : String) : m (Except SettingsError Settings) := do
  return ofFound path (← find path)

/-- The settings in the first of some files that is there. -/
def ofFirst (find : String → m Found) : List String → m (Except SettingsError Settings)
  | [] => return .ok {}
  | path :: paths => do
    match ← find path with
    | .nothing => ofFirst find paths
    | found => return ofFound path found

/-- The settings of a program. A file that the environment names has to be there. -/
def load (find : String → m Found) (env : Environment) (userDirectory : Option String) :
    m (Except SettingsError Settings) :=
  match env.get? variableName with
  | some path => ofFile find path
  | none => ofFirst find (localPath :: (userDirectory.map userPath).toList)

end Settings

end FilterSql
