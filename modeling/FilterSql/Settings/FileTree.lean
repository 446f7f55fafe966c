import FilterSql.Assoc
import FilterSql.Settings.Source
import FilterSql.Text.Split

/-!
# File trees

Files held in memory under relative paths. They serve to load settings without a file system. Paths
may also lead out of the tree, where there are directories only.
-/

namespace FilterSql

/-- Files by path. The directories are those that lead to a file. -/
structure FileTree where
  /-- The paths, as the names on the way from the top, with the contents. -/
  files : List (List String × String)

namespace FileTree

/-- A place that a path leads to. -/
inductive Place where
  /-- The place under these names on the way from the top. -/
  | inside (names : List String)
  /-- A directory above the top. -/
  | above
deriving DecidableEq, Repr

/-- What is found at a directory. -/
def directory : Found :=
  .unreadable "Is a directory (os error 21)"

/-- The parts of a path between its slashes. -/
def parts (path : String) : List String :=
  (Text.pieces '/' path.toList).map String.ofList

/-- The tree of some files. -/
def ofList (files : List (String × String)) : FileTree :=
  ⟨files.map fun (path, content) => (parts path, content)⟩

/-- The content of a file. -/
def content? (t : FileTree) (names : List String) : Option String :=
  t.files.lookup names

/-- Whether the names on the way to a place lead to a directory: to the top, or on the way to a
file. -/
def isDirectory (t : FileTree) (names : List String) : Bool :=
  names.isEmpty || t.files.any fun (path, _) => names.isPrefixOf path && names != path

/-- What is found at a place. -/
def foundAt (t : FileTree) : Place → Found
  | .above => directory
  | .inside names =>
    match t.content? names with
    | some content => .file content
    | none => if t.isDirectory names then directory else .nothing

/-- The place that a part of a path leads to from a directory. An empty part or a dot stays where it
is and two dots go up. Above the top no names are known. -/
def step (t : FileTree) (part : String) : Place → Option Place
  | .above => if part = "" ∨ part = "." ∨ part = ".." then some .above else none
  | .inside names =>
    if !t.isDirectory names then none
    else if part = "" ∨ part = "." then some (.inside names)
    else if part = ".." then some (if names.isEmpty then .above else .inside names.dropLast)
    else some (.inside (names ++ [part]))

/-- The place that the parts of a path lead to. -/
def walk (t : FileTree) (place : Place) (path : List String) : Option Place :=
  path.foldlM (fun place part => t.step part place) place

/-- What is found under a path. A path that begins with a slash starts above the top. -/
def find (t : FileTree) (path : String) : Found :=
  if path.isEmpty then .nothing
  else
    let start := if path.startsWith "/" then Place.above else Place.inside []
    match t.walk start (parts path) with
    | some place => t.foundAt place
    | none => .nothing

end FileTree

end FilterSql
