import FilterSql.Dialect
import FilterSql.Text.Split

/-!
# Arguments

The grammar of the command line. A command is followed by options; an option is given by its long
name behind two dashes or by its letter behind one, and its value follows as the next argument, or
is attached, with an equals sign where needed. A value that begins with a dash has to be attached.

The arguments are read from left to right, and the first fault, or the first request for help or
for the version, ends the reading.
-/

namespace FilterSql.CommandLine

/-- What can be done. -/
inductive Verb where
  | select | merge | count
deriving DecidableEq, Repr

/-- The options of all commands. -/
inductive Flag where
  | config | table | dialect | filter | columns | order | page | rows | top | hints
  | record | qualifier | identity
deriving DecidableEq, Repr

namespace Verb

/-- Every command, in the order in which they are listed to a user. -/
def all : List Verb := [select, merge, count]

/-- The word of a command. -/
def name : Verb → String
  | select => "select"
  | merge => "merge"
  | count => "count"

/-- The command of a given word. -/
def ofName? (s : String) : Option Verb :=
  all.find? fun v => v.name = s

/-- The options of a command. -/
def flags : Verb → List Flag
  | select => [.config, .table, .dialect, .filter, .columns, .order, .page, .rows, .top, .hints]
  | merge => [.config, .table, .dialect, .record, .qualifier, .identity, .hints]
  | count => [.config, .table, .dialect, .filter, .hints]

/-- The options that a command cannot do without. -/
def required : Verb → List Flag
  | select | count => [.table]
  | merge => [.table, .record]

end Verb

namespace Flag

/-- The long name of an option. -/
def name : Flag → String
  | config => "config"
  | table => "table"
  | dialect => "dialect"
  | filter => "filter"
  | columns => "columns"
  | order => "order"
  | page => "page"
  | rows => "rows"
  | top => "top"
  | hints => "hints"
  | record => "record"
  | qualifier => "qualifier"
  | identity => "identity"

/-- The letter of an option. -/
def letter? : Flag → Option Char
  | table => some 't'
  | dialect => some 'd'
  | filter => some 'f'
  | columns => some 'c'
  | order => some 'o'
  | record => some 'r'
  | qualifier => some 'q'
  | _ => none

/-- Whether an option may be given more than once. -/
def repeats : Flag → Bool
  | columns | order | qualifier => true
  | _ => false

/-- Whether an option takes a value. -/
def accepts (f : Flag) (value : String) : Bool :=
  match f with
  | config => !value.isEmpty
  | dialect => (Dialect.ofName? value).isSome
  | page | rows | top => (Numeral.toUInt64? value.toList).isSome
  | _ => true

end Flag

/-- Why reading the arguments ends before their end. -/
inductive Stop where
  /-- The arguments are not acceptable. -/
  | usage
  /-- Help is asked for, on everything or on one command. -/
  | help (about : Option Verb)
  /-- The version is asked for. -/
  | version
deriving DecidableEq, Repr

/-- The options that have been given with their values, in order. -/
abbrev Given := List (Flag × String)

namespace Given

/-- The value of an option. -/
def value? (g : Given) (f : Flag) : Option String :=
  g.lookup f

/-- The values of an option that may be given more than once. -/
def values (g : Given) (f : Flag) : List String :=
  g.filterMap fun (f', v) => if f' = f then some v else none

/-- The number that an option is given. -/
def number? (g : Given) (f : Flag) : Option Nat :=
  ((g.value? f).bind fun v => Numeral.toUInt64? v.toList).map UInt64.toNat

/-- Give a value to an option. -/
def give (g : Given) (f : Flag) (value : String) : Except Stop Given :=
  if !f.accepts value || (!f.repeats && (g.value? f).isSome) then .error .usage
  else .ok (g ++ [(f, value)])

end Given

/-- A place in the arguments: what is known there. -/
structure Context where
  /-- The command whose options are read; before the command there is none. -/
  verb : Option Verb
  /-- The options that are known. -/
  flags : List Flag

/-- The context in front of a command. -/
def Context.outer : Context := ⟨none, [.config]⟩

/-- The context of the options of a command. -/
def Context.of (v : Verb) : Context := ⟨some v, v.flags⟩

/-- The form of an argument. -/
inductive Form where
  /-- Two dashes alone: all that follows are values. -/
  | separator
  /-- A long name, and the value attached to it. -/
  | long (name : String) (value : Option String)
  /-- A letter, and what is attached to it. -/
  | short (letter : Char) (rest : List Char)
  /-- Anything else. -/
  | plain (s : String)

/-- The form of an argument. A single dash is a value. -/
def Form.of (arg : String) : Form :=
  match arg.toList with
  | ['-', '-'] => .separator
  | '-' :: '-' :: cs =>
    match Text.splitFirst '=' cs with
    | some (name, value) => .long (String.ofList name) (some (String.ofList value))
    | none => .long (String.ofList cs) none
  | '-' :: c :: cs => .short c cs
  | _ => .plain arg

/-- The value that is attached to a letter; an equals sign in front of it is dropped. -/
def attached : List Char → Option String
  | [] => none
  | '=' :: cs => some (String.ofList cs)
  | cs => some (String.ofList cs)

/-- What an option or a request at the current place means: the option with its attached value. -/
def Context.flag (c : Context) : Form → Except Stop (Flag × Option String)
  | .long name value =>
    if name = "help" then .error (if value.isSome then .usage else .help c.verb)
    else if name = "version" ∧ c.verb.isNone then
      .error (if value.isSome then .usage else .version)
    else
      match c.flags.find? fun f => f.name = name with
      | some f => .ok (f, value)
      | none => .error .usage
  | .short letter rest =>
    if letter = 'h' then .error (.help c.verb)
    else if letter = 'V' ∧ c.verb.isNone then .error .version
    else
      match c.flags.find? fun f => f.letter? = some letter with
      | some f => .ok (f, attached rest)
      | none => .error .usage
  | _ => .error .usage

/-- Read options up to the first argument that is none of them, or to the end: the options with
their values, and the arguments from there on. `waiting` is an option whose value comes next. -/
def Context.options (c : Context) (given : Given) (waiting : Option Flag) :
    List String → Except Stop (Given × List String)
  | [] => if waiting.isSome then .error .usage else .ok (given, [])
  | arg :: args =>
    match Form.of arg, waiting with
    -- What follows two dashes is no option, and no command takes anything else.
    | .separator, none => if args.isEmpty then .ok (given, []) else .error .usage
    | .plain value, some f => do c.options (← given.give f value) none args
    | .plain _, none => .ok (given, arg :: args)
    | _, some _ => .error .usage
    | form, none =>
      match c.flag form with
      | .error stop => .error stop
      | .ok (f, some value) => do c.options (← given.give f value) none args
      | .ok (f, none) => c.options given (some f) args

/-- The options of a command: nothing else may follow it, the required ones have to be there, and a
page needs a number of rows. A configuration file given in front of the command counts unless the
command has its own. -/
def Verb.read (v : Verb) (outer : Given) (args : List String) : Except Stop Given := do
  let (given, rest) ← (Context.of v).options [] none args
  let missing := v.required.any fun f => (given.value? f).isNone
  let unpaged := (given.value? .page).isSome && (given.value? .rows).isNone
  if !rest.isEmpty || missing || unpaged then .error .usage else .ok (given ++ outer)

/-- What is asked for by the word for help and the words behind it. -/
def helpOn : List String → Stop
  | [] => .help none
  | [word] =>
    match Verb.ofName? word with
    | some v => .help (some v)
    | none => if word = "help" then .help none else .usage
  | _ => .usage

/-- The command of a command line, with its options. -/
def read (args : List String) : Except Stop (Verb × Given) := do
  match ← Context.outer.options [] none args with
  | (outer, word :: rest) =>
    match Verb.ofName? word with
    | some v => return (v, ← v.read outer rest)
    | none => .error (if word = "help" then helpOn rest else .usage)
  | (_, []) => .error .usage

end FilterSql.CommandLine
