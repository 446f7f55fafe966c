import FilterSql.Text.Hexadecimal

/-!
# Lexical rules of TOML

White space, comments, strings and the words that keys and plain values are made of. Every reader
takes the characters to come and returns what it has read together with the characters that follow.
A line ends with a line feed, which may have a carriage return in front; inside of strings that
carriage return is kept.
-/

namespace FilterSql.Toml

/-- White space inside a line. -/
def isSpace (c : Char) : Bool :=
  c == ' ' || c == '\t'

/-- Control characters, which may stand nowhere; the tab is not among them. -/
def isControl (c : Char) : Bool :=
  (c.toNat < 0x20 && c != '\t') || c == '\x7f'

/-- A text without the byte order mark in front. -/
def dropMark : List Char → List Char
  | '\ufeff' :: cs => cs
  | cs => cs

/-- What follows a line end at the front of a text. -/
def lineEnd? : List Char → Option (List Char)
  | '\n' :: cs => some cs
  | '\r' :: '\n' :: cs => some cs
  | _ => none

/-- What follows white space inside a line. -/
def skipSpace (cs : List Char) : List Char :=
  cs.dropWhile isSpace

/-- What follows white space, line ends and comments; `inComment` says whether the text starts
inside of a comment. -/
def skipBlank (inComment : Bool) : List Char → Option (List Char)
  | [] => some []
  | '\n' :: cs => skipBlank false cs
  | '\r' :: '\n' :: cs => skipBlank false cs
  | c :: cs =>
    if inComment then if isControl c then none else skipBlank true cs
    else if isSpace c then skipBlank false cs
    else if c = '#' then skipBlank true cs
    else some (c :: cs)

/-- What follows a comment, from the line end on. -/
def skipComment : List Char → Option (List Char)
  | [] => some []
  | '\n' :: cs => some ('\n' :: cs)
  | '\r' :: '\n' :: cs => some ('\r' :: '\n' :: cs)
  | c :: cs => if isControl c then none else skipComment cs

/-- What follows the end of a line: white space and a comment may stand in front of it. -/
def endLine (cs : List Char) : Option (List Char) := do
  let rest ← match skipSpace cs with
    | '#' :: rest => skipComment rest
    | rest => some rest
  if rest.isEmpty then some [] else lineEnd? rest

/-- Put a character in front of a string that has been read. -/
def addChar (c : Char) : Option (List Char × List Char) → Option (List Char × List Char) :=
  Option.map fun (s, rest) => (c :: s, rest)

/-- The character with the code that hexadecimal digits denote. -/
def codedChar? (ds : List Char) : Option Char :=
  (Numeral.hexNumber? ds).bind fun n => if n.isValidChar then some (Char.ofNat n) else none

/-- The character that a backslash followed by `c` stands for. -/
def unescape? (c : Char) : Option Char :=
  if c = '"' ∨ c = '\\' then some c
  else if c = 'b' then some '\x08'
  else if c = 'e' then some '\x1b'
  else if c = 'f' then some '\x0c'
  else if c = 'n' then some '\n'
  else if c = 'r' then some '\r'
  else if c = 't' then some '\t'
  else none

/-- The characters of a basic string up to its closing quote. -/
def basicString : List Char → Option (List Char × List Char)
  | [] => none
  | '"' :: rest => some ([], rest)
  | '\\' :: 'x' :: a :: b :: rest =>
    (codedChar? [a, b]).bind fun x => addChar x (basicString rest)
  | '\\' :: 'u' :: a :: b :: c :: d :: rest =>
    (codedChar? [a, b, c, d]).bind fun x => addChar x (basicString rest)
  | '\\' :: 'U' :: a :: b :: c :: d :: e :: f :: g :: h :: rest =>
    (codedChar? [a, b, c, d, e, f, g, h]).bind fun x => addChar x (basicString rest)
  | '\\' :: c :: rest => (unescape? c).bind fun x => addChar x (basicString rest)
  | c :: rest => if c = '\\' ∨ isControl c then none else addChar c (basicString rest)

/-- The characters of a literal string up to its closing quote. -/
def literalString : List Char → Option (List Char × List Char)
  | [] => none
  | c :: rest =>
    if c = '\'' then some ([], rest)
    else if isControl c then none
    else addChar c (literalString rest)

/-- The quotes at the end of a string of several lines: three of them close it, and up to two more
in front of those belong to the string. -/
def closing (q : Char) (cs : List Char) : Option (List Char × List Char) :=
  let quotes := cs.takeWhile (· == q)
  if quotes.length < 3 then none
  else some (quotes.drop 3 |>.take 2, cs.drop (min quotes.length 5))

/-- Whether the rest of a line is blank: a backslash there joins the line with the next one. -/
def endsLine (cs : List Char) : Bool :=
  (lineEnd? (skipSpace cs)).isSome

/-- The characters of a basic string of several lines. While `joining`, white space and line ends
are dropped. -/
def basicText (joining : Bool) : List Char → Option (List Char × List Char)
  | [] => none
  | '"' :: cs =>
    match closing '"' ('"' :: cs) with
    | some found => some found
    | none => addChar '"' (basicText false cs)
  | '\\' :: 'x' :: a :: b :: rest =>
    (codedChar? [a, b]).bind fun x => addChar x (basicText false rest)
  | '\\' :: 'u' :: a :: b :: c :: d :: rest =>
    (codedChar? [a, b, c, d]).bind fun x => addChar x (basicText false rest)
  | '\\' :: 'U' :: a :: b :: c :: d :: e :: f :: g :: h :: rest =>
    (codedChar? [a, b, c, d, e, f, g, h]).bind fun x => addChar x (basicText false rest)
  | '\\' :: c :: rest =>
    if endsLine (c :: rest) then basicText true rest
    else (unescape? c).bind fun x => addChar x (basicText false rest)
  | '\r' :: '\n' :: cs =>
    if joining then basicText true cs else addChar '\r' (addChar '\n' (basicText false cs))
  | c :: cs =>
    if joining && (isSpace c || c == '\n') then basicText true cs
    else if c = '\\' ∨ (isControl c ∧ c ≠ '\n') then none
    else addChar c (basicText false cs)

/-- The characters of a literal string of several lines. -/
def literalText : List Char → Option (List Char × List Char)
  | [] => none
  | c :: cs =>
    match closing '\'' (c :: cs) with
    | some found => some found
    | none =>
      if isControl c ∧ (lineEnd? (c :: cs)).isNone then none else addChar c (literalText cs)

/-- A line end right behind the opening quotes is dropped. -/
def dropLineEnd (cs : List Char) : List Char :=
  (lineEnd? cs).getD cs

/-- The string at the front of a text. -/
def stringAt : List Char → Option (List Char × List Char)
  | '"' :: '"' :: '"' :: cs => basicText false (dropLineEnd cs)
  | '"' :: cs => basicString cs
  | '\'' :: '\'' :: '\'' :: cs => literalText (dropLineEnd cs)
  | '\'' :: cs => literalString cs
  | _ => none

/-- The characters of keys without quotes. -/
def isKeyChar (c : Char) : Bool :=
  c.isAlphanum || c == '_' || c == '-'

/-- A key without dots: a word, or a string on one line. -/
def simpleKey (cs : List Char) : Option (String × List Char) :=
  match cs with
  | '"' :: rest => (basicString rest).map fun (s, rest) => (String.ofList s, rest)
  | '\'' :: rest => (literalString rest).map fun (s, rest) => (String.ofList s, rest)
  | _ =>
    let word := cs.takeWhile isKeyChar
    if word.isEmpty then none else some (String.ofList word, cs.dropWhile isKeyChar)

/-- A key of at most `count` parts with dots between them, and what follows the key and white space
behind it. -/
def keyWithin : (count : Nat) → List Char → Option (List String × List Char)
  | 0, _ => none
  | count + 1, cs =>
    (simpleKey (skipSpace cs)).bind fun (key, rest) =>
      match skipSpace rest with
      | '.' :: rest => (keyWithin count rest).map fun (keys, rest) => (key :: keys, rest)
      | rest => some ([key], rest)

/-- How many arrays and tables may be open around a value, and how many parts a key may have. -/
def maxNesting : Nat := 80

/-- A key of several parts with dots between them. -/
def key (cs : List Char) : Option (List String × List Char) :=
  keyWithin maxNesting cs

end FilterSql.Toml
