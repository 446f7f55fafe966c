/-!
# Quoted text

A text between delimiters, with the closing delimiter written twice wherever it occurs inside.
Identifiers and string literals of every dialect are written this way.
-/

namespace FilterSql.Text

/-- Every occurrence of `q` written twice. -/
def doubled (q : Char) : List Char → List Char
  | [] => []
  | c :: cs => if c = q then q :: q :: doubled q cs else c :: doubled q cs

/-- A text between `opening` and `closing`, with each inner `closing` written twice. -/
def enclosed (opening closing : Char) (s : String) : String :=
  String.ofList (opening :: doubled closing s.toList ++ [closing])

/-- Read the inside of a quoted text up to its closing delimiter `q`, and return the text it
denotes with the characters that follow. A doubled delimiter stands for one; a text that never
closes is refused. -/
def readEnclosed (q : Char) : List Char → Option (List Char × List Char)
  | [] => none
  | c :: rest =>
    if c = q then
      match rest with
      | d :: rest' =>
        if d = q then (readEnclosed q rest').map fun (s, r) => (q :: s, r) else some ([], rest)
      | [] => some ([], [])
    else (readEnclosed q rest).map fun (s, r) => (c :: s, r)

@[simp]
theorem doubled_nil (q : Char) : doubled q [] = [] := rfl

/-- A delimiter is written twice and every other character once. -/
theorem doubled_cons (q c : Char) (cs : List Char) :
    doubled q (c :: cs) = (if c = q then [q, q] else [c]) ++ doubled q cs := by
  by_cases h : c = q <;> simp [doubled, h]

end FilterSql.Text
