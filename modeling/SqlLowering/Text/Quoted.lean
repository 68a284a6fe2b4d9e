/-!
# Text literals

An SQL text literal stands between single quotes, and a single quote inside it is written twice.
-/

namespace SqlLowering.Text

/-- The contents of a text literal: each single quote is written twice, all else once. -/
def doubleQuotes : List Char → List Char
  | [] => []
  | c :: rest =>
    if c = '\x27' then '\x27' :: '\x27' :: doubleQuotes rest else c :: doubleQuotes rest

/-- The SQL literal of a text. -/
def quoted (s : String) : String :=
  "'" ++ String.ofList (doubleQuotes s.toList) ++ "'"

end SqlLowering.Text
