import TableApi.Text.Cut

namespace TableApi.Sql

/-- Writes a quote twice and all else once. -/
def doubled : List Char → List Char
  | [] => []
  | c :: rest => if c = '"' then '"' :: '"' :: doubled rest else c :: doubled rest

def quote (name : String) : String := "\"" ++ String.ofList (doubled name.toList) ++ "\""

def placeholders (count : Nat) : String := Text.join ", " (List.replicate count "?")

end TableApi.Sql
