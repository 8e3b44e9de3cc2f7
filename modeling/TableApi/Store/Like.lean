import TableApi.Text.Cut

namespace TableApi.Store

/-- A character as patterns compare it: ASCII letters in lower case, and the last two characters of
the basic plane as the replacement character. -/
def folded (c : Char) : Char := if c = '\uFFFE' ∨ c = '\uFFFF' then '\uFFFD' else c.toLower

def sameLetter (a b : Char) : Bool := folded a = folded b

/-- Whether a text matches a pattern, in which `%` stands for any text and `_` for any character. -/
def like : List Char → List Char → Bool
  | [], s => s.isEmpty
  | '%' :: '%' :: p, s => like ('%' :: p) s
  | '%' :: p, s => Text.anyTail (like p) s
  | '_' :: p, s =>
    match s with
    | [] => false
    | _ :: rest => like p rest
  | c :: p, s =>
    match s with
    | [] => false
    | d :: rest => sameLetter c d && like p rest

end TableApi.Store
