import TableApi.Json.Basic

namespace TableApi.Sql

inductive Value
  | null
  | integer (i : Int)
  | real (x : Binary64)
  | text (s : String)
deriving DecidableEq, Repr, Inhabited

/-- The value that is bound for a JSON value: truth values are 1 and 0, an integer beyond 63 bits
is a real, and arrays and objects are bound as their text. -/
def Value.ofJson : Json → Value
  | .null => .null
  | .bool b => .integer (if b then 1 else 0)
  | .int i => if i ≤ Text.maxSigned64 then .integer i else .real (.ofInt i)
  | .real x => .real x
  | .str s => .text s
  | v => .text v.render

end TableApi.Sql
