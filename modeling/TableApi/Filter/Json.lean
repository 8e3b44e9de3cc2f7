import TableApi.Filter.Clause
import TableApi.Json.Basic

namespace TableApi.Filter

def ClauseValue.json : ClauseValue → Json
  | text s => .str s
  | date t => .str t.jsonText

def ListValue.json : ListValue → Json
  | texts values => .strings values
  | dates values => .strings (values.map Calendar.Instant.jsonText)

def Predicate.members : Predicate → List (String × Json)
  | compare op value =>
    [("kind", .str "compare"), ("operator", .str op.text), ("value", value.json)]
  | isNull => [("kind", .str "is_null")]
  | member values => [("kind", .str "in"), ("values", values.json)]
  | notMember values => [("kind", .str "not_in"), ("values", values.json)]

def Clause.json (c : Clause) : Json :=
  .obj ([("field", .str c.field), ("conjunction", .str c.conjunction.text)] ++ c.predicate.members)

def Order.json (o : Order) : Json :=
  .obj [("field", .str o.field), ("direction", .str o.direction.text)]

def Translation.json (t : Translation) : Json :=
  .obj [("clauses", .arr (t.clauses.map Clause.json)), ("sort", (t.sort.map Order.json).getD .null),
    ("limit", (t.limit.map Json.nat).getD .null)]

end TableApi.Filter
