import TableApi.Sql.Query

namespace TableApi.Sql

inductive Statement
  | count (table : String) (query : Query)
  | page (table : String) (query : Query) (limit offset : Nat)
  | find (table key value : String)
  | insert (table : String) (values : Entries Value)
  | update (table : String) (values : Entries Value) (key value : String)
  | delete (table key value : String)
deriving Repr

namespace Statement

/-- A count of rows, cut to what a signed integer of 64 bits holds: never negative, which would
lift the limit. -/
def cut (n : Nat) : Int := min n Text.maxSigned64

/-- The matching rows in order; with a limit it is a query of its own, which has to be ordered
again. -/
def selectText (table : String) (q : Query) : String :=
  let base := "SELECT * FROM " ++ quote table ++ q.whereClause ++ q.orderClause
  match q.limit with
  | some _ => "SELECT * FROM (" ++ base ++ " LIMIT ?)"
  | none => base

def selectValues (q : Query) : List Value :=
  q.params.map .text ++ (q.limit.map fun n => Value.integer (cut n)).toList

def columnList (values : Entries Value) : String :=
  Text.join ", " (values.names.map quote)

def assignmentList (values : Entries Value) : String :=
  Text.join ", " (values.names.map fun name => quote name ++ " = ?")

def keyText (key : String) : String := " WHERE " ++ quote key ++ " = ?"

def text : Statement → String
  | count table q => "SELECT COUNT(*) FROM (" ++ selectText table q ++ ")"
  | page table q _ _ =>
    selectText table q ++ (if q.limit.isSome then q.orderClause else "") ++ " LIMIT ? OFFSET ?"
  | find table key _ => "SELECT * FROM " ++ quote table ++ keyText key
  | insert table [] => "INSERT INTO " ++ quote table ++ " DEFAULT VALUES RETURNING *"
  | insert table values =>
    "INSERT INTO " ++ quote table ++ " (" ++ columnList values ++ ") VALUES (" ++
      placeholders values.length ++ ") RETURNING *"
  | update table values key _ =>
    "UPDATE " ++ quote table ++ " SET " ++ assignmentList values ++ keyText key ++ " RETURNING *"
  | delete table key _ => "DELETE FROM " ++ quote table ++ keyText key

def values : Statement → List Value
  | count _ q => selectValues q
  | page _ q limit offset => selectValues q ++ [.integer (cut limit), .integer (cut offset)]
  | find _ _ value => [.text value]
  | insert _ values => values.map Prod.snd
  | update _ values _ value => values.map Prod.snd ++ [.text value]
  | delete _ _ value => [.text value]

end Statement

end TableApi.Sql
