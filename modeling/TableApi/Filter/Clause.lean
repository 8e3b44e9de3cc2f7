import TableApi.Calendar.Instant
import TableApi.Filter.Operator

namespace TableApi.Filter

open Calendar (Instant)

inductive ClauseValue
  | text (s : String)
  | date (t : Instant)
deriving DecidableEq, Repr

def ClauseValue.bound : ClauseValue → String
  | .text s => s
  | .date t => t.text

inductive ListValue
  | texts (values : List String)
  | dates (values : List Instant)
deriving DecidableEq, Repr

def ListValue.bound : ListValue → List String
  | .texts values => values
  | .dates values => values.map Instant.text

inductive Predicate
  | compare (op : Comparator) (value : ClauseValue)
  | isNull
  | member (values : ListValue)
  | notMember (values : ListValue)
deriving DecidableEq, Repr

structure Clause where
  field : String
  conjunction : Conjunction
  predicate : Predicate
deriving DecidableEq, Repr

structure Order where
  field : String
  direction : Direction
deriving DecidableEq, Repr

structure Translation where
  clauses : List Clause := []
  sort : Option Order := none
  limit : Option Nat := none
deriving DecidableEq, Repr, Inhabited

structure Fields where
  allowed : List String := []
  dates : List String := []
deriving DecidableEq, Repr

def Fields.allows (f : Fields) (field : String) : Bool := f.allowed.contains field
def Fields.isDate (f : Fields) (field : String) : Bool := f.dates.contains field

end TableApi.Filter
