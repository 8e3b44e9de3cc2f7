import TableApi.Filter.Step
import TableApi.Sql.Identifier
import TableApi.Sql.Value

namespace TableApi.Sql

open TableApi.Filter (Conjunction Comparator Step Order Translation)

inductive Condition
  | compare (field : String) (op : Comparator) (value : String)
  | isNull (field : String)
  | member (field : String) (negated : Bool) (values : List String)
  | group (conditions : List (Conjunction × Condition))
deriving Repr, Inhabited

/-- Conditions in order, each with the conjunction before it; that of the first has no effect. -/
abbrev Conditions := List (Conjunction × Condition)

structure Query where
  conditions : Conditions := []
  /-- The values bound to the placeholders of the conditions. -/
  params : List String := []
  order : Option Order := none
  limit : Option Nat := none
deriving Repr, Inhabited

mutual

/-- The text of a condition. An empty list has no text of its own: it is false, its negation
true. -/
def Condition.text : Condition → String
  | .compare field op _ => quote field ++ " " ++ op.text ++ " ?"
  | .isNull field => quote field ++ " IS NULL"
  | .member _ negated [] => if negated then "1 = 1" else "1 = 0"
  | .member field negated values =>
    quote field ++ (if negated then " NOT IN (" else " IN (") ++ placeholders values.length ++ ")"
  | .group conditions => "(" ++ conditionsText conditions ++ ")"

def conditionsText : Conditions → String
  | [] => ""
  | (_, first) :: rest => first.text ++ joinedText rest

def joinedText : Conditions → String
  | [] => ""
  | (conjunction, condition) :: rest =>
    " " ++ conjunction.text ++ " " ++ condition.text ++ joinedText rest

end

namespace Query

/-- Adds one condition at the end, and its values to those that are bound. -/
def add (q : Query) (conjunction : Conjunction) (condition : Condition) (values : List String) :
    Query :=
  { q with
    conditions := q.conditions ++ [(conjunction, condition)],
    params := q.params ++ values }

def take (q : Query) : Step → Query
  | .compare conjunction field op value =>
    q.add conjunction (.compare field op value.bound) [value.bound]
  | .isNull conjunction field => q.add conjunction (.isNull field) []
  | .member field negated values => q.add .and (.member field negated values.bound) values.bound
  | .orderBy sort => { q with order := some sort }
  | .limit n => { q with limit := some n }

def ofSteps (steps : List Step) : Query := steps.foldl take {}

def ofTranslation (t : Translation) : Query := ofSteps t.steps

def ofClauses (clauses : List Filter.Clause) : Query := ofSteps (clauses.map Filter.Clause.step)

/-- Adds the conditions of another query as one group, joined by AND; its sort and limit win where
it has them. -/
def andGroup (q group : Query) : Query :=
  let joined :=
    if group.conditions.isEmpty then q else q.add .and (.group group.conditions) group.params
  { joined with order := group.order.or q.order, limit := group.limit.or q.limit }

def whereText? (q : Query) : Option String :=
  if q.conditions.isEmpty then none else some (conditionsText q.conditions)

def whereClause (q : Query) : String :=
  match q.whereText? with
  | some text => " WHERE " ++ text
  | none => ""

def orderClause (q : Query) : String :=
  match q.order with
  | some sort => " ORDER BY " ++ quote sort.field ++ " " ++ sort.direction.text
  | none => ""

end Query

end TableApi.Sql
