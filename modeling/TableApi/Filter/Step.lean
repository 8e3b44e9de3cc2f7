import TableApi.Filter.Clause

namespace TableApi.Filter

/-- One step of building a query. A membership test has no conjunction: it always joins by AND. -/
inductive Step
  | compare (conjunction : Conjunction) (field : String) (op : Comparator) (value : ClauseValue)
  | isNull (conjunction : Conjunction) (field : String)
  | member (field : String) (negated : Bool) (values : ListValue)
  | orderBy (sort : Order)
  | limit (n : Nat)
deriving DecidableEq, Repr

def Clause.step (c : Clause) : Step :=
  match c.predicate with
  | .compare op value => .compare c.conjunction c.field op value
  | .isNull => .isNull c.conjunction c.field
  | .member values => .member c.field false values
  | .notMember values => .member c.field true values

def Translation.steps (t : Translation) : List Step :=
  t.clauses.map Clause.step ++ (t.sort.map Step.orderBy).toList ++ (t.limit.map Step.limit).toList

end TableApi.Filter
