import TableApi.Proofs.Sql.Runs
import TableApi.Store.Schema

namespace TableApi.Sql

open TableApi.Filter (Comparator Conjunction Step)
open Store.Schema (Token)

/-- A condition with its values. A membership has at least one value: an empty list is spelled as
a constant. A group is true when all of some run of it is. -/
inductive Expression
  | compare (field : String) (op : Comparator) (value : String)
  | isNull (field : String)
  | member (field : String) (negated : Bool) (values : List String)
  | constant (truth : Bool)
  | group (runs : List (List Expression))

/-- A call to the builder of a query: a step, or a group that is built by calls of its own. -/
inductive Call
  | step (s : Step)
  | group (calls : List Call)

mutual

def Call.apply (q : Query) : Call → Query
  | .step s => q.take s
  | .group calls => q.andGroup (applyCalls {} calls)

def applyCalls (q : Query) : List Call → Query
  | [] => q
  | c :: rest => applyCalls (c.apply q) rest

end

def builtBy (calls : List Call) : Query := applyCalls {} calls

def describedByStep : Step → List (Conjunction × Expression)
  | .compare conjunction field op value => [(conjunction, .compare field op value.bound)]
  | .isNull conjunction field => [(conjunction, .isNull field)]
  | .member field negated values =>
    [(.and, if values.bound.isEmpty then .constant negated
      else .member field negated values.bound)]
  | .orderBy _ | .limit _ => []

mutual

def Call.described : Call → List (Conjunction × Expression)
  | .step s => describedByStep s
  | .group calls =>
    match describedBy calls with
    | [] => []
    | joined => [(.and, .group (runs joined))]

/-- The expressions that calls describe, each with the conjunction that it is joined by. -/
def describedBy : List Call → List (Conjunction × Expression)
  | [] => []
  | c :: rest => c.described ++ describedBy rest

end

/-- A token of a text whose question marks were replaced by values. -/
inductive Item
  | token (t : Token)
  | value (v : String)
deriving DecidableEq

/-- Puts values in place of the question marks of a text, in order. There have to be as many. -/
def bind? : List Token → List String → Option (List Item)
  | [], [] => some []
  | [], _ :: _ => none
  | t :: ts, values =>
    if t = .symbol '?' then
      match values with
      | [] => none
      | v :: values => (bind? ts values).map (.value v :: ·)
    else (bind? ts values).map (.token t :: ·)

def readComparator? : List Item → Option (Comparator × List Item)
  | .token (.symbol '=') :: rest => some (.eq, rest)
  | .token (.symbol '!') :: .token (.symbol '=') :: rest => some (.ne, rest)
  | .token (.symbol '<') :: .token (.symbol '=') :: rest => some (.le, rest)
  | .token (.symbol '<') :: rest => some (.lt, rest)
  | .token (.symbol '>') :: .token (.symbol '=') :: rest => some (.ge, rest)
  | .token (.symbol '>') :: rest => some (.gt, rest)
  | .token (.word "LIKE") :: rest => some (.like, rest)
  | .token (.word "NOT") :: .token (.word "LIKE") :: rest => some (.notLike, rest)
  | _ => none

def readValues? : List Item → Option (List String × List Item)
  | .value v :: .token (.symbol ')') :: rest => some ([v], rest)
  | .value v :: .token (.symbol ',') :: rest =>
    (readValues? rest).map fun x => (v :: x.1, x.2)
  | _ => none

def readTest? (field : String) : List Item → Option (Expression × List Item)
  | .token (.word "IS") :: .token (.word "NULL") :: rest => some (.isNull field, rest)
  | .token (.word "IN") :: .token (.symbol '(') :: rest =>
    (readValues? rest).map fun x => (.member field false x.1, x.2)
  | .token (.word "NOT") :: .token (.word "IN") :: .token (.symbol '(') :: rest =>
    (readValues? rest).map fun x => (.member field true x.1, x.2)
  | items =>
    match readComparator? items with
    | some (op, .value v :: rest) => some (.compare field op v, rest)
    | _ => none

/-- Reads an operand: an expression in brackets, a constant or a test of a name. -/
def readOperand? (readInner? : List Item → Option (List (List Expression) × List Item)) :
    List Item → Option (Expression × List Item)
  | .token (.symbol '(') :: items =>
    match readInner? items with
    | some (inner, .token (.symbol ')') :: rest) => some (.group inner, rest)
    | _ => none
  | .token (.number "1") :: .token (.symbol '=') :: .token (.number "1") :: rest =>
    some (.constant true, rest)
  | .token (.number "1") :: .token (.symbol '=') :: .token (.number "0") :: rest =>
    some (.constant false, rest)
  | .token (.name field) :: items => readTest? field items
  | _ => none

def consFirst {α : Type} (a : α) : List (List α) → List (List α)
  | [] => [[a]]
  | run :: rest => (a :: run) :: rest

/-- Reads operands joined by AND and OR. An operand before AND stands in the run that follows; one
before OR ends its run. Each step takes at least one item. -/
def readRuns? : Nat → List Item → Option (List (List Expression) × List Item)
  | 0, _ => none
  | steps + 1, items =>
    match readOperand? (readRuns? steps) items with
    | some (e, .token (.word "AND") :: rest) =>
      (readRuns? steps rest).map fun x => (consFirst e x.1, x.2)
    | some (e, .token (.word "OR") :: rest) =>
      (readRuns? steps rest).map fun x => ([e] :: x.1, x.2)
    | some (e, rest) => some ([[e]], rest)
    | none => none

def readExpression? (items : List Item) : Option (List (List Expression)) :=
  match readRuns? items.length items with
  | some (expression, []) => some expression
  | _ => none

end TableApi.Sql
