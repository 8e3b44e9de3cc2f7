import TableApi.Store.Walk

namespace TableApi.Store

open Sql (Query Statement)

def bounded (n : Int) (rows : List Row) : List Row := if n < 0 then rows else rows.take n.toNat

def skipping (n : Int) (rows : List Row) : List Row := rows.drop n.toNat

namespace Table

def precedes (t : Table) (sort : Filter.Order) (r s : Row) : Bool :=
  match t.place? sort.field with
  | none => true
  | some place =>
    let order := (r.at place).compare (s.at place)
    match sort.direction with
    | .ascending => order != .gt
    | .descending => order != .lt

/-- The rows in the order of a sort; equal rows, and all rows without a sort, stay as they were. -/
def sorted (t : Table) (sort : Option Filter.Order) (rows : List Row) : List Row :=
  match sort with
  | none => rows
  | some sort => rows.mergeSort (t.precedes sort)

def visited (t : Table) (q : Query) : List Row := (t.walk q).visit t t.rows

def matching (t : Table) (q : Query) : List Row :=
  let rows := t.sorted q.order ((t.visited q).filter (t.selects q))
  match q.limit with
  | some n => bounded (Statement.cut n) rows
  | none => rows

/-- One page of the rows that a query selects. What a limit has cut is ordered again. -/
def page (t : Table) (q : Query) (limit offset : Nat) : List Row :=
  let rows := if q.limit.isSome then t.sorted q.order (t.matching q) else t.matching q
  bounded (Statement.cut limit) (skipping (Statement.cut offset) rows)

end Table

end TableApi.Store
