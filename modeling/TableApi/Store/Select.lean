import TableApi.Sql.Statement
import TableApi.Store.Like
import TableApi.Store.Table
import TableApi.Store.Truth

/-!
Which rows a query selects.

Conditions are read as SQL reads them: AND binds tighter than OR, and a row is selected when the
whole is true, not when it is unknown. A quoted name that no column has is a text.
-/

namespace TableApi.Store

open TableApi.Filter (Comparator Conjunction Direction)
open Sql (Condition Conditions Query Statement)

structure Operand where
  cell : Cell
  affinity : Affinity
deriving DecidableEq, Repr

def Table.operand (t : Table) (r : Row) (name : String) : Operand :=
  match t.place? name with
  | some place => { cell := r.at place, affinity := t.affinityAt place }
  | none => { cell := .text name, affinity := .blob }

def holds (op : Comparator) (o : Ordering) : Bool :=
  match op with
  | .eq => o = .eq
  | .ne => o != .eq
  | .lt => o = .lt
  | .le => o != .gt
  | .gt => o = .gt
  | .ge => o != .lt
  | .like | .notLike => false

namespace Operand

def compare (x : Operand) (op : Comparator) (value : String) : Truth :=
  if x.cell = .null then Truth.unknown
  else some (holds op (x.cell.compare (x.affinity.operand value)))

/-- Matches a pattern; unknown when the left side is null. SQLite refuses a pattern of more than
50000 bytes, which here is matched like any other. -/
def matchesPattern (x : Operand) (pattern : String) : Truth :=
  x.cell.chars?.map (like (pattern.toList.takeWhile (· != '\x00')))

def test (x : Operand) (op : Comparator) (value : String) : Truth :=
  match op with
  | .like => x.matchesPattern value
  | .notLike => (x.matchesPattern value).not
  | op => x.compare op value

def member (x : Operand) (values : List String) : Truth :=
  if values.isEmpty then some false
  else if x.cell = .null then Truth.unknown
  else some (values.any fun value => x.compare .eq value = some true)

end Operand

mutual

def conditionTruth (t : Table) (r : Row) : Condition → Truth
  | .compare field op value => (t.operand r field).test op value
  | .isNull field => some ((t.operand r field).cell = .null)
  | .member field negated values =>
    let truth := (t.operand r field).member values
    if negated then truth.not else truth
  | .group conditions => conditionsTruth t r conditions

def conditionsTruth (t : Table) (r : Row) : Conditions → Truth
  | [] => some true
  | (_, first) :: rest => joinedTruth t r (conditionTruth t r first) rest

def joinedTruth (t : Table) (r : Row) (run : Truth) : Conditions → Truth
  | [] => run
  | (.and, condition) :: rest => joinedTruth t r (run.and (conditionTruth t r condition)) rest
  | (.or, condition) :: rest => run.or (joinedTruth t r (conditionTruth t r condition) rest)

end

namespace Table

def selects (t : Table) (q : Query) (r : Row) : Bool :=
  conditionsTruth t r q.conditions = some true

def hasKey (t : Table) (key value : String) (r : Row) : Bool :=
  (t.operand r key).compare .eq value = some true

end Table

end TableApi.Store
