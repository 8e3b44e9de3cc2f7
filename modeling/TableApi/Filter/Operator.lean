import TableApi.Text.Blank
import TableApi.Text.Cut

/-!
The vocabulary of filter names: `or_age_gte` is the field `age`, joined by OR and compared by
`gte`.
-/

namespace TableApi.Filter

inductive Conjunction
  | and
  | or
deriving DecidableEq, Repr, Inhabited

def Conjunction.text : Conjunction → String
  | .and => "AND"
  | .or => "OR"

inductive Comparator
  | eq | ne | lt | le | gt | ge | like | notLike
deriving DecidableEq, Repr, Inhabited

def Comparator.text : Comparator → String
  | .eq => "="
  | .ne => "!="
  | .lt => "<"
  | .le => "<="
  | .gt => ">"
  | .ge => ">="
  | .like => "LIKE"
  | .notLike => "NOT LIKE"

def Comparator.all : List Comparator := [.eq, .ne, .lt, .le, .gt, .ge, .like, .notLike]

inductive Direction
  | ascending
  | descending
deriving DecidableEq, Repr, Inhabited

def Direction.text : Direction → String
  | .ascending => "ASC"
  | .descending => "DESC"

def Direction.read? (s : String) : Option Direction :=
  let word := Text.lower (Text.trim s)
  if word = "asc" then some .ascending
  else if word = "desc" then some .descending
  else none

inductive Operator
  | not | member | notMember
  | lt | le | gt | ge
  | contains | notContains | startsWith | notStartsWith | endsWith | notEndsWith
deriving DecidableEq, Repr

namespace Operator

def all : List Operator :=
  [not, member, notMember, lt, le, gt, ge, contains, notContains, startsWith, notStartsWith,
    endsWith, notEndsWith]

def keyword : Operator → String
  | not => "not"
  | member => "in"
  | notMember => "not_in"
  | lt => "lt"
  | le => "lte"
  | gt => "gt"
  | ge => "gte"
  | contains => "contains"
  | notContains => "not_contains"
  | startsWith => "starts_with"
  | notStartsWith => "not_starts_with"
  | endsWith => "ends_with"
  | notEndsWith => "not_ends_with"

def ending (op : Operator) : List Char := '_' :: op.keyword.toList

def isTextMatch : Operator → Bool
  | contains | notContains | startsWith | notStartsWith | endsWith | notEndsWith => true
  | _ => false

/-- Puts wildcards around the value of a text match; other values stay as they are. -/
def pattern (op : Operator) (value : String) : String :=
  match op with
  | contains | notContains => "%" ++ value ++ "%"
  | startsWith | notStartsWith => value ++ "%"
  | endsWith | notEndsWith => "%" ++ value
  | _ => value

/-- The comparison of a single value. Without an operator, and under a membership operator, it is
equality. -/
def comparator : Option Operator → Comparator
  | some not => .ne
  | some lt => .lt
  | some le => .le
  | some gt => .gt
  | some ge => .ge
  | some contains | some startsWith | some endsWith => .like
  | some notContains | some notStartsWith | some notEndsWith => .notLike
  | some member | some notMember | none => .eq

end Operator

structure Name where
  field : String
  operator : Option Operator := none
  conjunction : Conjunction := .and
deriving DecidableEq, Repr

namespace Name

def endings (name : List Char) : List (List Char × Operator) :=
  Operator.all.filterMap fun op => (Text.dropEnding? op.ending name).map fun base => (base, op)

def longer (a b : List Char × Operator) : List Char × Operator :=
  if b.2.keyword.length < a.2.keyword.length then a else b

def splitOperator (name : List Char) : List Char × Option Operator :=
  match endings name with
  | [] => (name, none)
  | first :: rest =>
    let longest := rest.foldl longer first
    (longest.1, some longest.2)

def splitConjunction (name : List Char) : List Char × Conjunction :=
  match Text.dropOpening? ['o', 'r', '_'] name with
  | some field => (field, .or)
  | none => (name, .and)

def read (name : String) : Name :=
  let (base, operator) := splitOperator name.toList
  let (field, conjunction) := splitConjunction base
  { field := String.ofList field, operator, conjunction }

def base (n : Name) : String :=
  match n.conjunction with
  | .and => n.field
  | .or => "or_" ++ n.field

def write (n : Name) : String :=
  match n.operator with
  | none => n.base
  | some op => n.base ++ "_" ++ op.keyword

end Name

end TableApi.Filter
