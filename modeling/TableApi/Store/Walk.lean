import TableApi.Store.Select

/-!
The order in which a query visits the rows of a table.

SQL leaves that order open where no sort decides it, and SQLite visits the rows as the cheapest
search for them finds them: by row id, along the index of a column whose values are distinct, or
by the alternatives of a disjunction one after the other. What a search costs is estimated from
the conditions and the declared columns alone, in tenths of the logarithm to base two, for a table
of 2^20 rows; the estimates here are those of a database without statistics, for fewer than some
forty conditions.
-/

namespace TableApi.Store

open TableApi.Filter (Comparator Conjunction Direction)
open Sql (Condition Conditions Query)

/-- What a condition says of the value at one place, as far as a search can use it. -/
inductive Use
  | equal
  | among (count : Nat)
  | null
  | below
  | above
  | opening
deriving DecidableEq, Repr

/-- A condition as the choice of a search sees it. A disjunction of equalities of one place is a
membership too. -/
inductive Term
  | use (place : Place) (use : Use)
  | either (alternatives : List (Conditions × List Term))
  /-- A condition that no row makes a difference to. -/
  | constant
  | other

inductive Walk
  /-- In the order of the values at a place, and by row id where they are equal, or backwards. -/
  | along (place : Place) (backwards : Bool)
  /-- For each alternative in turn, the rows not visited before of which it is true. -/
  | alternatives (branches : List (Conditions × Walk))

namespace Column

/-- The estimated size of a value, in units of a number. -/
def width (c : Column) : Nat :=
  let isSized := Affinity.mentions c.type "char" || Affinity.mentions c.type "blob("
  let size := ((c.type.toList.dropWhile (· != '(')).dropWhile (!·.isDigit)).takeWhile Char.isDigit
  match c.affinity with
  | .text | .blob =>
    if c.type = "" then 1 else if isSized then min 255 (Text.digitsValue size / 4 + 1) else 5
  | _ => 1

def isIndexed (c : Column) : Bool := c.isDistinct && !c.holdsRowId

end Column

/-! ### Terms -/

def patternOpening (pattern : String) : List Char :=
  pattern.toList.takeWhile fun c => c != '%' && c != '_' && c != '\x00'

def looksNumeric (s : List Char) : Bool :=
  let next := match s.getLast? with
    | some c => s.dropLast ++ [Char.ofNat (c.toNat + 1)]
    | none => []
  (Affinity.numberOf? (String.ofList s)).isSome || s = ['-'] ||
    (Affinity.numberOf? (String.ofList next)).isSome

namespace Table

/-- The places that can be searched: the row id, and the indexed columns from last to first. -/
def keys (t : Table) : List Place :=
  .rowId :: ((t.columns.mapIdx fun i c => (i, c)).reverse.filter fun x => x.2.isIndexed).map
    fun x => .column x.1

def isNullable (t : Table) : Place → Bool
  | .rowId => false
  | .column i => t.columns[i]?.any fun c => !c.notNull

def compareUse? (t : Table) (place : Place) (op : Comparator) (value : String) : Option Use :=
  match op with
  | .eq => some .equal
  | .lt | .le => some .below
  | .gt | .ge => some .above
  | .like =>
    let opening := patternOpening value
    if opening.isEmpty || t.affinityAt place != .text && looksNumeric opening then none
    else some .opening
  | .ne | .notLike => none

def term (t : Table) (field : String) (termAt : Place → Term) : Term :=
  ((t.place? field).map termAt).getD .constant

/-- A run of conditions as an alternative. A run that is nothing but a disjunction in brackets is
one with its alternatives. -/
def alternative (run : Conditions) (terms : List Term) : List (Conditions × List Term) :=
  match run, terms with
  | [_], [.either alternatives] => alternatives
  | run, terms => [(run, terms)]

mutual

/-- The terms of a condition; a conjunction in brackets is one with what it stands in. -/
def termsOf (t : Table) : Condition → List Term
  | .compare field op value => [t.term field fun place =>
      match t.compareUse? place op value with
      | some u => .use place u
      | none => .other]
  | .isNull field => [t.term field fun place =>
      if t.isNullable place then .use place .null else .constant]
  | .member _ _ [] => [.constant]
  | .member field true _ => [t.term field fun _ => .other]
  | .member field false [_] => [t.term field fun place => .use place .equal]
  | .member field false values => [t.term field fun place => .use place (.among values.length)]
  | .group conditions => t.joinedTerms conditions

/-- The terms of conditions: those of their one run, or one disjunction of the runs. -/
def joinedTerms (t : Table) : Conditions → List Term
  | [] => []
  | (conjunction, first) :: rest =>
    match t.alternativesFrom [(conjunction, first)] (t.termsOf first) rest with
    | [(_, terms)] => terms
    | alternatives => [.either alternatives]

def alternativesFrom (t : Table) (run : Conditions) (terms : List Term) :
    Conditions → List (Conditions × List Term)
  | [] => alternative run terms
  | (.and, condition) :: rest =>
    t.alternativesFrom (run ++ [(.and, condition)]) (terms ++ t.termsOf condition) rest
  | (.or, condition) :: rest =>
    alternative run terms ++ t.alternativesFrom [(.or, condition)] (t.termsOf condition) rest

end

end Table

def equalPlace? : List (Conditions × List Term) → Option Place
  | [] => none
  | [(_, [.use place .equal])] => some place
  | (_, [.use place .equal]) :: rest => if equalPlace? rest = some place then some place else none
  | _ => none

namespace Term

def use? : Term → Option (Place × Use)
  | .use place u => some (place, u)
  | .either alternatives =>
    (equalPlace? alternatives).map fun place => (place, .among alternatives.length)
  | .constant | .other => none

def isConstant : Term → Bool
  | .constant => true
  | _ => false

mutual

def size : Term → Nat
  | .either alternatives => sizeOfAlternatives alternatives + 1
  | _ => 1

def sizeOfAlternatives : List (Conditions × List Term) → Nat
  | [] => 0
  | (_, terms) :: rest => sizeOfTerms terms + sizeOfAlternatives rest

def sizeOfTerms : List Term → Nat
  | [] => 0
  | term :: rest => term.size + sizeOfTerms rest

end

end Term

/-! ### Costs -/

namespace Cost

/-- Ten times the logarithm to base two, rounded. -/
def log (n : Nat) : Nat :=
  10 * n.log2 + [0, 2, 3, 5, 6, 7, 8, 9].getD (n * 8 / Nat.pow 2 n.log2 % 8) 0

/-- The logarithm of the sum of two numbers that are given by theirs. -/
def add (m n : Nat) : Nat :=
  let gap := max m n - min m n
  let more := [10, 10, 9, 9, 8, 8, 7, 7, 7, 6, 6, 6, 5, 5, 5, 4, 4, 4, 4, 3, 3, 3, 3, 3, 3].getD gap
    (if gap ≤ 31 then 2 else if gap ≤ 49 then 1 else 0)
  max m n + more

def depth (n : Nat) : Nat := log n - 33

end Cost

structure Search where
  seeking : Nat
  /-- The cost of sorting what is found, if that has to be done. -/
  sorting : Nat := 0
  rows : Nat
  /-- The place in whose order the rows are found, or the alternatives of one term that are
  searched, with the other terms. -/
  order : Place ⊕ (List (Conditions × List Term) × List Term)
  /-- Whether it finds the rows that have one of some values at a place. -/
  isPinned : Bool := false

namespace Search

def cost (s : Search) : Nat :=
  if s.sorting = 0 then s.seeking else Cost.add s.seeking s.sorting + 3

def isBetter (s r : Search) : Bool :=
  s.cost < r.cost || s.cost = r.cost &&
    (s.rows < r.rows || s.rows = r.rows && s.seeking < r.seeking)

def best? : List Search → Option Search
  | [] => none
  | s :: rest =>
    match best? rest with
    | some r => if r.isBetter s then some r else some s
    | none => some s

end Search

namespace Table

def expectedRows : Nat := 200

def width (t : Table) : Nat :=
  let columns := t.columns.foldl (fun sum c => sum + c.width) 0
  if t.columns.any Column.holdsRowId then columns else columns + 1

/-- The cost of stepping through one row of an index, against one row of the table. -/
def indexStep (t : Table) (index : Nat) : Nat :=
  let width := (t.columns[index]?.map Column.width).getD 0 + 1
  1 + 15 * Cost.log (width * 4) / Cost.log (t.width * 4)

def isCovered (t : Table) (index : Nat) : Bool :=
  (t.columns.mapIdx fun i c => i = index || c.holdsRowId).all id

/-- The cost of visiting rows along a place, after a descent to the first of them. -/
def visitCost (t : Table) (descent : Nat → Nat) (place : Place) (rows : Nat) : Nat :=
  match place with
  | .rowId => descent (rows + 16)
  | .column i =>
    let found := descent (rows + t.indexStep i)
    if t.isCovered i then found else Cost.add found (rows + 16)

def seekCost (t : Table) (place : Place) (rows : Nat) : Nat :=
  t.visitCost (Cost.add (Cost.depth expectedRows)) place rows

/-- All rows, one after the other; each of some conditions is expected to leave a few less. -/
def scan (t : Table) (conditions : Nat) (place : Place) : Search :=
  { seeking := t.visitCost id place expectedRows, rows := max 1 (expectedRows - conditions),
    order := .inl place }

def seek? (t : Table) (place : Place) : Use → Option Search
  | .equal =>
    some { seeking := t.seekCost place 0, rows := 0, order := .inl .rowId, isPinned := true }
  | .null =>
    some { seeking := t.seekCost place 10, rows := 10, order := .inl .rowId, isPinned := true }
  | .among count =>
    some { seeking := t.seekCost place 0 + Cost.log count, rows := Cost.log count,
           order := .inl place, isPinned := true }
  | .below | .above | .opening => none

/-- The search for the values between the bounds that some uses set. Both bounds leave fewer rows
than two bounds by themselves would. -/
def range? (t : Table) (place : Place) (uses : List Use) : Option Search :=
  let isBoth := place = .rowId && uses.contains .opening
  let isBelow := isBoth || uses.contains .below
  let isAbove := isBoth || uses.contains .above
  let rows := if isBelow && isAbove then 140 else 180
  if isBelow || isAbove then some { seeking := t.seekCost place rows, rows, order := .inl place }
  else none

def seeks (t : Table) (uses : List (Place × Use)) (place : Place) : List Search :=
  let here := uses.filterMap fun x => if x.1 = place then some x.2 else none
  here.filterMap (t.seek? place) ++ (t.range? place here).toList

mutual

/-- The searches through the alternatives of one term, where all uses have to hold; `passed` are
the terms before. -/
def unions (t : Table) (uses : List (Place × Use)) (passed : List Term) :
    List Term → List Search
  | [] => []
  | .either alternatives :: rest =>
    let later := t.unions uses (passed ++ [.either alternatives]) rest
    match t.unionCost? uses none alternatives with
    | some (cost, rows) =>
      { seeking := cost + 1, rows, order := .inr (alternatives, passed ++ rest) } :: later
    | none => later
  | term :: rest => t.unions uses (passed ++ [term]) rest

/-- The cost of searching all alternatives and the rows expected of them. Each one has to say
something of the value at some place. -/
def unionCost? (t : Table) (uses : List (Place × Use)) (sum : Option (Nat × Nat)) :
    List (Conditions × List Term) → Option (Nat × Nat)
  | [] => sum
  | (_, terms) :: rest =>
    let own := terms.filterMap Term.use?
    if own.isEmpty then none
    else
      match Search.best? (t.keys.flatMap (t.seeks (own ++ uses)) ++
          t.unions (own ++ uses) [] terms) with
      | none => none
      | some s =>
        t.unionCost? uses (some (match sum with
          | none => (s.cost, s.rows)
          | some (cost, rows) => (Cost.add cost s.cost, Cost.add rows s.rows))) rest

end

def searches (t : Table) (terms : List Term) : List Search :=
  let uses := terms.filterMap Term.use?
  t.keys.flatMap (t.seeks uses) ++ t.unions uses [] terms

def sortCost (t : Table) (rows : Nat) : Nat :=
  rows + Cost.log ((t.columns.length + 59) / 30) + Cost.depth rows

/-- Whether a search finds rows in the order of a place: it does when it finds one at most. -/
def delivers (s : Search) (place : Place) : Bool :=
  s.rows = 0 || match s.order with
    | .inl p => p = place
    | .inr _ => false

/-- The search that finds the rows at the least cost, sorting them included, and whether it goes
backwards. -/
def chosen (t : Table) (terms : List Term) (sort : Option Filter.Order) : Search × Bool :=
  let scan := t.scan (terms.filter (!·.isConstant)).length
  let narrow := t.searches terms
  let first := (Search.best? (scan .rowId :: narrow)).getD (scan .rowId)
  match sort with
  | none => (first, false)
  | some sort =>
    let place := t.place? sort.field
    let isOne := (terms.filterMap Term.use?).any fun x =>
      place = some x.1 && (x.2 = .equal || x.2 = .null)
    let isSorted (s : Search) : Bool := place.any (delivers s)
    let whole :=
      if first.isPinned then []
      else scan .rowId :: (place.toList.filter fun p => p != .rowId && t.keys.contains p).map scan
    let costs := (whole ++ narrow).map fun s =>
      if isOne || isSorted s then s
      else { s with sorting := t.sortCost (first.rows + 1) }
    let least := (Search.best? costs).getD first
    (least, !isOne && isSorted least && sort.direction = .descending)

/-- The walk of a number of nested searches at most. -/
def walkWithin (t : Table) : Nat → List Term → Option Filter.Order → Walk
  | 0, _, _ => .along .rowId false
  | steps + 1, terms, sort =>
    let (s, backwards) := t.chosen terms sort
    match s.order with
    | .inl place => .along place backwards
    | .inr (alternatives, others) =>
      .alternatives (alternatives.map fun (run, own) =>
        (run, t.walkWithin steps (own ++ others) none))

def declared (t : Table) : Table := { name := t.name, columns := t.columns }

def walk (t : Table) (q : Query) : Walk :=
  let terms := t.declared.joinedTerms q.conditions
  t.declared.walkWithin (Term.sizeOfTerms terms + 1) terms q.order

end Table

/-- Rows in the order of the values at a place; they stand in the order of row ids. -/
def rowsAlong (place : Place) (rows : List Row) : List Row :=
  match place with
  | .rowId => rows
  | .column _ => rows.mergeSort fun r s => (r.at place).compare (s.at place) != .gt

mutual

def Walk.visit (t : Table) : Walk → List Row → List Row
  | .along place backwards, rows =>
    let found := rowsAlong place rows
    if backwards then found.reverse else found
  | .alternatives branches, rows => visitBranches t branches rows

def visitBranches (t : Table) : List (Conditions × Walk) → List Row → List Row
  | [], rows => rows
  | (run, walk) :: rest, rows =>
    let isTrue (r : Row) : Bool := conditionsTruth t r run = some true
    walk.visit t (rows.filter isTrue) ++ visitBranches t rest (rows.filter fun r => !isTrue r)

end

end TableApi.Store
