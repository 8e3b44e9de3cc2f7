import TableApi.Store.Error
import TableApi.Store.Select

namespace TableApi.Store

open Sql (Value)

abbrev Assignments := List (Place × Cell)

namespace Table

def assignments (t : Table) (unknown : String → DatabaseError) (values : Entries Value) :
    Except DatabaseError Assignments :=
  values.mapM fun (name, value) =>
    match t.place? name with
    | some place => .ok (place, Cell.ofValue value)
    | none => .error (unknown name)

def rowIdOf? (c : Cell) : Option Int :=
  match Affinity.integer.store c with
  | .integer i => some i
  | _ => none

def firstGiven? (values : Assignments) (place : Place) : Option Cell :=
  (values.find? fun x => x.1 = place).map Prod.snd

def lastGiven? (values : Assignments) (place : Place) : Option Cell :=
  firstGiven? values.reverse place

def cellsWith (t : Table) (id : Int) (cellAt : Nat → Column → Cell) : List Cell :=
  t.columns.mapIdx fun i c => if c.holdsRowId then .integer id else cellAt i c

def nullBreach? (t : Table) (r : Row) : Option DatabaseError :=
  ((t.columns.zip r.cells).find? fun x => x.1.notNull && x.2 = .null).map fun x =>
    .notNull t.name x.1.name

def idBreach (t : Table) : DatabaseError :=
  match t.columns.find? Column.holdsRowId with
  | some c => .primaryKey t.name c.name
  | none => .rowId t.name

/-- Whether a row has a value that another row has in the same column; nulls differ from each
other. -/
def repeats (index : Nat) (r : Row) (others : List Row) : Bool :=
  let cell := r.at (.column index)
  cell != .null && others.any fun s => (s.at (.column index)).compare cell = .eq

/-- The first constraint on distinct values that a row breaks among others: the row id, then the
columns from last to first. -/
def repeatBreach? (t : Table) (r : Row) (others : List Row) : Option DatabaseError :=
  if others.any fun s => s.id = r.id then some t.idBreach
  else
    let indexed := t.columns.mapIdx fun i c => (i, c)
    (indexed.reverse.find? fun (i, c) =>
      c.isDistinct && !c.holdsRowId && repeats i r others).map fun (_, c) =>
        if c.primaryKey then .primaryKey t.name c.name else .unique t.name c.name

def check (t : Table) (r : Row) (others : List Row) : Except DatabaseError Unit :=
  match t.nullBreach? r with
  | some e => .error e
  | none =>
    match t.repeatBreach? r others with
    | some e => .error e
    | none => .ok ()

/-- The row id of a new row: the given one, or the next one when it is null or not given. When all
ids that could be next are taken, the table is full. -/
def newId (t : Table) (values : Assignments) : Except DatabaseError Int :=
  match lastGiven? values .rowId with
  | none | some .null =>
    if t.nextId ≤ (Text.maxSigned64 : Int) then .ok t.nextId else .error .full
  | some c =>
    match rowIdOf? c with
    | some id => .ok id
    | none => .error .typeMismatch

def lastIdWith (t : Table) (id : Int) : Int := if t.keepsIds then max t.lastId id else t.lastId

def insert (t : Table) (values : Assignments) : Except DatabaseError (Table × Row) := do
  let id ← t.newId values
  let row : Row :=
    { id, cells := t.cellsWith id fun i c =>
        c.affinity.store ((firstGiven? values (.column i)).getD c.default) }
  t.check row t.rows
  return ({ t with rows := insertRow row t.rows, lastId := t.lastIdWith id }, row)

/-- The row id of a changed row: the one it had unless one is given, which may not be null. -/
def changedId (values : Assignments) (r : Row) : Except DatabaseError Int :=
  match lastGiven? values .rowId with
  | none => .ok r.id
  | some c =>
    match rowIdOf? c with
    | some id => .ok id
    | none => .error .typeMismatch

def changed (t : Table) (values : Assignments) (r : Row) : Except DatabaseError Row := do
  let id ← changedId values r
  return { id, cells := t.cellsWith id fun i c =>
      match lastGiven? values (.column i) with
      | some cell => c.affinity.store cell
      | none => r.at (.column i) }

def updateRow (t : Table) (values : Assignments) (r : Row) :
    Except DatabaseError (Table × Row) := do
  let row ← t.changed values r
  let others := t.rows.filter fun s => s.id != r.id
  t.check row others
  return ({ t with rows := insertRow row others }, row)

def updateRows (t : Table) (values : Assignments) :
    List Row → Except DatabaseError (Table × List Row)
  | [] => .ok (t, [])
  | r :: rest => do
    let (t, row) ← t.updateRow values r
    let (t, rows) ← t.updateRows values rest
    return (t, row :: rows)

end Table

end TableApi.Store
