import TableApi.Sql.Statement
import TableApi.Store.Listing
import TableApi.Store.Write

/-!
Databases: tables that refer to each other, and what statements do to them.

A statement that fails changes nothing.
-/

namespace TableApi.Store

open Sql (Statement)

abbrev Database := List Table

inductive Answer
  | count (n : Nat)
  | records (rows : List Record)
  | changed (n : Nat)
deriving Repr, Inhabited

namespace Database

/-- Names of tables are compared without case. -/
def table? (d : Database) (name : String) : Option Table :=
  d.find? fun t => Text.sameIgnoringCase t.name name

def withTable (d : Database) (t : Table) : Database :=
  d.map fun u => if u.name = t.name then t else u

def hasReferred (d : Database) (reference : Reference) (cell : Cell) : Bool :=
  match d.table? reference.table with
  | none => false
  | some t =>
    match t.place? reference.column with
    | none => false
    | some place =>
      let value := (t.affinityAt place).store cell
      t.rows.any fun r => (r.at place).compare value = .eq

/-- Whether every reference of a row leads to a row. Null refers to nothing. -/
def isLinked (d : Database) (t : Table) (r : Row) : Bool :=
  (t.columns.zip r.cells).all fun (c, cell) =>
    match c.references with
    | none => true
    | some reference => cell = .null || d.hasReferred reference cell

def isWhole (d : Database) : Bool := d.all fun t => t.rows.all (d.isLinked t)

def commit (d : Database) (t : Table) : Except DatabaseError Database :=
  let d := d.withTable t
  if d.isWhole then .ok d else .error .foreignKey

def find (d : Database) (name : String) : Except DatabaseError Table :=
  match d.table? name with
  | some t => .ok t
  | none => .error (.noSuchTable name)

def insert (d : Database) (table : String) (values : Entries Sql.Value) :
    Except DatabaseError (Database × Answer) := do
  let t ← d.find table
  let values ← t.assignments (.noColumnNamed table) values
  let (t, row) ← t.insert values
  return (← d.commit t, .records [t.record row])

def update (d : Database) (table : String) (values : Entries Sql.Value) (key value : String) :
    Except DatabaseError (Database × Answer) := do
  let t ← d.find table
  let values ← t.assignments .noSuchColumn values
  let (t, rows) ← t.updateRows values (t.rows.filter (t.hasKey key value))
  return (← d.commit t, .records (rows.map t.record))

def delete (d : Database) (table key value : String) :
    Except DatabaseError (Database × Answer) := do
  let t ← d.find table
  let kept := t.rows.filter fun r => !t.hasKey key value r
  return (← d.commit { t with rows := kept }, .changed (t.rows.length - kept.length))

def execute (d : Database) : Statement → Except DatabaseError (Database × Answer)
  | .count table q => (d.find table).map fun t => (d, .count (t.matching q).length)
  | .page table q limit offset =>
    (d.find table).map fun t => (d, .records ((t.page q limit offset).map t.record))
  | .find table key value =>
    (d.find table).map fun t => (d, .records ((t.rows.filter (t.hasKey key value)).map t.record))
  | .insert table values => d.insert table values
  | .update table values key value => d.update table values key value
  | .delete table key value => d.delete table key value

end Database

end TableApi.Store
