import TableApi.Sql.Statement
import TableApi.Store.Database
import TableApi.Store.Page

namespace TableApi.Store

open Sql (Query Statement)

structure TableRef where
  name : String
  primaryKey : String
deriving DecidableEq, Repr

structure RecordStore (m : Type → Type) where
  /-- One page of the matching records, and how many there are in all. -/
  list : TableRef → Query → Page → m (Except StoreError (List Record × Nat))
  find : TableRef → String → m (Except StoreError (Option Record))
  /-- Adds a record and gives it as stored. -/
  insert : TableRef → Record → m (Except StoreError Record)
  /-- Changes a record; nothing when there is none with the key. -/
  update : TableRef → String → Record → m (Except StoreError (Option Record))
  /-- Removes a record; false when there is none with the key. -/
  delete : TableRef → String → m (Except StoreError Bool)

def boundValues (record : Record) : Entries Sql.Value :=
  record.map fun (name, v) => (name, Sql.Value.ofJson v)

namespace Answer

def total : Answer → Nat
  | count n => n
  | _ => 0

def rows : Answer → List Record
  | records rows => rows
  | _ => []

def changes : Answer → Nat
  | changed n => n
  | _ => 0

end Answer

/-- The store that sends statements. A listing counts first and then reads the page; changing
nothing is looking the record up. -/
def RecordStore.sending {m : Type → Type} [Monad m]
    (send : Statement → m (Except StoreError Answer)) : RecordStore m where
  list t q p := do
    match ← send (.count t.name q) with
    | .error e => return .error e
    | .ok counted =>
      match ← send (.page t.name q p.perPage p.offset) with
      | .error e => return .error e
      | .ok page => return .ok (page.rows, counted.total)
  find t key := do
    return (← send (.find t.name t.primaryKey key)).map fun a => a.rows.head?
  insert t record := do
    return (← send (.insert t.name (boundValues record))).map fun a => a.rows.headD []
  update t key record := do
    let statement := if record.isEmpty then Statement.find t.name t.primaryKey key
      else Statement.update t.name (boundValues record) t.primaryKey key
    return (← send statement).map fun a => a.rows.head?
  delete t key := do
    return (← send (.delete t.name t.primaryKey key)).map fun a => a.changes != 0

def send (statement : Statement) : StateM Database (Except StoreError Answer) :=
  fun d =>
    match d.execute statement with
    | .ok (d, answer) => (.ok answer, d)
    | .error e => (.error (.database e), d)

def databaseStore : RecordStore (StateM Database) := .sending send

end TableApi.Store
