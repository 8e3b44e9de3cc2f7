import TableApi.Entries
import TableApi.Store.Cell
import TableApi.Text.Blank

namespace TableApi.Store

structure Reference where
  table : String
  column : String
deriving DecidableEq, Repr

structure Column where
  name : String
  type : String
  primaryKey : Bool := false
  autoincrement : Bool := false
  notNull : Bool := false
  unique : Bool := false
  default : Cell := .null
  references : Option Reference := none
deriving DecidableEq, Repr

namespace Column

def affinity (c : Column) : Affinity := .ofType c.type

def holdsRowId (c : Column) : Bool := c.primaryKey && Text.sameIgnoringCase c.type "integer"

def isDistinct (c : Column) : Bool := c.unique || c.primaryKey

end Column

structure Row where
  id : Int
  cells : List Cell
deriving DecidableEq, Repr

structure Table where
  name : String
  columns : List Column
  rows : List Row := []
  /-- The largest row id that was ever given to a row, where none may come again. -/
  lastId : Int := 0
deriving DecidableEq, Repr

def rowIdNames : List String := ["rowid", "oid", "_rowid_"]

inductive Place
  | column (index : Nat)
  | rowId
deriving DecidableEq, Repr

namespace Table

/-- Names of columns are compared without case. -/
def columnIndex? (t : Table) (name : String) : Option Nat :=
  t.columns.findIdx? fun c => Text.sameIgnoringCase c.name name

def place? (t : Table) (name : String) : Option Place :=
  match t.columnIndex? name with
  | some i => if t.columns[i]?.any Column.holdsRowId then some .rowId else some (.column i)
  | none => if rowIdNames.contains (Text.lower name) then some .rowId else none

def affinityAt (t : Table) : Place → Affinity
  | .rowId => .integer
  | .column i => (t.columns[i]?.map Column.affinity).getD .blob

def hasId (t : Table) (id : Int) : Bool := t.rows.any fun r => r.id = id

def keepsIds (t : Table) : Bool := t.columns.any fun c => c.holdsRowId && c.autoincrement

def largestId (t : Table) : Int := (t.rows.getLast?.map Row.id).getD 0

/-- Whether the row id after the largest one is none, so that a new row has to get one in between.
-/
def isWrapped (t : Table) : Bool := !t.keepsIds && (Text.maxSigned64 : Int) ≤ t.largestId

/-- The least positive row id that no row has. SQLite tries some at random, and this one stands for
that which it comes upon. -/
def freeId (t : Table) : Int :=
  ((List.range t.rows.length).map fun (n : Nat) => (n : Int) + 1).find? (!t.hasId ·)
    |>.getD (t.rows.length + 1)

/-- One more than the largest row id that there is, or was where none may come again; any free one
when that is the last one. -/
def nextId (t : Table) : Int :=
  if t.isWrapped then t.freeId
  else if t.keepsIds then max t.largestId t.lastId + 1
  else t.largestId + 1

def insertRow (r : Row) : List Row → List Row
  | [] => [r]
  | s :: rest => if r.id < s.id then r :: s :: rest else s :: insertRow r rest

def record (t : Table) (r : Row) : Record :=
  Entries.ofPairs (t.columns.zipWith (fun c cell => (c.name, cell.json)) r.cells)

end Table

def Row.at (r : Row) : Place → Cell
  | .rowId => .integer r.id
  | .column i => r.cells[i]?.getD .null

end TableApi.Store
