import TableApi.Store.Basic

namespace TableApi.Store

open Sql (Statement)

structure Connection where
  database : Database := []
  isOpen : Bool := true
deriving Repr

/-- What a service needs of its database: the store of records, and a probe that tells whether
the database can be reached. -/
structure Service (m : Type → Type) extends RecordStore m where
  probe : m (Except StoreError Unit)

namespace Connection

def send (statement : Statement) : StateM Connection (Except StoreError Answer) :=
  fun c =>
    if c.isOpen then
      let (answer, database) := (Store.send statement).run c.database
      (answer, { c with database })
    else (.error .closed, c)

def probe : StateM Connection (Except StoreError Unit) :=
  fun c => (if c.isOpen then .ok () else .error .closed, c)

def service : Service (StateM Connection) := { RecordStore.sending send with probe }

def close (c : Connection) : Connection := { c with isOpen := false }

end Connection

end TableApi.Store
