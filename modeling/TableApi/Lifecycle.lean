import TableApi.Store.Connection

namespace TableApi

structure Lifecycle (Task : Type) where
  /-- Whether the signal to end has been given. -/
  triggered : Bool := false
  /-- Tasks that no shutdown has waited for yet. -/
  registered : List Task := []
  /-- Tasks that a shutdown has waited for, in order. -/
  finished : List Task := []
  connection : Store.Connection := {}

namespace Lifecycle

variable {Task : Type}

/-- Has the task waited for by the next shutdown. -/
def register (l : Lifecycle Task) (task : Task) : Lifecycle Task :=
  { l with registered := l.registered ++ [task] }

/-- Gives the signal; it is never taken back. -/
def trigger (l : Lifecycle Task) : Lifecycle Task := { l with triggered := true }

def release (l : Lifecycle Task) : Lifecycle Task := { l with registered := [] }

def finish (l : Lifecycle Task) (tasks : List Task) : Lifecycle Task :=
  { l with finished := l.finished ++ tasks, connection := l.connection.close }

def shutdown (l : Lifecycle Task) : Lifecycle Task :=
  l.trigger.release.finish l.registered

def canCheckpoint (l : Lifecycle Task) : Bool := l.connection.isOpen

end Lifecycle

end TableApi
