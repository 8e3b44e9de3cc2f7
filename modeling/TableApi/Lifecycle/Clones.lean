import TableApi.Lifecycle

/-!
A lifecycle in many hands: clones call it in any order, subscribers and waits watch its signal,
and a shutdown lasts until its tasks have ended or the timeout has passed, while further calls
are made.
-/

namespace TableApi.Lifecycle

/-- The seconds a shutdown gives to its tasks. -/
def timeout : Nat := 30

/-- A receiving end of the signal. A wait is woken once it has seen the signal given. -/
inductive Listener where
  | clone
  | subscriber
  | wait (woken : Bool)
deriving DecidableEq

namespace Listener

def shows (given : Bool) : Listener → Bool
  | .clone | .subscriber => given
  | .wait woken => woken

def hear : Listener → Listener
  | .wait _ => .wait true
  | l => l

end Listener

structure Drain (Task : Type) where
  tasks : List Task
  waited : Nat := 0
  returned : Bool := false

namespace Drain

variable {Task : Type}

def second (d : Drain Task) : Drain Task :=
  if d.returned then d else { d with waited := d.waited + 1 }

def ready [DecidableEq Task] (ended : List Task) (d : Drain Task) : Bool :=
  !d.returned && (d.tasks.all (· ∈ ended) || timeout ≤ d.waited)

end Drain

inductive Operation (Task : Type) where
  | clone
  | register (task : Task)
  | subscribe
  | trigger
  | isTriggered
  | wait
  | shutdown

/-- What can happen: a call on a clone, the end of a task, a second that passes, and the return
of a shutdown that was called before. -/
inductive Event (Task : Type) where
  | call (clone : Nat) (operation : Operation Task)
  | ends (task : Task)
  | second
  | returns (drain : Nat)

/-- The lifecycle that all clones share, every receiving end that was made, and the calls of
shutdown, in order. -/
structure Clones (Task : Type) where
  shared : Lifecycle Task := {}
  listeners : List Listener := [.clone]
  drains : List (Drain Task) := []
  /-- Tasks that have come to their end, for whatever reason. -/
  ended : List Task := []

namespace Clones

variable {Task : Type}

def start (database : Store.Database) : Clones Task := { shared := { connection := { database } } }

def listen (c : Clones Task) (l : Listener) : Clones Task :=
  { c with listeners := c.listeners ++ [l] }

/-- Gives the signal. A channel that nobody listens to takes no value. -/
def signal (c : Clones Task) : Clones Task :=
  if c.listeners.isEmpty then c
  else { c with shared := c.shared.trigger, listeners := c.listeners.map Listener.hear }

/-- Starts a shutdown, up to the point where it waits for the tasks that it has taken. -/
def drain (c : Clones Task) : Clones Task :=
  { c with shared := c.shared.release, drains := c.drains ++ [{ tasks := c.shared.registered }] }

def close (c : Clones Task) (i : Nat) (d : Drain Task) : Clones Task :=
  { c with shared := c.shared.finish d.tasks, drains := c.drains.set i { d with returned := true } }

def perform (c : Clones Task) : Operation Task → Clones Task
  | .clone => c.listen .clone
  | .register task => { c with shared := c.shared.register task }
  | .subscribe => c.listen .subscriber
  | .trigger => c.signal
  | .isTriggered => c
  | .wait => c.listen (.wait c.shared.triggered)
  | .shutdown => c.signal.drain

variable [DecidableEq Task]

/-- One event, if it can happen: only a clone takes calls, and a shutdown returns only once it
is ready. -/
def step (c : Clones Task) : Event Task → Option (Clones Task)
  | .call i operation => if c.listeners[i]? = some .clone then some (c.perform operation) else none
  | .ends task => some { c with ended := task :: c.ended }
  | .second => some { c with drains := c.drains.map Drain.second }
  | .returns i => (c.drains[i]?.filter (Drain.ready c.ended)).map (c.close i)

def run (c : Clones Task) (events : List (Event Task)) : Option (Clones Task) :=
  events.foldlM step c

end Clones

end TableApi.Lifecycle
