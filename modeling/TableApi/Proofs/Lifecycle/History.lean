import TableApi.Lifecycle.Clones

namespace TableApi.Lifecycle

variable {Task : Type}

namespace Event

def signals : Event Task → Bool
  | .call _ .trigger | .call _ .shutdown => true
  | _ => false

def isShutdown : Event Task → Bool
  | .call _ .shutdown => true
  | _ => false

def registers : Event Task → Option Task
  | .call _ (.register task) => some task
  | _ => none

/-- Whether the event is neither a call nor the return of one. -/
def isQuiet : Event Task → Bool
  | .ends _ | .second => true
  | _ => false

end Event

def cut (events : List (Event Task)) : List (List Task) :=
  (events.splitOnP Event.isShutdown).map (List.filterMap Event.registers)

theorem cut_ne_nil (events : List (Event Task)) : cut events ≠ [] := by
  simp [cut, List.splitOnP_ne_nil]

theorem cut_cons_shutdown {e : Event Task} (events : List (Event Task)) (h : e.isShutdown = true) :
    cut (e :: events) = [] :: cut events := by
  simp [cut, List.splitOnP_cons_eq_if_modifyHead, h]

theorem cut_cons {e : Event Task} (events : List (Event Task)) (h : e.isShutdown = false) :
    cut (e :: events) = (cut events).modifyHead (e.registers.toList ++ ·) := by
  obtain ⟨first, rest, hs⟩ := List.exists_cons_of_ne_nil
    (List.splitOnP_ne_nil Event.isShutdown events)
  cases hr : e.registers <;>
    simp [cut, List.splitOnP_cons_eq_if_modifyHead, h, hs, hr]

theorem cut_append (before after : List (Event Task)) (i : Nat) :
    cut (before ++ .call i .shutdown :: after) = cut before ++ cut after := by
  have shutdown : Event.isShutdown (.call i .shutdown : Event Task) = true := rfl
  rw [cut, List.splitOnP_append_cons before after shutdown, List.map_append, cut, cut]

theorem length_cut (events : List (Event Task)) :
    (cut events).length = events.countP Event.isShutdown + 1 := by
  induction events with
  | nil => rfl
  | cons e events ih =>
    cases h : e.isShutdown with
    | true => simp [cut_cons_shutdown events h, h, ih]
    | false => simp [cut_cons events h, h, ih]

theorem registers_of_isShutdown {e : Event Task} (h : e.isShutdown = true) :
    e.registers = none := by
  cases e with
  | call i operation => cases operation <;> first | rfl | cases h
  | _ => rfl

/-- The batches hold the registered tasks in order. -/
theorem flatten_cut (events : List (Event Task)) :
    (cut events).flatten = events.filterMap Event.registers := by
  induction events with
  | nil => rfl
  | cons e events ih =>
    cases h : e.isShutdown with
    | true => simp [cut_cons_shutdown events h, registers_of_isShutdown h, ih]
    | false =>
      obtain ⟨first, rest, hs⟩ := List.exists_cons_of_ne_nil (cut_ne_nil events)
      rw [cut_cons events h, List.filterMap_cons, ← ih, hs]
      cases e.registers <;> rfl

end TableApi.Lifecycle
