import TableApi.Proofs.Lifecycle.History
import Mathlib.Data.List.Perm.Basic

/-!
What a history of calls on the clones of one service leaves behind. Each part of the state is
followed through one event and then through a whole run: the signal that every listener shows,
the tasks as the shutdowns cut them, and the database that the first returning shutdown closes.
-/

namespace TableApi.Lifecycle

variable {Task : Type}

theorem Listener.hear_hear (l : Listener) : l.hear.hear = l.hear := by
  cases l <;> rfl

theorem Listener.shows_hear (l : Listener) : l.hear.shows true = true := by
  cases l <;> rfl

namespace Drain

@[simp] theorem tasks_second (d : Drain Task) : d.second.tasks = d.tasks := by
  unfold second
  split <;> rfl

@[simp] theorem returned_second (d : Drain Task) : d.second.returned = d.returned := by
  unfold second
  split <;> rfl

theorem second_of_returned {d : Drain Task} (h : d.returned = true) : d.second = d := by
  rw [second, if_pos h]

theorem second_of_not_returned {d : Drain Task} (h : d.returned = false) :
    d.second = { d with waited := d.waited + 1 } := by
  rw [second, if_neg (by simp [h])]

end Drain

namespace Clones

variable {c c' : Clones Task} {e : Event Task}

/-- Whoever makes a call listens too, so the signal that it gives is taken. -/
theorem signal_of_ne_nil (h : c.listeners ≠ []) :
    c.signal =
      { c with shared := c.shared.trigger, listeners := c.listeners.map Listener.hear } := by
  rw [signal, if_neg]
  simpa using h

/-- A call finishes nothing: at most it adds a shutdown, which is still to return. -/
theorem perform_finishes_nothing (h : c.listeners ≠ []) (operation : Operation Task) :
    (c.perform operation).shared.finished = c.shared.finished ∧
    (c.perform operation).shared.connection = c.shared.connection ∧
    (c.perform operation).ended = c.ended ∧
    ∃ fresh, (c.perform operation).drains = c.drains ++ fresh ∧
      ∀ d ∈ fresh, d.returned = false := by
  cases operation with
  | trigger =>
    rw [perform, signal_of_ne_nil h]
    exact ⟨rfl, rfl, rfl, [], (List.append_nil _).symm, by simp⟩
  | shutdown =>
    rw [perform, signal_of_ne_nil h]
    exact ⟨rfl, rfl, rfl, [{ tasks := c.shared.registered }], rfl, by simp⟩
  | _ => exact ⟨rfl, rfl, rfl, [], (List.append_nil _).symm, by simp⟩

/-- Clones, subscribers and waits show one and the same value. -/
def Agree (c : Clones Task) : Prop :=
  ∀ l ∈ c.listeners, l.shows c.shared.triggered = c.shared.triggered

theorem agree_listen {l : Listener} (h : c.Agree)
    (hl : l.shows c.shared.triggered = c.shared.triggered) : (c.listen l).Agree := by
  intro l' hl'
  obtain hl' | rfl := List.mem_append.mp hl' |>.imp_right List.mem_singleton.mp
  · exact h l' hl'
  · exact hl

theorem agree_signal (hl : c.listeners ≠ []) : c.signal.Agree := by
  rw [signal_of_ne_nil hl]
  intro l' hl'
  obtain ⟨l, -, rfl⟩ := List.mem_map.mp hl'
  exact l.shows_hear

/-- The tasks that have been waited for are those of the shutdowns that have returned. -/
def Finished (c : Clones Task) : Prop :=
  c.shared.finished.Perm ((c.drains.filter Drain.returned).flatMap Drain.tasks)

/-- A shutdown that returns adds its own tasks to those waited for. -/
theorem finished_close {i : Nat} {d : Drain Task} (hf : c.Finished) (hd : c.drains[i]? = some d)
    (hr : d.returned = false) : (c.close i d).Finished := by
  obtain ⟨hi, hd⟩ := List.getElem?_eq_some_iff.mp hd
  -- The tasks go to the end of the finished ones, but to place `i` among the shutdowns.
  have split : c.drains = c.drains.take i ++ d :: c.drains.drop (i + 1) := by
    rw [← hd, List.getElem_cons_drop, List.take_append_drop]
  have before : (c.drains.filter Drain.returned).flatMap Drain.tasks =
      ((c.drains.take i).filter Drain.returned).flatMap Drain.tasks ++
        ((c.drains.drop (i + 1)).filter Drain.returned).flatMap Drain.tasks := by
    conv_lhs => rw [split]
    simp [hr]
  unfold Finished at hf ⊢
  rw [before] at hf
  simp only [close, finish, List.set_eq_take_append_cons_drop, if_pos hi, List.filter_append,
    List.filter_cons, if_true, List.flatMap_append, List.flatMap_cons]
  refine (hf.append_right d.tasks).trans ?_
  rw [List.append_assoc]
  exact List.perm_append_comm.append_left _

variable [DecidableEq Task]

theorem step_call {i : Nat} {operation : Operation Task} :
    c.step (.call i operation) = some c' ↔
      c.listeners[i]? = some .clone ∧ c.perform operation = c' := by
  simp [step]

theorem step_returns {i : Nat} :
    c.step (.returns i) = some c' ↔
      ∃ d, c.drains[i]? = some d ∧ d.ready c.ended = true ∧ c.close i d = c' := by
  simp [step, Option.filter_eq_some_iff, and_assoc]

/-- All that one event can do: a call, the end of a task, a second that passes, or a return. -/
theorem step_cases (h : c.step e = some c') :
    (∃ i operation, e = .call i operation ∧ c.listeners ≠ [] ∧ c' = c.perform operation) ∨
    (∃ task, e = .ends task ∧ c' = { c with ended := task :: c.ended }) ∨
    (e = .second ∧ c' = { c with drains := c.drains.map Drain.second }) ∨
    (∃ i d, e = .returns i ∧ c.drains[i]? = some d ∧ d.ready c.ended = true ∧
      c' = c.close i d) := by
  cases e with
  | call i operation =>
    obtain ⟨hi, rfl⟩ := step_call.mp h
    exact .inl ⟨i, operation, rfl, List.ne_nil_of_mem (List.mem_of_getElem? hi), rfl⟩
  | ends task => exact .inr (.inl ⟨task, rfl, (Option.some.inj h).symm⟩)
  | second => exact .inr (.inr (.inl ⟨rfl, (Option.some.inj h).symm⟩))
  | returns i =>
    obtain ⟨d, hd, hr, rfl⟩ := step_returns.mp h
    exact .inr (.inr (.inr ⟨i, d, rfl, hd, hr, rfl⟩))

theorem run_cons (events : List (Event Task)) :
    c.run (e :: events) = (c.step e).bind (·.run events) :=
  List.foldlM_cons

theorem run_append (events more : List (Event Task)) :
    c.run (events ++ more) = (c.run events).bind (·.run more) :=
  List.foldlM_append

/-- One event and then the rest of the run. -/
theorem run_induction {motive : List (Event Task) → Clones Task → Clones Task → Prop}
    (nil : ∀ c, motive [] c c)
    (cons : ∀ e events c c₁ c', c.step e = some c₁ → motive events c₁ c' →
      motive (e :: events) c c')
    {events : List (Event Task)} (h : c.run events = some c') : motive events c c' := by
  induction events generalizing c with
  | nil =>
    cases h
    exact nil _
  | cons e events ih =>
    rw [run_cons, Option.bind_eq_some_iff] at h
    obtain ⟨c₁, h₁, h₂⟩ := h
    exact cons e events c c₁ c' h₁ (ih h₂)

theorem run_preserves {P : Clones Task → Prop}
    (kept : ∀ {c c' : Clones Task} {e : Event Task}, P c → c.step e = some c' → P c') (hP : P c)
    {events : List (Event Task)} (h : c.run events = some c') : P c' :=
  run_induction (motive := fun _ c c' => P c → P c') (fun _ => id)
    (fun _ _ _ _ _ h₁ ih hP => ih (kept hP h₁)) h hP

section Signal

theorem triggered_of_step (h : c.step e = some c') :
    c'.shared.triggered = (c.shared.triggered || e.signals) := by
  obtain ⟨i, operation, rfl, hl, rfl⟩ | ⟨task, rfl, rfl⟩ | ⟨rfl, rfl⟩ | ⟨i, d, rfl, -, -, rfl⟩ :=
    step_cases h
  · cases operation <;>
      simp [perform, signal_of_ne_nil hl, Event.signals, listen, register, trigger, drain, release]
  all_goals simp [Event.signals, close, finish]

theorem agree_of_step (ha : c.Agree) (h : c.step e = some c') : c'.Agree := by
  obtain ⟨i, operation, rfl, hl, rfl⟩ | ⟨task, rfl, rfl⟩ | ⟨rfl, rfl⟩ | ⟨i, d, rfl, -, -, rfl⟩ :=
    step_cases h
  · cases operation with
    | clone | subscribe | wait => exact agree_listen ha rfl
    | register task | isTriggered => exact ha
    | trigger | shutdown => exact agree_signal hl
  all_goals exact ha

theorem triggered_of_run {events : List (Event Task)} (h : c.run events = some c') :
    c'.shared.triggered = (c.shared.triggered || events.any Event.signals) := by
  refine run_induction (motive := fun events c c' =>
    c'.shared.triggered = (c.shared.triggered || events.any Event.signals)) ?_ ?_ h
  · intro c
    exact (Bool.or_false _).symm
  · intro e events c c₁ c' h₁ ih
    rw [ih, triggered_of_step h₁, List.any_cons, Bool.or_assoc]

/-- Nobody who listens is lost; a wait only wakes up. -/
theorem listeners_of_step (h : c.step e = some c') :
    c.listeners.map Listener.hear <+: c'.listeners.map Listener.hear := by
  obtain ⟨i, operation, rfl, hl, rfl⟩ | ⟨task, rfl, rfl⟩ | ⟨rfl, rfl⟩ | ⟨i, d, rfl, -, -, rfl⟩ :=
    step_cases h
  · cases operation <;>
      simp [perform, signal_of_ne_nil hl, listen, drain, Function.comp_def, Listener.hear_hear]
  all_goals exact List.prefix_refl _

theorem listeners_of_run {events : List (Event Task)} (h : c.run events = some c') :
    c.listeners.map Listener.hear <+: c'.listeners.map Listener.hear :=
  run_induction (motive := fun _ c c' =>
      c.listeners.map Listener.hear <+: c'.listeners.map Listener.hear)
    (fun _ => List.prefix_refl _) (fun _ _ _ _ _ h₁ ih => (listeners_of_step h₁).trans ih) h

end Signal

section Tasks

/-- The tasks that each shutdown took, and last those that none has taken yet. -/
def batches (c : Clones Task) : List (List Task) :=
  c.drains.map Drain.tasks ++ [c.shared.registered]

/-- Only a new shutdown takes tasks, and it takes those that none has taken yet. -/
theorem drains_of_step (h : c.step e = some c') :
    c'.drains.map Drain.tasks = if e.isShutdown then c.batches else c.drains.map Drain.tasks := by
  obtain ⟨i, operation, rfl, hl, rfl⟩ | ⟨task, rfl, rfl⟩ | ⟨rfl, rfl⟩ | ⟨i, d, rfl, hd, -, rfl⟩ :=
    step_cases h
  · cases operation <;>
      simp [perform, signal_of_ne_nil hl, Event.isShutdown, listen, drain, trigger, batches]
  · rfl
  · simp [Event.isShutdown]
  · have same : (c.drains.map Drain.tasks)[i]? = some d.tasks := by rw [List.getElem?_map, hd]; rfl
    obtain ⟨hi, same⟩ := List.getElem?_eq_some_iff.mp same
    simp only [Event.isShutdown, close, List.map_set, ← same, List.set_getElem_self]
    rfl

/-- Tasks are registered until the next shutdown takes them. -/
theorem registered_of_step (h : c.step e = some c') :
    c'.shared.registered =
      if e.isShutdown then [] else c.shared.registered ++ e.registers.toList := by
  obtain ⟨i, operation, rfl, hl, rfl⟩ | ⟨task, rfl, rfl⟩ | ⟨rfl, rfl⟩ | ⟨i, d, rfl, -, -, rfl⟩ :=
    step_cases h
  · cases operation <;>
      simp [perform, signal_of_ne_nil hl, Event.isShutdown, Event.registers, listen, register,
        trigger, drain, release]
  all_goals simp [Event.isShutdown, Event.registers, close, finish]

/-- A run puts every task that it registers into the batch of the shutdown that comes next. -/
theorem batches_of_run {events : List (Event Task)} (h : c.run events = some c') :
    c'.batches =
      c.drains.map Drain.tasks ++ (cut events).modifyHead (c.shared.registered ++ ·) := by
  -- What is left at the start belongs to the first batch, so the head of the cut is what grows.
  refine run_induction (motive := fun events c c' => c'.batches =
    c.drains.map Drain.tasks ++ (cut events).modifyHead (c.shared.registered ++ ·)) ?_ ?_ h
  · intro c
    simp [batches, cut]
  · intro e events c c₁ c' h₁ ih
    rw [ih, drains_of_step h₁, registered_of_step h₁]
    obtain ⟨first, rest, hc⟩ := List.exists_cons_of_ne_nil (cut_ne_nil events)
    cases hs : e.isShutdown with
    | true => simp [cut_cons_shutdown events hs, batches, hc]
    | false => simp [cut_cons events hs, hc]

theorem finished_of_step (hf : c.Finished) (h : c.step e = some c') : c'.Finished := by
  obtain ⟨i, operation, rfl, hl, rfl⟩ | ⟨task, rfl, rfl⟩ | ⟨rfl, rfl⟩ | ⟨i, d, rfl, hd, hr, rfl⟩ :=
    step_cases h
  · obtain ⟨finished, -, -, fresh, drains, running⟩ := perform_finishes_nothing hl operation
    have none_returned : fresh.filter Drain.returned = [] := by
      simpa [List.filter_eq_nil_iff] using running
    rw [Finished, finished, drains, List.filter_append, none_returned, List.append_nil]
    exact hf
  · exact hf
  · have same : (Drain.returned ∘ Drain.second : Drain Task → Bool) = Drain.returned :=
      funext Drain.returned_second
    simpa [Finished, List.filter_map, List.flatMap_map, same] using hf
  · exact finished_close hf hd (by simp_all [Drain.ready])

end Tasks

section Returns

/-- Every shutdown that has returned had its tasks ended, or waited for the timeout. -/
def Waited (c : Clones Task) : Prop :=
  ∀ d ∈ c.drains, d.returned = true → (∀ task ∈ d.tasks, task ∈ c.ended) ∨ timeout ≤ d.waited

/-- A shutdown returns only once its tasks have ended or its time is over. -/
theorem waited_of_step (hw : c.Waited) (h : c.step e = some c') : c'.Waited := by
  obtain ⟨i, operation, rfl, hl, rfl⟩ | ⟨task, rfl, rfl⟩ | ⟨rfl, rfl⟩ | ⟨i, d, rfl, hd, hr, rfl⟩ :=
    step_cases h
  · obtain ⟨-, -, ended, fresh, drains, running⟩ := perform_finishes_nothing hl operation
    intro d hd hr
    rw [drains] at hd
    rw [ended]
    obtain hd | hd := List.mem_append.mp hd
    · exact hw d hd hr
    · rw [running d hd] at hr
      cases hr
  · intro d hd hr
    exact (hw d hd hr).imp_left fun ended task ht => List.mem_cons_of_mem _ (ended task ht)
  · -- A shutdown that has returned counts no further seconds.
    intro d' hd' hr'
    obtain ⟨d, hd, rfl⟩ := List.mem_map.mp hd'
    rw [Drain.returned_second] at hr'
    rw [Drain.second_of_returned hr']
    exact hw d hd hr'
  · -- Only the shutdown that returns now has to be looked at: it was ready.
    intro d' hd' hr'
    obtain hd' | rfl := List.mem_or_eq_of_mem_set hd'
    · exact hw d' hd' hr'
    · simp only [Drain.ready, Bool.and_eq_true, Bool.or_eq_true, List.all_eq_true,
        decide_eq_true_eq] at hr
      exact hr.2

/-- The database is closed by the first shutdown that returns, and by nothing else. -/
theorem isOpen_of_step (ho : c.shared.connection.isOpen = !c.drains.any Drain.returned)
    (h : c.step e = some c') :
    c'.shared.connection.isOpen = !c'.drains.any Drain.returned := by
  obtain ⟨i, operation, rfl, hl, rfl⟩ | ⟨task, rfl, rfl⟩ | ⟨rfl, rfl⟩ | ⟨i, d, rfl, hd, -, rfl⟩ :=
    step_cases h
  · obtain ⟨-, connection, -, fresh, drains, running⟩ := perform_finishes_nothing hl operation
    have none_returned : fresh.any Drain.returned = false := by
      simpa [List.any_eq_false] using running
    rw [connection, drains, List.any_append, none_returned, Bool.or_false]
    exact ho
  · exact ho
  · simpa [Function.comp_def] using ho
  · obtain ⟨hi, -⟩ := List.getElem?_eq_some_iff.mp hd
    have closed : (c.drains.set i { d with returned := true }).any Drain.returned = true :=
      List.any_eq_true.mpr ⟨_, List.mem_set hi _, rfl⟩
    rw [close, closed]
    rfl

/-- No event opens a closed database. -/
theorem closed_of_step (hc : c.shared.connection.isOpen = false) (h : c.step e = some c') :
    c'.shared.connection.isOpen = false := by
  obtain ⟨i, operation, rfl, hl, rfl⟩ | ⟨task, rfl, rfl⟩ | ⟨rfl, rfl⟩ | ⟨i, d, rfl, -, -, rfl⟩ :=
    step_cases h
  · obtain ⟨-, connection, -⟩ := perform_finishes_nothing hl operation
    rw [connection]
    exact hc
  · exact hc
  · exact hc
  · rfl

/-- A shutdown that goes on keeps its tasks and counts the seconds. -/
theorem run_seconds (n : Nat) {i : Nat} {d : Drain Task} (hd : c.drains[i]? = some d)
    (hr : d.returned = false) :
    ∃ c', c.run (List.replicate n .second) = some c' ∧
      c'.drains[i]? = some { d with waited := d.waited + n } := by
  induction n generalizing c d with
  | zero => exact ⟨c, rfl, hd⟩
  | succ n ih =>
    have next : ({ c with drains := c.drains.map Drain.second } : Clones Task).drains[i]? =
        some { d with waited := d.waited + 1 } := by
      rw [List.getElem?_map, hd, Option.map_some, Drain.second_of_not_returned hr]
    obtain ⟨c', hrun, hd'⟩ := ih next hr
    refine ⟨c', ?_, ?_⟩
    · rw [List.replicate_succ, run_cons]
      exact hrun
    · rw [hd', Nat.add_assoc, Nat.add_comm 1 n]

theorem returns_of_ended {i : Nat} {d : Drain Task} (hd : c.drains[i]? = some d)
    (hr : d.returned = false) (ended : ∀ task ∈ d.tasks, task ∈ c.ended) :
    (c.step (.returns i)).isSome = true := by
  have ready : d.ready c.ended = true := by simp_all [Drain.ready]
  exact Option.isSome_iff_exists.mpr ⟨_, step_returns.mpr ⟨d, hd, ready, rfl⟩⟩

/-- The timeout ends every shutdown, whatever its tasks do. -/
theorem returns_after_timeout {i : Nat} {d : Drain Task} (hd : c.drains[i]? = some d)
    (hr : d.returned = false) :
    (c.run (List.replicate timeout .second ++ [.returns i])).isSome = true := by
  obtain ⟨c', hrun, hd'⟩ := run_seconds timeout hd hr
  have ready : Drain.ready c'.ended { d with waited := d.waited + timeout } = true := by
    simp [Drain.ready, hr]
  have step := step_returns.mpr ⟨_, hd', ready, rfl⟩
  rw [run_append, hrun, Option.bind_some, run_cons, step]
  rfl

end Returns

section Undisturbed

theorem shared_of_quiet_step (hq : e.isQuiet = true) (h : c.step e = some c') :
    c'.shared = c.shared ∧ c'.drains.map Drain.tasks = c.drains.map Drain.tasks := by
  have tasks := drains_of_step h
  obtain ⟨i, operation, rfl, -, -⟩ | ⟨task, rfl, rfl⟩ | ⟨rfl, rfl⟩ | ⟨i, d, rfl, -, -, -⟩ :=
    step_cases h
  · cases hq
  · exact ⟨rfl, tasks⟩
  · exact ⟨rfl, tasks⟩
  · cases hq

/-- What is neither a call nor a return leaves the shared state as it is. -/
theorem shared_of_quiet_run {events : List (Event Task)} (hq : ∀ e ∈ events, e.isQuiet = true)
    (h : c.run events = some c') :
    c'.shared = c.shared ∧ c'.drains.map Drain.tasks = c.drains.map Drain.tasks := by
  refine run_induction (motive := fun events c c' => (∀ e ∈ events, e.isQuiet = true) →
    c'.shared = c.shared ∧ c'.drains.map Drain.tasks = c.drains.map Drain.tasks) ?_ ?_ h hq
  · intro c _
    exact ⟨rfl, rfl⟩
  · intro e events c c₁ c' h₁ ih hq
    obtain ⟨he, hq⟩ := List.forall_mem_cons.mp hq
    obtain ⟨shared, tasks⟩ := shared_of_quiet_step he h₁
    obtain ⟨shared', tasks'⟩ := ih hq
    exact ⟨shared'.trans shared, tasks'.trans tasks⟩

/-- A shutdown that no other call overlaps is the shutdown of the lifecycle itself. -/
theorem shutdown_of_undisturbed_run {i : Nat} {events : List (Event Task)}
    (hq : ∀ e ∈ events, e.isQuiet = true)
    (h : c.run (.call i .shutdown :: (events ++ [.returns c.drains.length])) = some c') :
    c'.shared = c.shared.shutdown := by
  rw [run_cons, Option.bind_eq_some_iff] at h
  obtain ⟨c₁, h₁, h⟩ := h
  rw [run_append, Option.bind_eq_some_iff] at h
  obtain ⟨c₂, h₂, h⟩ := h
  rw [run_cons, Option.bind_eq_some_iff] at h
  obtain ⟨c₃, h₃, h⟩ := h
  cases h
  -- The call takes what is registered, waiting changes nothing, and the return finishes the rest.
  have tasks : c₁.drains.map Drain.tasks = c.batches := drains_of_step h₁
  obtain ⟨hi, rfl⟩ := step_call.mp h₁
  obtain ⟨shared₂, tasks₂⟩ := shared_of_quiet_run hq h₂
  obtain ⟨d, hd, -, rfl⟩ := step_returns.mp h₃
  have last : d.tasks = c.shared.registered := by
    have lookup := congrArg (·[c.drains.length]?) (tasks₂.trans tasks)
    simpa [hd, batches] using lookup
  have called : (c.perform .shutdown).shared = c.shared.trigger.release := by
    rw [perform, signal_of_ne_nil (List.ne_nil_of_mem (List.mem_of_getElem? hi))]
    rfl
  rw [close, shared₂, called, last]
  rfl

end Undisturbed

structure Settled (events : List (Event Task)) (c : Clones Task) : Prop where
  /-- Whoever listens, from before or after, is shown whether the signal has been given. -/
  shows : ∀ l ∈ c.listeners, l.shows c.shared.triggered = events.any Event.signals
  /-- A shutdown takes what was registered since the shutdown before it; the rest is left. -/
  taken : c.drains.map Drain.tasks ++ [c.shared.registered] = cut events
  /-- A call of shutdown leaves nothing behind: its tasks and those that the shutdowns before it
  took are all that were registered before the call. -/
  before : ∀ past i future, events = past ++ .call i .shutdown :: future →
    (c.drains.take (past.countP Event.isShutdown + 1)).flatMap Drain.tasks =
      past.filterMap Event.registers
  /-- Every registered task is once among those waited for, those being waited for and those
  left. -/
  once : (c.shared.finished ++ (c.drains.filter (!·.returned)).flatMap Drain.tasks ++
    c.shared.registered).Perm (events.filterMap Event.registers)
  /-- A shutdown returns with all its tasks ended, or after the timeout. -/
  waited : c.Waited
  /-- When it and the shutdowns before it have returned, nothing registered before the call is
  left unwaited, up to the timeout. -/
  unwaited : ∀ past i future, events = past ++ .call i .shutdown :: future →
    (∀ d ∈ c.drains.take (past.countP Event.isShutdown + 1), d.returned = true) →
    ∀ task ∈ past.filterMap Event.registers,
      task ∈ c.ended ∨ ∃ d ∈ c.drains, task ∈ d.tasks ∧ timeout ≤ d.waited
  closed : c.shared.connection.isOpen = false ↔ ∃ d ∈ c.drains, d.returned = true

section Histories

variable {database : Store.Database} {events : List (Event Task)}

/-- Every listener shows whether the signal was given. -/
theorem shows_of_run (h : (start database).run events = some c) :
    ∀ l ∈ c.listeners, l.shows c.shared.triggered = events.any Event.signals := by
  have first : (start database : Clones Task).Agree := by
    intro l hl
    cases List.mem_singleton.mp hl
    rfl
  have agree : c.Agree := run_preserves agree_of_step first h
  have given : c.shared.triggered = events.any Event.signals := triggered_of_run h
  intro l hl
  rw [agree l hl, given]

theorem batches_of_history (h : (start database).run events = some c) :
    c.batches = cut events := by
  obtain ⟨first, rest, hc⟩ := List.exists_cons_of_ne_nil (cut_ne_nil events)
  rw [batches_of_run h, hc]
  rfl

theorem flatMap_tasks_of_history (h : (start database).run events = some c) :
    c.drains.flatMap Drain.tasks ++ c.shared.registered = events.filterMap Event.registers := by
  rw [← flatten_cut, ← batches_of_history h, batches, List.flatten_append, List.flatten_singleton,
    List.flatMap_def]

/-- The shutdowns up to this one have taken just the tasks that were registered before it. -/
theorem taken_before_shutdown {past future : List (Event Task)} {i : Nat}
    (h : (start database).run (past ++ .call i .shutdown :: future) = some c) :
    (c.drains.take (past.countP Event.isShutdown + 1)).flatMap Drain.tasks =
      past.filterMap Event.registers := by
  have parts : c.drains.map Drain.tasks ++ [c.shared.registered] = cut past ++ cut future := by
    rw [← cut_append past future i]
    exact batches_of_history h
  -- The tasks that are left belong to the future, so the past lies within the shutdowns.
  have positive := List.length_pos_of_ne_nil (cut_ne_nil future)
  have lengths := congrArg List.length parts
  simp only [List.length_append, List.length_map, List.length_singleton] at lengths
  have within : (cut past).length ≤ (c.drains.map Drain.tasks).length := by
    rw [List.length_map]
    omega
  have first := congrArg (List.take (cut past).length) parts
  rw [List.take_append_of_le_length within, List.take_left, ← List.map_take] at first
  rw [← length_cut, ← flatten_cut, List.flatMap_def, first]

theorem waited_of_history (h : (start database).run events = some c) : c.Waited := by
  have first : (start database : Clones Task).Waited := fun d hd => nomatch hd
  exact run_preserves waited_of_step first h

/-- Once a shutdown and those before it have returned, all tasks registered before it have been
waited for. -/
theorem ended_before_return {past future : List (Event Task)} {i : Nat}
    (h : (start database).run (past ++ .call i .shutdown :: future) = some c)
    (hr : ∀ d ∈ c.drains.take (past.countP Event.isShutdown + 1), d.returned = true) :
    ∀ task ∈ past.filterMap Event.registers,
      task ∈ c.ended ∨ ∃ d ∈ c.drains, task ∈ d.tasks ∧ timeout ≤ d.waited := by
  intro task ht
  rw [← taken_before_shutdown h] at ht
  obtain ⟨d, hd, ht⟩ := List.mem_flatMap.mp ht
  have member : d ∈ c.drains := List.mem_of_mem_take hd
  obtain ended | late := waited_of_history h d member (hr d hd)
  · exact .inl (ended task ht)
  · exact .inr ⟨d, member, ht, late⟩

/-- No registered task is lost, and none is waited for twice. -/
theorem once_of_history (h : (start database).run events = some c) :
    (c.shared.finished ++ (c.drains.filter (!·.returned)).flatMap Drain.tasks ++
      c.shared.registered).Perm (events.filterMap Event.registers) := by
  have first : (start database : Clones Task).Finished := List.Perm.refl []
  have finished : c.Finished := run_preserves finished_of_step first h
  rw [← flatMap_tasks_of_history h]
  apply List.Perm.append_right
  refine (finished.append_right _).trans ?_
  rw [← List.flatMap_append]
  exact (List.filter_append_perm Drain.returned c.drains).flatMap_right _

theorem closed_of_history (h : (start database).run events = some c) :
    c.shared.connection.isOpen = false ↔ ∃ d ∈ c.drains, d.returned = true := by
  rw [run_preserves isOpen_of_step rfl h]
  simp

/-- All of it together, for every history on the clones of one service. -/
theorem settled_of_run (h : (start database).run events = some c) : Settled events c where
  shows := shows_of_run h
  taken := batches_of_history h
  before := by
    intro past i future he
    subst he
    exact taken_before_shutdown h
  once := once_of_history h
  waited := waited_of_history h
  unwaited := by
    intro past i future he
    subst he
    exact ended_before_return h
  closed := closed_of_history h

/-- Whatever is called on whichever clones: all that listen show one signal, which is never taken
back; each task is taken by the first shutdown that is called after its registration; the database
is closed from the first return on. Every clone can be called at any time, and a shutdown returns
when its tasks have ended, or after the timeout. -/
theorem history_settled (h : (start database).run events = some c) :
    Settled events c ∧
    (∀ more c', c.run more = some c' →
      Settled (events ++ more) c' ∧
      c.listeners.map Listener.hear <+: c'.listeners.map Listener.hear ∧
      (events.any Event.signals = true →
        ∀ l ∈ c'.listeners, l.shows c'.shared.triggered = true) ∧
      (c.shared.connection.isOpen = false → c'.shared.connection.isOpen = false)) ∧
    (∀ i operation, c.listeners[i]? = some .clone →
      (c.step (.call i operation)).isSome = true) ∧
    (∀ i d, c.drains[i]? = some d → d.returned = false →
      ((∀ task ∈ d.tasks, task ∈ c.ended) → (c.step (.returns i)).isSome = true) ∧
      (c.run (List.replicate timeout .second ++ [.returns i])).isSome = true) := by
  refine ⟨settled_of_run h, ?_, ?_, ?_⟩
  · intro more c' hm
    have whole : (start database).run (events ++ more) = some c' := by
      rw [run_append, h]
      exact hm
    have settled := settled_of_run whole
    refine ⟨settled, listeners_of_run hm, ?_, fun hc => run_preserves closed_of_step hc hm⟩
    intro given l hl
    rw [settled.shows l hl, List.any_append, given, Bool.true_or]
  · intro i operation hi
    exact Option.isSome_iff_exists.mpr ⟨_, step_call.mpr ⟨hi, rfl⟩⟩
  · intro i d hd hr
    exact ⟨returns_of_ended hd hr, returns_after_timeout hd hr⟩

/-- Two shutdowns that overlap. The first one waits for the timeout, as task 2 never ends. -/
def overlappingShutdowns : List (Event Nat) :=
  [.call 0 (.register 1), .call 0 .wait, .call 0 .trigger, .call 0 (.register 2),
    .call 0 .clone, .call 2 .subscribe, .call 2 .shutdown, .ends 1, .call 0 (.register 3),
    .call 0 .shutdown, .ends 3, .returns 1, .call 2 .wait] ++
  List.replicate timeout .second ++ [.returns 0, .call 0 (.register 4), .call 2 .isTriggered]

theorem overlapping_shutdowns_settled :
    ∃ c, (start []).run overlappingShutdowns = some c ∧ Settled overlappingShutdowns c ∧
      c.batches = [[1, 2], [3], [4]] ∧ c.shared.finished = [3, 1, 2] ∧
      c.shared.connection.isOpen = false := by
  have outcome : ((start []).run overlappingShutdowns).map
      (fun c => (c.batches, c.shared.finished, c.shared.connection.isOpen)) =
      some ([[1, 2], [3], [4]], [3, 1, 2], false) := by
    decide +kernel
  obtain ⟨c, hc, ho⟩ := Option.map_eq_some_iff.mp outcome
  simp only [Prod.mk.injEq] at ho
  exact ⟨c, hc, (history_settled hc).1, ho⟩

end Histories

end Clones

end TableApi.Lifecycle
