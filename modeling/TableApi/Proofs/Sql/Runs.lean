import TableApi.Sql.Query

namespace TableApi.Sql

open TableApi.Filter (Conjunction Clause Translation)

def runsFrom {α : Type} (run : List α) : List (Conjunction × α) → List (List α)
  | [] => [run]
  | (.and, a) :: rest => runsFrom (run ++ [a]) rest
  | (.or, a) :: rest => run :: runsFrom [a] rest

/-- The runs of joined elements. The conjunction before the first one has no effect. -/
def runs {α : Type} : List (Conjunction × α) → List (List α)
  | [] => []
  | (_, a) :: rest => runsFrom [a] rest

theorem runsFrom_map {α β : Type} (f : α → β) (run : List α) (joined : List (Conjunction × α)) :
    runsFrom (run.map f) (joined.map fun x => (x.1, f x.2)) =
      (runsFrom run joined).map (List.map f) := by
  induction joined generalizing run with
  | nil => rfl
  | cons x rest ih =>
    obtain ⟨conjunction, a⟩ := x
    cases conjunction with
    | and =>
      simp only [List.map_cons, runsFrom, ← ih, List.map_append, List.map_nil]
    | or =>
      have h := ih [a]
      simp only [List.map_cons, List.map_nil] at h
      simp only [List.map_cons, runsFrom, h]

theorem runs_map {α β : Type} (f : α → β) (joined : List (Conjunction × α)) :
    runs (joined.map fun x => (x.1, f x.2)) = (runs joined).map (List.map f) := by
  cases joined with
  | nil => rfl
  | cons x rest => exact runsFrom_map f [x.2] rest

end TableApi.Sql

namespace TableApi.Filter

open Sql (Condition Query)

namespace Clause

/-- The conjunction that joins a clause to those before it: a membership always joins by AND. -/
def joining (c : Clause) : Conjunction :=
  match c.predicate with
  | .member _ | .notMember _ => .and
  | .compare .. | .isNull => c.conjunction

def condition (c : Clause) : Condition :=
  match c.predicate with
  | .compare op value => .compare c.field op value.bound
  | .isNull => .isNull c.field
  | .member values => .member c.field false values.bound
  | .notMember values => .member c.field true values.bound

def bound (c : Clause) : List String :=
  match c.predicate with
  | .compare _ value => [value.bound]
  | .isNull => []
  | .member values | .notMember values => values.bound

def conditions (clauses : List Clause) : Sql.Conditions :=
  clauses.map fun c => (c.joining, c.condition)

end Clause

theorem take_step (q : Query) (c : Clause) :
    q.take c.step = q.add c.joining c.condition c.bound := by
  obtain ⟨field, conjunction, predicate⟩ := c
  cases predicate <;> rfl

/-- The steps of clauses add their conditions in order. -/
theorem foldl_take_steps (q : Query) (clauses : List Clause) :
    (clauses.map Clause.step).foldl Query.take q =
      { q with
        conditions := q.conditions ++ Clause.conditions clauses,
        params := q.params ++ clauses.flatMap Clause.bound } := by
  induction clauses generalizing q with
  | nil => simp [Clause.conditions]
  | cons c rest ih =>
    rw [List.map_cons, List.foldl_cons, take_step, ih]
    simp [Query.add, Clause.conditions]

theorem ofClauses_eq (clauses : List Clause) :
    Query.ofClauses clauses =
      { conditions := Clause.conditions clauses, params := clauses.flatMap Clause.bound } := by
  rw [Query.ofClauses, Query.ofSteps, foldl_take_steps]
  rfl

theorem ofTranslation_eq (t : Translation) :
    Query.ofTranslation t =
      { conditions := Clause.conditions t.clauses, params := t.clauses.flatMap Clause.bound,
        order := t.sort, limit := t.limit } := by
  rw [Query.ofTranslation, Query.ofSteps, Translation.steps, List.foldl_append, List.foldl_append,
    foldl_take_steps]
  cases t.sort <;> cases t.limit <;> rfl

end TableApi.Filter
