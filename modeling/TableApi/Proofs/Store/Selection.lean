import Mathlib.Logic.Basic
import TableApi.Proofs.Sql.Runs
import TableApi.Store.Select

namespace TableApi.Store

open TableApi.Filter (Clause Conjunction)
open Sql (Condition Conditions Query runs runsFrom)

namespace Truth

theorem and_eq_true {a b : Truth} : a.and b = some true ↔ a = some true ∧ b = some true := by
  rcases a with _ | _ | _ <;> rcases b with _ | _ | _ <;> decide

theorem or_eq_true {a b : Truth} : a.or b = some true ↔ a = some true ∨ b = some true := by
  rcases a with _ | _ | _ <;> rcases b with _ | _ | _ <;> decide

end Truth

namespace Table

def clauseTruth (t : Table) (r : Row) (c : Clause) : Truth :=
  let x := t.operand r c.field
  match c.predicate with
  | .compare op value => x.test op value.bound
  | .isNull => some (x.cell = .null)
  | .member values => x.member values.bound
  | .notMember values => (x.member values.bound).not

/-- Whether a row satisfies a list of clauses: there are none, or some run of them has only
predicates that are true. -/
def Satisfies (t : Table) (r : Row) (clauses : List Clause) : Prop :=
  clauses = [] ∨ ∃ run ∈ runs (clauses.map fun c => (c.joining, c)),
    ∀ c ∈ run, t.clauseTruth r c = some true

instance (t : Table) (r : Row) (clauses : List Clause) : Decidable (t.Satisfies r clauses) := by
  unfold Satisfies
  infer_instance

variable (t : Table) (r : Row)

theorem conditionTruth_condition (c : Clause) :
    conditionTruth t r c.condition = t.clauseTruth r c := by
  obtain ⟨field, conjunction, predicate⟩ := c
  cases predicate <;> simp [Clause.condition, conditionTruth, clauseTruth]

/-- A run whose truth is known is continued up to the first OR; the runs after it are
alternatives. -/
theorem joinedTruth_eq_true_iff (run : List Condition) (truth : Truth) (rest : Conditions)
    (htruth : truth = some true ↔ ∀ c ∈ run, conditionTruth t r c = some true) :
    joinedTruth t r truth rest = some true ↔
      ∃ run' ∈ runsFrom run rest, ∀ c ∈ run', conditionTruth t r c = some true := by
  -- the invariant: the truth so far is that of the run so far
  induction rest generalizing run truth with
  | nil => simp [joinedTruth, runsFrom, htruth]
  | cons x rest ih =>
    obtain ⟨conjunction, condition⟩ := x
    cases conjunction with
    | and =>
      rw [joinedTruth, runsFrom]
      apply ih
      rw [Truth.and_eq_true, htruth]
      simp only [List.forall_mem_append, List.forall_mem_singleton]
    | or =>
      have hnext := ih [condition] (conditionTruth t r condition) (by simp)
      rw [joinedTruth, runsFrom, Truth.or_eq_true, htruth, hnext]
      simp only [List.mem_cons, exists_eq_or_imp]

/-- Conditions are true when those of some run all are: unknown ones never help. -/
theorem conditionsTruth_eq_true_iff (conditions : Conditions) :
    conditionsTruth t r conditions = some true ↔
      conditions = [] ∨
        ∃ run ∈ runs conditions, ∀ c ∈ run, conditionTruth t r c = some true := by
  cases conditions with
  | nil => simp [conditionsTruth]
  | cons x rest =>
    obtain ⟨conjunction, first⟩ := x
    rw [conditionsTruth, joinedTruth_eq_true_iff t r [first] _ rest (by simp)]
    simp [runs]

theorem conditionsTruth_clauses (clauses : List Clause) :
    conditionsTruth t r (Clause.conditions clauses) = some true ↔ t.Satisfies r clauses := by
  have hruns : runs (Clause.conditions clauses) =
      (runs (clauses.map fun c => (c.joining, c))).map (List.map Clause.condition) := by
    rw [← Sql.runs_map, Clause.conditions, List.map_map]
    rfl
  rw [conditionsTruth_eq_true_iff, hruns, Satisfies]
  simp only [Clause.conditions, List.map_eq_nil_iff, List.mem_map, exists_exists_and_eq_and,
    forall_exists_index, and_imp, forall_apply_eq_imp_iff₂, conditionTruth_condition]

/-- Conditions that are all joined by AND have to be true one and all. -/
theorem conditionsTruth_of_and {conditions : Conditions} (hand : ∀ x ∈ conditions, x.1 = .and) :
    conditionsTruth t r conditions = some true ↔
      ∀ x ∈ conditions, conditionTruth t r x.2 = some true := by
  have hjoined (rest : Conditions) (truth : Truth) (hrest : ∀ x ∈ rest, x.1 = .and) :
      joinedTruth t r truth rest = some true ↔
        truth = some true ∧ ∀ x ∈ rest, conditionTruth t r x.2 = some true := by
    induction rest generalizing truth with
    | nil => simp [joinedTruth]
    | cons x rest ih =>
      obtain ⟨conjunction, condition⟩ := x
      obtain ⟨hx, hrest'⟩ := List.forall_mem_cons.1 hrest
      obtain rfl : conjunction = .and := hx
      rw [joinedTruth, ih _ hrest', Truth.and_eq_true, List.forall_mem_cons, and_assoc]
  cases conditions with
  | nil => simp [conditionsTruth]
  | cons x rest =>
    obtain ⟨conjunction, first⟩ := x
    rw [conditionsTruth, hjoined rest _ (List.forall_mem_cons.1 hand).2, List.forall_mem_cons]

/-- Whether a row is selected by a query to whose groups another one was added. -/
theorem selects_andGroup {q : Query} (group : Query) (hand : ∀ x ∈ q.conditions, x.1 = .and) :
    t.selects (q.andGroup group) r ↔ t.selects q r ∧ t.selects group r := by
  simp only [selects, decide_eq_true_eq]
  by_cases hempty : group.conditions = []
  · simp [Query.andGroup, hempty, conditionsTruth]
  · have hadded : (q.andGroup group).conditions =
        q.conditions ++ [(.and, .group group.conditions)] := by
      simp [Query.andGroup, Query.add, hempty]
    have hand' : ∀ x ∈ (q.andGroup group).conditions, x.1 = .and := by
      rw [hadded, List.forall_mem_append]
      exact ⟨hand, by simp⟩
    rw [conditionsTruth_of_and t r hand', conditionsTruth_of_and t r hand, hadded,
      List.forall_mem_append, List.forall_mem_singleton, conditionTruth]

end Table

end TableApi.Store
