import TableApi.Proofs.Sql.Items
import TableApi.Proofs.Sql.Shape

/-!
The text of the conditions that calls build reads back as the expression that the calls describe,
whatever names and values they have.
-/

namespace TableApi.Sql

open TableApi.Filter (Comparator Conjunction Step)
open Store.Schema (Token)

mutual

def Condition.expression : Condition → Expression
  | .compare field op value => .compare field op value
  | .isNull field => .isNull field
  | .member _ negated [] => .constant negated
  | .member field negated values => .member field negated values
  | .group conditions => .group (runs (expressions conditions))

def expressions : Conditions → List (Conjunction × Expression)
  | [] => []
  | (conjunction, condition) :: rest => (conjunction, condition.expression) :: expressions rest

end

mutual

/-- No group within is empty: brackets with nothing between have no meaning. -/
def Condition.IsFilled : Condition → Prop
  | .group conditions => conditions ≠ [] ∧ AreFilled conditions
  | .compare .. | .isNull _ | .member .. => True

def AreFilled : Conditions → Prop
  | [] => True
  | (_, condition) :: rest => condition.IsFilled ∧ AreFilled rest

end

/-! ### Reading the items of conditions -/

theorem readTest?_comparator (field : String) (op : Comparator) (value : String)
    (rest : List Item) :
    readTest? field ((comparatorTokens op).map .token ++ .value value :: rest) =
      some (.compare field op value, rest) := by
  cases op <;> rfl

theorem readValues?_items (values : List String) (h : values ≠ []) (rest : List Item) :
    readValues? (valueItems values ++ .token (.symbol ')') :: rest) = some (values, rest) := by
  fun_induction valueItems values with
  | case1 => exact absurd rfl h
  | case2 v => rfl
  | case3 v w values ih =>
    simp only [List.cons_append, readValues?, ih (by simp), Option.map_some]

theorem runsFrom_cons {α : Type} (a : α) (run : List α) (joined : List (Conjunction × α)) :
    runsFrom (a :: run) joined = consFirst a (runsFrom run joined) := by
  induction joined generalizing run with
  | nil => rfl
  | cons x rest ih =>
    obtain ⟨conjunction, b⟩ := x
    cases conjunction with
    | and => exact ih (run ++ [b])
    | or => rfl

theorem length_items_pos (c : Condition) : 0 < c.items.length := by
  cases c with
  | member field negated values => cases values <;> simp [Condition.items]
  | _ => simp [Condition.items]

/-- Whether an expression that is joined by AND and OR ends before the items. -/
def EndsBefore (rest : List Item) : Prop :=
  rest = [] ∨ ∃ tail, rest = .token (.symbol ')') :: tail

mutual

/-- A condition is read from its items, whatever follows them. -/
theorem readOperand?_items (c : Condition) (hfilled : c.IsFilled) (steps : Nat)
    (hsteps : c.items.length ≤ steps + 1) (rest : List Item) :
    readOperand? (readRuns? steps) (c.items ++ rest) = some (c.expression, rest) := by
  match c with
  | .compare field op value =>
    simp only [Condition.items, List.cons_append, List.append_assoc, readOperand?]
    exact readTest?_comparator field op value rest
  | .isNull field => rfl
  | .member field negated [] => cases negated <;> rfl
  | .member field negated (v :: values) =>
    have hread := readValues?_items (v :: values) (by simp) rest
    cases negated <;>
      simp [Condition.items, memberTokens, readOperand?, readTest?, hread, Condition.expression]
  | .group conditions =>
    -- the brackets leave two steps more than the conditions between them need
    obtain ⟨hne, hinner⟩ := hfilled
    have hlength : (conditionsItems conditions).length ≤ steps := by
      simp only [Condition.items, List.length_cons, List.length_append] at hsteps
      omega
    have hread := readRuns?_items conditions hne hinner steps hlength
      (.token (.symbol ')') :: rest) (.inr ⟨rest, rfl⟩)
    simp [Condition.items, readOperand?, hread, Condition.expression]

/-- The reader finds the runs of the conditions and stops where they end. -/
theorem readRuns?_items (conditions : Conditions) (hne : conditions ≠ [])
    (hfilled : AreFilled conditions) (steps : Nat)
    (hsteps : (conditionsItems conditions).length ≤ steps) (rest : List Item)
    (hrest : EndsBefore rest) :
    readRuns? steps (conditionsItems conditions ++ rest) =
      some (runs (expressions conditions), rest) := by
  match conditions with
  | [(_, first)] =>
    have hpos := length_items_pos first
    simp only [conditionsItems, joinedItems, List.append_nil] at hsteps ⊢
    obtain ⟨steps, rfl⟩ : ∃ n, steps = n + 1 := ⟨steps - 1, by omega⟩
    have hread := readOperand?_items first hfilled.1 steps hsteps rest
    -- neither the end nor a closing bracket continues the run
    rw [readRuns?, hread]
    rcases hrest with rfl | ⟨tail, rfl⟩ <;> rfl
  | (x, first) :: (conjunction, second) :: more =>
    have hitems : conditionsItems ((conjunction, second) :: more) =
        second.items ++ joinedItems more := by rw [conditionsItems]
    simp only [conditionsItems, joinedItems, List.length_append, List.length_cons] at hsteps
    have hpos := length_items_pos first
    obtain ⟨steps, rfl⟩ : ∃ n, steps = n + 1 := ⟨steps - 1, by omega⟩
    have hread := readOperand?_items first hfilled.1 steps (by omega)
      (.token (conjunctionToken conjunction) ::
        (conditionsItems ((conjunction, second) :: more) ++ rest))
    have hmore := readRuns?_items ((conjunction, second) :: more) (by simp) hfilled.2 steps
      (by rw [hitems, List.length_append]; omega) rest hrest
    -- after the first operand and a conjunction the others are conditions of their own
    have hsplit : conditionsItems ((x, first) :: (conjunction, second) :: more) ++ rest =
        first.items ++ .token (conjunctionToken conjunction) ::
          (conditionsItems ((conjunction, second) :: more) ++ rest) := by
      simp [conditionsItems, joinedItems]
    rw [hsplit, readRuns?, hread]
    cases conjunction with
    | and =>
      simp only [conjunctionToken, hmore, Option.map_some]
      simp [expressions, runs, runsFrom, ← runsFrom_cons]
    | or =>
      simp only [conjunctionToken, hmore, Option.map_some]
      simp [expressions, runs, runsFrom]

end

/-! ### What calls build -/

theorem expressions_append (conditions more : Conditions) :
    expressions (conditions ++ more) = expressions conditions ++ expressions more := by
  induction conditions with
  | nil => rfl
  | cons x rest ih => simp [expressions, ih]

theorem areFilled_append {conditions more : Conditions} :
    AreFilled (conditions ++ more) ↔ AreFilled conditions ∧ AreFilled more := by
  induction conditions with
  | nil => simp [AreFilled]
  | cons x rest ih => simp [AreFilled, ih, and_assoc]

theorem conditionsValues_append (conditions more : Conditions) :
    conditionsValues (conditions ++ more) =
      conditionsValues conditions ++ conditionsValues more := by
  induction conditions with
  | nil => rfl
  | cons x rest ih => simp [conditionsValues, ih]

/-- What holds of every query that calls build: no group is empty, and the values that were bound
are those of its conditions, in the order of their placeholders. -/
structure Query.IsBuilt (q : Query) : Prop where
  filled : AreFilled q.conditions
  params : q.params = conditionsValues q.conditions

theorem isBuilt_empty : Query.IsBuilt {} := ⟨trivial, rfl⟩

theorem isBuilt_add {q : Query} (hq : q.IsBuilt) (conjunction : Conjunction) {c : Condition}
    (hc : c.IsFilled) : (q.add conjunction c c.values).IsBuilt where
  filled := areFilled_append.2 ⟨hq.filled, hc, trivial⟩
  params := by
    rw [Query.add, hq.params, conditionsValues_append]
    simp [conditionsValues]

theorem isBuilt_take {q : Query} (hq : q.IsBuilt) (s : Step) : (q.take s).IsBuilt := by
  cases s with
  | compare conjunction field op value => exact isBuilt_add hq conjunction trivial
  | isNull conjunction field => exact isBuilt_add hq conjunction trivial
  | member field negated values => exact isBuilt_add hq .and trivial
  | orderBy sort => exact ⟨hq.filled, hq.params⟩
  | limit n => exact ⟨hq.filled, hq.params⟩

/-- A group brings its values along, behind those bound before it. -/
theorem isBuilt_andGroup {q group : Query} (hq : q.IsBuilt) (hgroup : group.IsBuilt) :
    (q.andGroup group).IsBuilt := by
  by_cases hempty : group.conditions = []
  · simp only [Query.andGroup, hempty, List.isEmpty_nil, if_true]
    exact ⟨hq.filled, hq.params⟩
  · have hadd : (q.add .and (.group group.conditions) group.params).IsBuilt := by
      rw [hgroup.params]
      exact isBuilt_add hq .and ⟨hempty, hgroup.filled⟩
    simp only [Query.andGroup, List.isEmpty_iff, hempty, if_false]
    exact ⟨hadd.filled, hadd.params⟩

theorem expressions_take (q : Query) (s : Step) :
    expressions (q.take s).conditions = expressions q.conditions ++ describedByStep s := by
  cases s with
  | compare conjunction field op value => exact expressions_append ..
  | isNull conjunction field => exact expressions_append ..
  | member field negated values =>
    refine (expressions_append ..).trans ?_
    cases hvalues : values.bound <;>
      simp [expressions, Condition.expression, describedByStep, hvalues]
  | orderBy sort => simp [Query.take, describedByStep]
  | limit n => simp [Query.take, describedByStep]

mutual

/-- A call adds what it describes, and changes nothing before. -/
theorem expressions_apply (q : Query) (c : Call) :
    expressions (c.apply q).conditions = expressions q.conditions ++ c.described := by
  match c with
  | .step s => exact expressions_take q s
  | .group calls =>
    have hgroup : expressions (applyCalls {} calls).conditions = describedBy calls :=
      expressions_applyCalls {} calls
    rw [Call.apply, Call.described, ← hgroup, Query.andGroup]
    cases hconditions : (applyCalls {} calls).conditions with
    | nil => simp [expressions]
    | cons x rest =>
      have hadd := expressions_append q.conditions [(.and, .group (x :: rest))]
      simpa [Query.add, expressions, Condition.expression] using hadd

theorem expressions_applyCalls (q : Query) (calls : List Call) :
    expressions (applyCalls q calls).conditions =
      expressions q.conditions ++ describedBy calls := by
  match calls with
  | [] => simp [applyCalls, describedBy]
  | c :: rest =>
    rw [applyCalls, expressions_applyCalls _ rest, expressions_apply q c, describedBy,
      List.append_assoc]

end

mutual

theorem isBuilt_apply {q : Query} (hq : q.IsBuilt) (c : Call) : (c.apply q).IsBuilt := by
  match c with
  | .step s => exact isBuilt_take hq s
  | .group calls => exact isBuilt_andGroup hq (isBuilt_applyCalls isBuilt_empty calls)

theorem isBuilt_applyCalls {q : Query} (hq : q.IsBuilt) (calls : List Call) :
    (applyCalls q calls).IsBuilt := by
  match calls with
  | [] => exact hq
  | c :: rest => exact isBuilt_applyCalls (isBuilt_apply hq c) rest

end

/-- Calls with the same shape build the same texts. -/
theorem clauses_eq_of_blank {calls calls' : List Call} (h : blankCalls calls' = blankCalls calls) :
    (builtBy calls').whereClause = (builtBy calls).whereClause ∧
      (builtBy calls').orderClause = (builtBy calls).orderClause := by
  have hblank : (builtBy calls').blank = (builtBy calls).blank := by
    unfold builtBy
    rw [blank_applyCalls, blank_applyCalls, h]
  rw [← whereClause_blank (builtBy calls'), ← whereClause_blank (builtBy calls),
    ← orderClause_blank (builtBy calls'), ← orderClause_blank (builtBy calls), hblank]
  exact ⟨rfl, rfl⟩

/-- The text of filled conditions, once their values are bound, is read as what they say. -/
theorem readExpression?_text {conditions : Conditions} (hne : conditions ≠ [])
    (hfilled : AreFilled conditions) :
    bind? (Store.Schema.tokens (conditionsText conditions)) (conditionsValues conditions) =
        some (conditionsItems conditions) ∧
      readExpression? (conditionsItems conditions) = some (runs (expressions conditions)) := by
  have htokens : Store.Schema.tokens (conditionsText conditions) =
      (conditionsItems conditions).map Item.written := by
    have hlexed := lexed_conditions conditions [] breaksWord_nil
    rwa [List.append_nil, lexed_nil, List.append_nil, ← tokens_eq_lexed] at hlexed
  have hread := readRuns?_items conditions hne hfilled _ le_rfl [] (.inl rfl)
  rw [List.append_nil] at hread
  refine ⟨?_, by rw [readExpression?, hread]⟩
  rw [htokens, conditionsValues_eq_filterMap]
  exact bind?_items (isPlain_conditionsItems conditions)

/-- The text of the conditions that calls build has a question mark for each value that is bound.
With the values in their places it reads back as the expression that the calls describe. No value
has an effect on the texts. -/
theorem built_text_reads_back (calls : List Call) :
    (match (builtBy calls).whereText? with
      | none => describedBy calls = [] ∧ (builtBy calls).params = []
      | some text =>
        (Store.Schema.tokens text).count (.symbol '?') = (builtBy calls).params.length ∧
          ∃ items, bind? (Store.Schema.tokens text) (builtBy calls).params = some items ∧
            readExpression? items = some (runs (describedBy calls))) ∧
      ∀ calls' : List Call, blankCalls calls' = blankCalls calls →
        (builtBy calls').whereClause = (builtBy calls).whereClause ∧
          (builtBy calls').orderClause = (builtBy calls).orderClause := by
  refine ⟨?_, fun calls' h => clauses_eq_of_blank h⟩
  have hbuilt : (builtBy calls).IsBuilt := isBuilt_applyCalls isBuilt_empty calls
  have hdescribed : expressions (builtBy calls).conditions = describedBy calls :=
    expressions_applyCalls {} calls
  by_cases hempty : (builtBy calls).conditions = []
  · have hnone : (builtBy calls).whereText? = none := by simp [Query.whereText?, hempty]
    rw [hnone, ← hdescribed, hbuilt.params, hempty]
    exact ⟨rfl, rfl⟩
  · have hsome : (builtBy calls).whereText? = some (conditionsText (builtBy calls).conditions) := by
      simp [Query.whereText?, hempty]
    obtain ⟨hbind, hread⟩ := readExpression?_text hempty hbuilt.filled
    rw [hsome, ← hdescribed, hbuilt.params]
    exact ⟨count_of_bind? hbind, _, hbind, hread⟩

def quotedCalls (value : String) : List Call :=
  [.step (.compare .or "a\" = ? OR 1" .eq (.text value)),
    .group [.step (.member "b" true (.texts ["y", "z"])), .step (.isNull .or "c")]]

theorem quotedCalls_read_back :
    ∃ text items, (builtBy (quotedCalls "x")).whereText? = some text ∧
      (Store.Schema.tokens text).count (.symbol '?') = 3 ∧
      bind? (Store.Schema.tokens text) ["x", "y", "z"] = some items ∧
      readExpression? items = some [[.compare "a\" = ? OR 1" .eq "x",
        .group [[.member "b" true ["y", "z"]], [.isNull "c"]]]] ∧
      (builtBy (quotedCalls "?")).whereClause = (builtBy (quotedCalls "x")).whereClause := by
  obtain ⟨hread, hshape⟩ := built_text_reads_back (quotedCalls "x")
  have htext : (builtBy (quotedCalls "x")).whereText? =
      some (conditionsText (builtBy (quotedCalls "x")).conditions) := rfl
  rw [htext] at hread
  obtain ⟨hcount, items, hbind, hexpression⟩ := hread
  exact ⟨_, items, htext, hcount, hbind, hexpression, (hshape (quotedCalls "?") rfl).1⟩

end TableApi.Sql
