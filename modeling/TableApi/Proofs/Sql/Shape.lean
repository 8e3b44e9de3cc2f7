import TableApi.Proofs.Sql.Expression

namespace TableApi.Sql

open TableApi.Filter (Step)

def blankValues (values : List String) : List String := values.map fun _ => ""

mutual

def Condition.blank : Condition → Condition
  | .compare field op _ => .compare field op ""
  | .isNull field => .isNull field
  | .member field negated values => .member field negated (blankValues values)
  | .group conditions => .group (blankConditions conditions)

def blankConditions : Conditions → Conditions
  | [] => []
  | (conjunction, condition) :: rest => (conjunction, condition.blank) :: blankConditions rest

end

def Query.blank (q : Query) : Query :=
  { conditions := blankConditions q.conditions, params := blankValues q.params, order := q.order,
    limit := q.limit.map fun _ => 0 }

def blankStep : Step → Step
  | .compare conjunction field op _ => .compare conjunction field op (.text "")
  | .isNull conjunction field => .isNull conjunction field
  | .member field negated values => .member field negated (.texts (blankValues values.bound))
  | .orderBy sort => .orderBy sort
  | .limit _ => .limit 0

mutual

def Call.blank : Call → Call
  | .step s => .step (blankStep s)
  | .group calls => .group (blankCalls calls)

def blankCalls : List Call → List Call
  | [] => []
  | c :: rest => c.blank :: blankCalls rest

end

theorem blankConditions_append (conditions more : Conditions) :
    blankConditions (conditions ++ more) = blankConditions conditions ++ blankConditions more := by
  induction conditions with
  | nil => rfl
  | cons x rest ih => simp [blankConditions, ih]

theorem isEmpty_blankConditions (conditions : Conditions) :
    (blankConditions conditions).isEmpty = conditions.isEmpty := by
  cases conditions <;> rfl

mutual

/-- The text of a condition does not depend on its values. -/
theorem text_blank (c : Condition) : c.blank.text = c.text := by
  match c with
  | .compare field op value => rfl
  | .isNull field => rfl
  | .member field negated [] => rfl
  | .member field negated (v :: values) =>
    simp [Condition.blank, blankValues, Condition.text]
  | .group conditions =>
    rw [Condition.blank, Condition.text, Condition.text, conditionsText_blank conditions]

theorem conditionsText_blank (conditions : Conditions) :
    conditionsText (blankConditions conditions) = conditionsText conditions := by
  match conditions with
  | [] => rfl
  | (_, first) :: rest =>
    rw [blankConditions, conditionsText, conditionsText, text_blank first, joinedText_blank rest]

theorem joinedText_blank (conditions : Conditions) :
    joinedText (blankConditions conditions) = joinedText conditions := by
  match conditions with
  | [] => rfl
  | (_, condition) :: rest =>
    rw [blankConditions, joinedText, joinedText, text_blank condition, joinedText_blank rest]

end

theorem whereClause_blank (q : Query) : q.blank.whereClause = q.whereClause := by
  simp only [Query.whereClause, Query.whereText?, Query.blank, isEmpty_blankConditions,
    conditionsText_blank]

theorem orderClause_blank (q : Query) : q.blank.orderClause = q.orderClause := rfl

theorem blank_add (q : Query) (conjunction : Filter.Conjunction) (condition : Condition)
    (values : List String) :
    (q.add conjunction condition values).blank =
      q.blank.add conjunction condition.blank (blankValues values) := by
  simp [Query.add, Query.blank, blankConditions_append, blankConditions, blankValues]

theorem blank_take (q : Query) (s : Step) : (q.take s).blank = q.blank.take (blankStep s) := by
  cases s with
  | compare conjunction field op value => exact blank_add q ..
  | isNull conjunction field => exact blank_add q ..
  | member field negated values => exact blank_add q ..
  | orderBy sort => rfl
  | limit n => rfl

theorem blank_andGroup (q group : Query) :
    (q.andGroup group).blank = q.blank.andGroup group.blank := by
  obtain ⟨conditions, params, order, limit⟩ := group
  -- an empty group adds nothing, and its shape is empty too
  cases conditions with
  | nil => simp [Query.andGroup, Query.blank, blankConditions, Option.map_or]
  | cons x rest =>
    have hadd := blank_add q .and (.group (x :: rest)) params
    obtain ⟨conjunction, first⟩ := x
    simp only [Query.add, Query.blank, Query.mk.injEq] at hadd
    simp [Query.andGroup, Query.blank, Query.add, Option.map_or, hadd, Condition.blank,
      blankConditions]

mutual

theorem blank_apply (q : Query) (c : Call) : (c.apply q).blank = c.blank.apply q.blank := by
  match c with
  | .step s => exact blank_take q s
  | .group calls =>
    have hgroup : (applyCalls {} calls).blank = applyCalls {} (blankCalls calls) :=
      blank_applyCalls {} calls
    rw [Call.apply, blank_andGroup, hgroup, Call.blank, Call.apply]

/-- The shape of what calls build is what their shapes build. -/
theorem blank_applyCalls (q : Query) (calls : List Call) :
    (applyCalls q calls).blank = applyCalls q.blank (blankCalls calls) := by
  match calls with
  | [] => rfl
  | c :: rest => rw [applyCalls, blank_applyCalls _ rest, blank_apply q c, blankCalls, applyCalls]

end

end TableApi.Sql
