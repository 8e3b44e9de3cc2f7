import TableApi.Proofs.Sql.Runs

namespace TableApi

open TableApi.Filter (Clause Translation)

namespace Sql

mutual

def Condition.fields : Condition → List String
  | .compare field _ _ | .isNull field | .member field _ _ => [field]
  | .group conditions => conditionsFields conditions

def conditionsFields : Conditions → List String
  | [] => []
  | (_, condition) :: rest => condition.fields ++ conditionsFields rest

end

theorem conditionsFields_append (conditions more : Conditions) :
    conditionsFields (conditions ++ more) =
      conditionsFields conditions ++ conditionsFields more := by
  induction conditions with
  | nil => rfl
  | cons x conditions ih => simp only [List.cons_append, conditionsFields, ih, List.append_assoc]

namespace Query

def fields (q : Query) : List String :=
  conditionsFields q.conditions ++ q.order.toList.map Filter.Order.field

theorem field_mem_of_order {q : Query} {order : Filter.Order} (h : q.order = some order) :
    order.field ∈ q.fields := by
  rw [fields, h]
  exact List.mem_append_right _ List.mem_cons_self

/-- A query to which another one is added as a group names no more than both. -/
theorem mem_fields_andGroup {q group : Query} {name : String}
    (h : name ∈ (q.andGroup group).fields) : name ∈ q.fields ∨ name ∈ group.fields := by
  have hconditions : conditionsFields (q.andGroup group).conditions =
      conditionsFields q.conditions ++ conditionsFields group.conditions := by
    by_cases hempty : group.conditions = []
    · simp [andGroup, hempty, conditionsFields]
    · simp [andGroup, add, hempty, conditionsFields_append, conditionsFields, Condition.fields]
  rw [fields, hconditions, List.mem_append, List.mem_append] at h
  rcases h with (h | h) | h
  · exact .inl (List.mem_append_left _ h)
  · exact .inr (List.mem_append_left _ h)
  · obtain ⟨order, horder, rfl⟩ := List.mem_map.1 h
    rcases Option.or_eq_some_iff.1 (Option.mem_toList.1 horder) with h | ⟨-, h⟩
    · exact .inr (field_mem_of_order h)
    · exact .inl (field_mem_of_order h)

theorem conditionsFields_clauses (clauses : List Clause) :
    conditionsFields (Clause.conditions clauses) = clauses.map Clause.field := by
  have hone : ∀ c : Clause, c.condition.fields = [c.field] := by
    rintro ⟨field, conjunction, predicate⟩
    cases predicate <;> rfl
  induction clauses with
  | nil => rfl
  | cons c clauses ih =>
    rw [List.map_cons, ← ih]
    change c.condition.fields ++ conditionsFields (Clause.conditions clauses) = _
    rw [hone]
    rfl

theorem fields_ofClauses (clauses : List Clause) :
    (ofClauses clauses).fields = clauses.map Clause.field := by
  rw [Filter.ofClauses_eq, fields, conditionsFields_clauses]
  exact List.append_nil _

theorem fields_ofTranslation (t : Translation) :
    (ofTranslation t).fields =
      t.clauses.map Clause.field ++ t.sort.toList.map Filter.Order.field := by
  rw [Filter.ofTranslation_eq, fields, conditionsFields_clauses]

end Query

end Sql

end TableApi
