import TableApi.Filter.Operator

/-!
Names of filters read back. Reading takes the longest operator ending off a name and then one
leading `or_`. Among the endings only those of four negations hold another one at their end, with
`_not` before it. So what is built from a field, an operator and a conjunction is read back unless
the field itself looks like one of the two: `_not` before one of four operators, any ending where
there is no operator, a leading `or_` where there is no other.
-/

namespace TableApi.Filter

namespace Operator

theorem mem_all (op : Operator) : op ∈ all := by
  cases op <;> decide

/-- The operator that a name carries when `_not` stands before the ending of another one. -/
def withNot? : Operator → Option Operator
  | member => some notMember
  | contains => some notContains
  | startsWith => some notStartsWith
  | endsWith => some notEndsWith
  | _ => none

theorem ending_withNot {op op' : Operator} (h : op.withNot? = some op') :
    op'.ending = not.ending ++ op.ending := by
  cases op <;> cases h <;> rfl

theorem withNot?_withNot {op op' : Operator} (h : op.withNot? = some op') :
    op'.withNot? = none := by
  cases op <;> cases h <;> rfl

/-- One ending stands at the end of another only behind `_not`. -/
theorem eq_or_withNot_of_suffix {op op' : Operator} (h : op.ending <:+ op'.ending) :
    op' = op ∨ op.withNot? = some op' := by
  have hall : ∀ op ∈ all, ∀ op' ∈ all, op.ending <:+ op'.ending →
      op' = op ∨ op.withNot? = some op' := by decide
  exact hall op (mem_all op) op' (mem_all op') h

theorem length_ending (op : Operator) : op.ending.length = op.keyword.length + 1 := by
  rw [ending, List.length_cons, String.length_toList]

end Operator

namespace Name

/-! ### The operator -/

theorem mem_endings_iff {name base : List Char} {op : Operator} :
    (base, op) ∈ endings name ↔ name = base ++ op.ending := by
  simp only [endings, List.mem_filterMap, Option.map_eq_some_iff, Prod.mk.injEq]
  constructor
  · rintro ⟨op', -, base', hbase, rfl, rfl⟩
    exact Text.append_of_dropEnding? hbase
  · rintro rfl
    exact ⟨op, Operator.mem_all op, base, Text.dropEnding?_append base op.ending, rfl, rfl⟩

/-- The ending that is taken is the longest of those that fit. -/
theorem foldl_longer (first : List Char × Operator) (rest : List (List Char × Operator)) :
    rest.foldl longer first ∈ first :: rest ∧
      ∀ x ∈ first :: rest, x.2.keyword.length ≤ (rest.foldl longer first).2.keyword.length := by
  induction rest generalizing first with
  | nil => simp
  | cons second rest ih =>
    obtain ⟨hmem, hmax⟩ := ih (longer first second)
    -- the longer of the first two is one of them and as long as both
    have hlonger : longer first second = first ∨ longer first second = second := by
      unfold longer
      split
      · exact .inl rfl
      · exact .inr rfl
    have hboth : first.2.keyword.length ≤ (longer first second).2.keyword.length ∧
        second.2.keyword.length ≤ (longer first second).2.keyword.length := by
      unfold longer
      split <;> omega
    obtain ⟨hfirst, hrest⟩ := List.forall_mem_cons.1 hmax
    rw [List.foldl_cons]
    constructor
    · rcases List.mem_cons.1 hmem with h | h
      · rw [h]
        rcases hlonger with h | h <;> simp [h]
      · exact List.mem_cons_of_mem _ (List.mem_cons_of_mem _ h)
    · intro x hx
      rcases List.mem_cons.1 hx with rfl | hx
      · exact Nat.le_trans hboth.1 hfirst
      · rcases List.mem_cons.1 hx with rfl | hx
        · exact Nat.le_trans hboth.2 hfirst
        · exact hrest x hx

/-- A name has no operator ending and stays as it is, or the longest one is taken off. -/
theorem splitOperator_cases (name : List Char) :
    (splitOperator name = (name, none) ∧ ∀ op : Operator, ¬op.ending <:+ name) ∨
      ∃ base op, splitOperator name = (base, some op) ∧ name = base ++ op.ending ∧
        ∀ op' : Operator, op'.ending <:+ name → op'.keyword.length ≤ op.keyword.length := by
  unfold splitOperator
  split
  · rename_i hnil
    refine .inl ⟨rfl, ?_⟩
    rintro op ⟨base, hbase⟩
    have hmem := mem_endings_iff.2 hbase.symm
    rw [hnil] at hmem
    cases hmem
  · rename_i first rest hcons
    obtain ⟨hmem, hmax⟩ := foldl_longer first rest
    rw [← hcons] at hmem hmax
    refine .inr ⟨_, _, rfl, mem_endings_iff.1 hmem, ?_⟩
    rintro op' ⟨base', hbase'⟩
    exact hmax (base', op') (mem_endings_iff.2 hbase'.symm)

theorem splitOperator_snd_eq_none_iff {name : List Char} :
    (splitOperator name).2 = none ↔ ∀ op : Operator, ¬op.ending <:+ name := by
  rcases splitOperator_cases name with ⟨hsplit, hnone⟩ | ⟨base, op, hsplit, hname, -⟩
  · simp [hsplit, hnone]
  · rw [hsplit]
    refine iff_of_false (by simp) ?_
    intro hnone
    exact hnone op ⟨base, hname.symm⟩

/-- What is left of a name makes up the name again. -/
theorem splitOperator_fst_append (name : List Char) :
    (splitOperator name).1 ++ ((splitOperator name).2.map Operator.ending).getD [] = name := by
  rcases splitOperator_cases name with ⟨hsplit, -⟩ | ⟨base, op, hsplit, hname, -⟩
  · simp [hsplit]
  · rw [hsplit]
    exact hname.symm

/-- An ending is taken off unless `_not` before it makes it that of a negation. -/
theorem splitOperator_append {base : List Char} {op : Operator}
    (h : op.withNot?.isSome → ¬Operator.not.ending <:+ base) :
    splitOperator (base ++ op.ending) = (base, some op) := by
  have hop : op.ending <:+ base ++ op.ending := List.suffix_append base op.ending
  rcases splitOperator_cases (base ++ op.ending) with ⟨-, hnone⟩ | ⟨base', op', hsplit, hname, hmax⟩
  · exact absurd hop (hnone op)
  · have hle : op.ending.length ≤ op'.ending.length := by
      rw [Operator.length_ending, Operator.length_ending]
      exact Nat.succ_le_succ (hmax op hop)
    have hsuffix : op.ending <:+ op'.ending :=
      List.suffix_of_suffix_length_le hop ⟨base', hname.symm⟩ hle
    rcases Operator.eq_or_withNot_of_suffix hsuffix with rfl | hnot
    · rw [hsplit, List.append_cancel_right hname]
    · rw [Operator.ending_withNot hnot, ← List.append_assoc] at hname
      exact absurd ⟨base', (List.append_cancel_right hname).symm⟩ (h (by rw [hnot]; rfl))

theorem splitOperator_append_not {base : List Char} {op op' : Operator}
    (h : op.withNot? = some op') :
    splitOperator (base ++ Operator.not.ending ++ op.ending) = (base, some op') := by
  rw [List.append_assoc, ← Operator.ending_withNot h]
  refine splitOperator_append ?_
  rw [Operator.withNot?_withNot h]
  exact fun hsome => absurd hsome (by decide)

/-- An ending is read as its operator unless it is the end of a negation's. -/
theorem splitOperator_append_iff {base : List Char} {op : Operator} :
    (splitOperator (base ++ op.ending)).2 = some op ↔
      (op.withNot?.isSome → ¬Operator.not.ending <:+ base) := by
  refine ⟨?_, fun h => by rw [splitOperator_append h]⟩
  rintro hread hsome ⟨front, rfl⟩
  obtain ⟨op', hop'⟩ := Option.isSome_iff_exists.1 hsome
  rw [splitOperator_append_not hop'] at hread
  obtain rfl : op' = op := Option.some.inj hread
  rw [Operator.withNot?_withNot hop'] at hop'
  cases hop'

/-- The operators for lists are those of the names that end in `_in`. -/
theorem splitOperator_isMembership_iff {name : List Char} :
    (splitOperator name).2 = some .member ∨ (splitOperator name).2 = some .notMember ↔
      Operator.member.ending <:+ name := by
  constructor
  · have hname := splitOperator_fst_append name
    rintro (h | h)
    · rw [h] at hname
      exact ⟨_, hname⟩
    · rw [h] at hname
      exact ⟨_ ++ Operator.not.ending, (List.append_assoc ..).trans hname⟩
  · rintro ⟨base, rfl⟩
    by_cases hbase : Operator.not.ending <:+ base
    · obtain ⟨front, rfl⟩ := hbase
      rw [splitOperator_append_not rfl]
      exact .inr rfl
    · rw [splitOperator_append fun _ => hbase]
      exact .inl rfl

/-! ### The conjunction -/

def orOpening : List Char := ['o', 'r', '_']

theorem splitConjunction_orOpening (field : List Char) :
    splitConjunction (orOpening ++ field) = (field, .or) := by
  rw [splitConjunction, ← orOpening, Text.dropOpening?_append]

theorem splitConjunction_snd_eq_and_iff {name : List Char} :
    (splitConjunction name).2 = .and ↔ ¬orOpening <+: name := by
  constructor
  · rintro h ⟨field, rfl⟩
    rw [splitConjunction_orOpening] at h
    cases h
  · intro h
    have hdrop : Text.dropOpening? orOpening name = none := by
      rw [Text.dropOpening?, if_neg]
      rwa [List.isPrefixOf_iff_prefix]
    rw [splitConjunction, ← orOpening, hdrop]

theorem splitConjunction_fst_of_and {name : List Char} (h : (splitConjunction name).2 = .and) :
    (splitConjunction name).1 = name := by
  unfold splitConjunction at h ⊢
  split at h
  · cases h
  · rfl

/-! ### Names that are read back -/

/-- A name in which nothing but its own operator and conjunction can be taken for one. -/
structure Unambiguous (n : Name) : Prop where
  /-- Without an operator no ending stands at the end. -/
  bare : n.operator = none → ∀ op : Operator, ¬op.ending <:+ n.base.toList
  /-- No `_not` stands before an operator that it would negate. -/
  positive : ∀ op ∈ [Operator.member, .contains, .startsWith, .endsWith], n.operator = some op →
    ¬Operator.not.ending <:+ n.base.toList
  /-- A field joined by AND does not begin with `or_`. -/
  joined : n.conjunction = .and → ¬orOpening <+: n.field.toList

theorem toList_write (n : Name) :
    n.write.toList = n.base.toList ++ (n.operator.map Operator.ending).getD [] := by
  unfold write
  cases n.operator with
  | none => simp
  | some op => simp [Operator.ending, String.toList_append]

theorem splitOperator_write_iff (n : Name) :
    (splitOperator n.write.toList).2 = n.operator ↔
      (n.operator = none → ∀ op : Operator, ¬op.ending <:+ n.base.toList) ∧
      ∀ op ∈ [Operator.member, .contains, .startsWith, .endsWith], n.operator = some op →
        ¬Operator.not.ending <:+ n.base.toList := by
  rw [toList_write]
  cases n.operator with
  | none => simp [splitOperator_snd_eq_none_iff]
  | some op =>
    have hnegated : op.withNot?.isSome ↔
        op ∈ [Operator.member, .contains, .startsWith, .endsWith] := by
      cases op <;> decide
    rw [Option.map_some, Option.getD_some, splitOperator_append_iff, hnegated]
    constructor
    · intro h
      refine ⟨nofun, ?_⟩
      intro op' hop' hsome
      obtain rfl := Option.some.inj hsome
      exact h hop'
    · rintro ⟨-, h⟩ hop
      exact h op hop rfl

theorem splitOperator_fst_write {n : Name} (h : (splitOperator n.write.toList).2 = n.operator) :
    (splitOperator n.write.toList).1 = n.base.toList := by
  have happend := splitOperator_fst_append n.write.toList
  rw [h] at happend
  exact List.append_cancel_right (happend.trans (toList_write n))

/-- A field that begins with `or_` is taken for one that joins by OR. -/
theorem splitConjunction_base_iff (n : Name) :
    splitConjunction n.base.toList = (n.field.toList, n.conjunction) ↔
      (n.conjunction = .and → ¬orOpening <+: n.field.toList) := by
  unfold base
  cases n.conjunction with
  | and =>
    rw [← splitConjunction_snd_eq_and_iff]
    constructor
    · intro h _
      rw [h]
    · intro h
      exact Prod.ext (splitConjunction_fst_of_and (h rfl)) (h rfl)
  | or =>
    have hbase : ("or_" ++ n.field).toList = orOpening ++ n.field.toList := String.toList_append
    simp [hbase, splitConjunction_orOpening]

theorem read_write_eq_iff (n : Name) :
    read n.write = n ↔ (splitOperator n.write.toList).2 = n.operator ∧
      splitConjunction (splitOperator n.write.toList).1 = (n.field.toList, n.conjunction) := by
  obtain ⟨field, operator, conjunction⟩ := n
  simp only [read, Name.mk.injEq, Prod.ext_iff, ← String.toList_inj, String.toList_ofList]
  exact and_left_comm

theorem read_write {n : Name} (h : n.Unambiguous) : read n.write = n := by
  have hoperator := (splitOperator_write_iff n).2 ⟨h.bare, h.positive⟩
  rw [read_write_eq_iff, splitOperator_fst_write hoperator]
  exact ⟨hoperator, (splitConjunction_base_iff n).2 h.joined⟩

theorem unambiguous_of_read_write {n : Name} (h : read n.write = n) : n.Unambiguous := by
  obtain ⟨hoperator, hconjunction⟩ := (read_write_eq_iff n).1 h
  rw [splitOperator_fst_write hoperator] at hconjunction
  obtain ⟨hbare, hpositive⟩ := (splitOperator_write_iff n).1 hoperator
  exact ⟨hbare, hpositive, (splitConjunction_base_iff n).1 hconjunction⟩

/-- A name that is built from a field, an operator and a conjunction is read back just when it is
unambiguous. -/
theorem read_write_iff (n : Name) : read n.write = n ↔ n.Unambiguous :=
  ⟨unambiguous_of_read_write, read_write⟩

end Name

end TableApi.Filter
