import TableApi.Proofs.Filter.Collection
import TableApi.Proofs.Filter.Names
import TableApi.Proofs.Text.Blanks

/-!
Three spellings of a list: its values between commas, each of them in brackets, or each of them under
the name again. The names whose values are cut at commas are those with an operator for lists, and
whichever way the list is spelled, it collects into the same parameter.
-/

namespace TableApi.Filter

open Parameters (begun gather isSplit_iff nameOf ofPairs pieces push under)

/-! ### Pairs of one name in a row -/

namespace Parameters

theorem not_mem_names_ofPairs {pairs : List (String × String)} {name : String}
    (h : ∀ p ∈ pairs, nameOf p ≠ name) : name ∉ Entries.names (ofPairs pairs) := by
  rw [names_ofPairs, List.mem_eraseDups]
  intro hmem
  obtain ⟨p, hp, hname⟩ := List.mem_map.1 hmem
  exact h p hp hname

theorem eq_nil_of_gather {name : String} {pairs : List (String × String)}
    (h : gather name pairs = none) : pairs = [] := by
  cases pairs with
  | nil => rfl
  | cons p rest => cases rest <;> cases h

/-- Pairs of a name that is new add one parameter. -/
theorem foldl_push_of_gather {params : Parameters} {name : String}
    {pairs : List (String × String)} {v : ParamValue} (hname : name ∉ Entries.names params)
    (hpairs : ∀ p ∈ pairs, nameOf p = name) (h : gather name pairs = some v) :
    pairs.foldl (fun params p => push params p.1 p.2) params = params ++ [(name, v)] := by
  induction pairs using List.reverseRecOn generalizing v with
  | nil => cases h
  | append_singleton pairs p ih =>
    obtain ⟨hbefore, hp⟩ := List.forall_mem_append.1 hpairs
    obtain rfl : nameOf p = name := hp p List.mem_cons_self
    rw [gather_append] at h
    obtain rfl := Option.some.inj h
    rw [List.foldl_append, List.foldl_cons, List.foldl_nil, push_eq]
    cases hgather : gather (nameOf p) pairs with
    | none =>
      obtain rfl : pairs = [] := eq_nil_of_gather hgather
      exact Entries.alter_of_not_mem hname _
    | some old =>
      rw [ih hbefore hgather]
      exact Entries.alter_append hname old [] _

theorem ofPairs_of_gather {before pairs : List (String × String)} {name : String} {v : ParamValue}
    (hbefore : ∀ p ∈ before, nameOf p ≠ name) (hpairs : ∀ p ∈ pairs, nameOf p = name)
    (h : gather name pairs = some v) (after : List (String × String)) :
    ofPairs (before ++ pairs ++ after) =
      after.foldl (fun params p => push params p.1 p.2) (ofPairs before ++ [(name, v)]) := by
  rw [ofPairs, List.foldl_append, List.foldl_append, ← ofPairs,
    foldl_push_of_gather (not_mem_names_ofPairs hbefore) hpairs h]

theorem gather_of_two_le {name : String} {pairs : List (String × String)}
    (h : 2 ≤ pairs.length) :
    gather name pairs = some (.many (pairs.flatMap fun p => pieces name p.2)) := by
  match pairs, h with
  | _ :: _ :: _, _ => rfl

end Parameters

/-! ### The spellings -/

/-- A value that can stand between commas: it has none itself, and no blank at either end. -/
structure IsItem (value : String) : Prop where
  comma : ',' ∉ value.toList
  opens : value.toList.head?.any Text.isBlank = false
  ends : value.toList.getLast?.any Text.isBlank = false

inductive Spells (name : String) (values : List String) : List (String × String) → Prop
  | commas : Spells name values [(name, Text.join "," values)]
  | brackets : Spells name values (values.map fun v => (name ++ "[]", v))
  | repeated : Spells name values (values.map fun v => (name, v))

section

variable {name : String} {values : List String}

theorem pieces_of_isItem {value : String} (h : IsItem value) : pieces name value = [value] :=
  Parameters.pieces_of_gives (.whole fun _ => h.comma)

theorem comma_mem_join (h : 2 ≤ values.length) : ',' ∈ (Text.join "," values).toList := by
  match values, h with
  | v :: w :: rest, _ =>
    rw [Text.join, String.toList_intercalate, List.map_cons, List.map_cons,
      List.intercalate_cons_cons]
    simp

/-- What is joined by commas is cut into the same values. -/
theorem pieces_join (hname : ['_', 'i', 'n'] <:+ name.toList) (hlength : 2 ≤ values.length)
    (hvalues : ∀ v ∈ values, IsItem v) : pieces name (Text.join "," values) = values := by
  have htrim : values.map Text.trim = values := by
    rw [List.map_congr_left (g := id), List.map_id]
    intro v hv
    exact Text.trim_of_ends (hvalues v hv).opens (hvalues v hv).ends
  have hgives : Parameters.Gives name (Text.join "," values) (values.map Text.trim) :=
    .parts values hname (comma_mem_join hlength) rfl fun v hv => (hvalues v hv).comma
  rw [Parameters.pieces_of_gives hgives, htrim]

theorem membership_suffix {op : Operator} (h : op = .member ∨ op = .notMember) (base : String) :
    ['_', 'i', 'n'] <:+ (base ++ "_" ++ op.keyword).toList := by
  rcases h with rfl | rfl
  · exact ⟨base.toList, by simp [Operator.keyword, String.toList_append]⟩
  · exact ⟨base.toList ++ ['_', 'n', 'o', 't'], by simp [Operator.keyword, String.toList_append]⟩

theorem splitBrackets_of_membership (hname : ['_', 'i', 'n'] <:+ name.toList) :
    Parameters.splitBrackets name = (name, false) := by
  apply Parameters.splitBrackets_of_not_suffix
  intro hbrackets
  obtain ⟨front, hfront⟩ := hname
  obtain ⟨front', hfront'⟩ := hbrackets
  have hlast := congrArg List.getLast? (hfront.trans hfront'.symm)
  simp at hlast

/-- All spellings of a list are collected under the bare name. -/
theorem nameOf_of_spells {pairs : List (String × String)}
    (hname : ['_', 'i', 'n'] <:+ name.toList) (h : Spells name values pairs) :
    ∀ p ∈ pairs, nameOf p = name := by
  have hbare (value : String) : nameOf (name, value) = name := by
    rw [nameOf, splitBrackets_of_membership hname]
  have hbrackets (value : String) : nameOf (name ++ "[]", value) = name := by
    rw [nameOf, Parameters.splitBrackets_brackets]
  cases h with
  | commas => simpa using hbare _
  | brackets =>
    intro p hp
    obtain ⟨v, -, rfl⟩ := List.mem_map.1 hp
    exact hbrackets v
  | repeated =>
    intro p hp
    obtain ⟨v, -, rfl⟩ := List.mem_map.1 hp
    exact hbare v

/-- Every spelling of two values or more gathers into the same list. -/
theorem gather_of_spells {pairs : List (String × String)}
    (hname : ['_', 'i', 'n'] <:+ name.toList) (hlength : 2 ≤ values.length)
    (hvalues : ∀ v ∈ values, IsItem v) (h : Spells name values pairs) :
    gather name pairs = some (.many values) := by
  -- one by one the values are not cut, since they have no commas
  have heach (key : String) :
      (values.map fun v => (key, v)).flatMap (fun p => pieces name p.2) = values := by
    rw [List.flatMap_map]
    calc values.flatMap (fun v => pieces name v)
      _ = values.flatMap fun v => [v] :=
        List.flatMap_congr fun v hv => pieces_of_isItem (hvalues v hv)
      _ = values := List.flatMap_singleton' values
  cases h with
  | commas =>
    have hsplit : Parameters.isSplit name (Text.join "," values) = true :=
      isSplit_iff.2 ⟨hname, comma_mem_join hlength⟩
    rw [gather, begun, hsplit, Bool.or_true, if_pos rfl, pieces_join hname hlength hvalues]
  | brackets => rw [Parameters.gather_of_two_le (by simpa using hlength), heach]
  | repeated => rw [Parameters.gather_of_two_le (by simpa using hlength), heach]

/-- The names that end in `_in` are those with an operator for lists, and under such a name the
spellings of a list collect into the same parameter and are translated in the same way. -/
theorem list_spellings_agree :
    (∀ name : String, ['_', 'i', 'n'] <:+ name.toList ↔
      (Name.splitOperator name.toList).2 = some .member ∨
        (Name.splitOperator name.toList).2 = some .notMember) ∧
    ∀ (base name : String) (op : Operator) (values : List String)
      (before after pairs pairs' : List (String × String)),
      op = .member ∨ op = .notMember → name = base ++ "_" ++ op.keyword →
      2 ≤ values.length → (∀ v ∈ values, IsItem v) →
      (∀ p ∈ before ++ after, nameOf p ≠ name) →
      Spells name values pairs → Spells name values pairs' →
      Entries.get? (ofPairs (before ++ pairs ++ after)) name = some (.many values) ∧
      ∀ (fields : Fields) (dates : DateReader),
        translate fields dates (ofPairs (before ++ pairs ++ after)) =
          translate fields dates (ofPairs (before ++ pairs' ++ after)) := by
  refine ⟨fun name => Name.splitOperator_isMembership_iff.symm, ?_⟩
  rintro base name op values before after pairs pairs' hop rfl hlength hvalues hothers hpairs hpairs'
  have hname := membership_suffix hop base
  obtain ⟨hbefore, hafter⟩ := List.forall_mem_append.1 hothers
  have hgather := gather_of_spells hname hlength hvalues hpairs
  have hgather' := gather_of_spells hname hlength hvalues hpairs'
  constructor
  · have hnone {others : List (String × String)}
        (h : ∀ p ∈ others, nameOf p ≠ base ++ "_" ++ op.keyword) :
        under (base ++ "_" ++ op.keyword) others = [] := by
      simpa [under] using h
    have hall : under (base ++ "_" ++ op.keyword) pairs = pairs := by
      simpa [under] using nameOf_of_spells hname hpairs
    have hunder : under (base ++ "_" ++ op.keyword) (before ++ pairs ++ after) = pairs := by
      rw [under, List.filter_append, List.filter_append, ← under, ← under, ← under, hnone hbefore,
        hnone hafter, hall, List.nil_append, List.append_nil]
    rw [Parameters.get?_ofPairs, hunder, hgather]
  · intro fields dates
    rw [Parameters.ofPairs_of_gather hbefore (nameOf_of_spells hname hpairs) hgather,
      Parameters.ofPairs_of_gather hbefore (nameOf_of_spells hname hpairs') hgather']

end

/-- Three spellings of a list under a negated operator, between a filter and a sort. -/
theorem negated_list_spellings_agree :
    translate { allowed := ["title", "status"] } calendarReader (ofPairs
      [("title", "x"), ("or_status_not_in", "a,b"), ("sort", "title")]) =
    translate { allowed := ["title", "status"] } calendarReader (ofPairs
      [("title", "x"), ("or_status_not_in[]", "a"), ("or_status_not_in[]", "b"),
        ("sort", "title")]) ∧
    translate { allowed := ["title", "status"] } calendarReader (ofPairs
      [("title", "x"), ("or_status_not_in", "a,b"), ("sort", "title")]) =
    translate { allowed := ["title", "status"] } calendarReader (ofPairs
      [("title", "x"), ("or_status_not_in", "a"), ("or_status_not_in", "b"),
        ("sort", "title")]) ∧
    (translate { allowed := ["title", "status"] } calendarReader (ofPairs
      [("title", "x"), ("or_status_not_in", "a"), ("or_status_not_in", "b"),
        ("sort", "title")])).result =
      .ok { clauses := [⟨"title", .and, .compare .eq (.text "x")⟩,
              ⟨"status", .or, .notMember (.texts ["a", "b"])⟩],
            sort := some ⟨"title", .ascending⟩ } := by
  obtain ⟨-, hspellings⟩ := list_spellings_agree
  have hitems : ∀ v ∈ ["a", "b"], IsItem v := by
    intro v hv
    rcases List.mem_cons.1 hv with rfl | hv
    · exact ⟨by decide, by decide, by decide⟩
    · obtain rfl := List.mem_singleton.1 hv
      exact ⟨by decide, by decide, by decide⟩
  have hothers : ∀ p ∈ [("title", "x")] ++ [("sort", "title")], nameOf p ≠ "or_status_not_in" := by
    decide +kernel
  have hspell {pairs : List (String × String)}
      (h : Spells "or_status_not_in" ["a", "b"] pairs) :=
    (hspellings "or_status" "or_status_not_in" .notMember ["a", "b"] [("title", "x")]
      [("sort", "title")] [("or_status_not_in", "a,b")] pairs (.inr rfl) rfl (by decide) hitems
      hothers .commas h).2 { allowed := ["title", "status"] } calendarReader
  exact ⟨hspell .brackets, hspell .repeated, by rfl⟩

end TableApi.Filter
