import TableApi.Proofs.Filter.Dates
import TableApi.Proofs.Filter.Names
import TableApi.Proofs.Store.Paging
import TableApi.Proofs.Store.Selection

/-!
Negated filters. A comparison and its opposite are known for the same rows, those in which the column
is not null, and differ on each of them; so do a membership in a list and its negation. A filter and
its negation therefore divide these rows between them, except that a single value is compared by
equality under both operators for lists.
-/

namespace TableApi

namespace Filter

def Comparator.negation : Comparator → Comparator
  | eq => ne
  | ne => eq
  | lt => ge
  | ge => lt
  | gt => le
  | le => gt
  | like => notLike
  | notLike => like

namespace Operator

def negation? : Option Operator → Option Operator
  | none => some not
  | some lt => some ge
  | some gt => some le
  | some contains => some notContains
  | some startsWith => some notStartsWith
  | some endsWith => some notEndsWith
  | some member => some notMember
  | _ => none

def comparedText (operator : Option Operator) (raw : String) : String :=
  match operator with
  | some op => op.pattern raw
  | none => raw

theorem comparator_negation {o : Option Operator} {op : Operator} (h : negation? o = some op)
    (ho : o ≠ some member) : comparator (some op) = (comparator o).negation := by
  match o, h with
  | none, rfl | some lt, rfl | some gt, rfl | some contains, rfl | some startsWith, rfl
  | some endsWith, rfl => rfl
  | some member, _ => exact absurd rfl ho

theorem comparedText_negation {o : Option Operator} {op : Operator} (h : negation? o = some op)
    (raw : String) : comparedText (some op) raw = comparedText o raw := by
  match o, h with
  | none, rfl | some lt, rfl | some gt, rfl | some contains, rfl | some startsWith, rfl
  | some endsWith, rfl | some member, rfl => rfl

/-- An operator that negates is none that `_not` would negate again. -/
theorem not_mem_of_negation {o : Option Operator} {op : Operator} (h : negation? o = some op) :
    op ∉ [member, contains, startsWith, endsWith] := by
  match o, h with
  | none, rfl | some lt, rfl | some gt, rfl | some contains, rfl | some startsWith, rfl
  | some endsWith, rfl | some member, rfl => decide

theorem pattern_of_not_textMatch {op : Operator} (h : op.isTextMatch = false) (raw : String) :
    op.pattern raw = raw := by
  cases op <;> first | rfl | cases h

/-- A text match has a wildcard, so it is never the word that asks for a null test. -/
theorem pattern_ne_nullWord {op : Operator} (h : op.isTextMatch = true) (raw : String) :
    op.pattern raw ≠ nullWord := by
  have hwildcard : '%' ∈ (op.pattern raw).toList := by
    cases op <;> simp [isTextMatch, pattern, String.toList_append] at h ⊢
  intro hnull
  rw [hnull] at hwildcard
  exact absurd hwildcard (by decide)

theorem comparedText_ne_nullWord {raw : String} (h : raw ≠ nullWord) (o : Option Operator) :
    comparedText o raw ≠ nullWord := by
  cases o with
  | none => exact h
  | some op =>
    cases hmatch : op.isTextMatch with
    | false =>
      rw [comparedText, pattern_of_not_textMatch hmatch]
      exact h
    | true => exact pattern_ne_nullWord hmatch raw

end Operator

/-! ### Filters by texts -/

structure Fields.IsTextFilter (fields : Fields) (n : Name) : Prop where
  unambiguous : n.Unambiguous
  notSort : n.write ≠ sortName
  notLimit : n.write ≠ limitName
  allowed : n.field ∈ fields.allowed
  text : n.field ∉ fields.dates

def Name.under (n : Name) (op : Operator) : Name := { n with operator := some op }

section

variable {fields : Fields} {dates : DateReader} {n : Name} {op : Operator}

/-- The opposite of a text filter is one on the same field. -/
theorem Fields.IsTextFilter.negated (h : fields.IsTextFilter n)
    (hop : Operator.negation? n.operator = some op) : fields.IsTextFilter (n.under op) := by
  have hmark : '_' ∈ (n.under op).write.toList := by
    rw [Name.toList_write]
    exact List.mem_append_right _ List.mem_cons_self
  refine ⟨⟨nofun, ?_, h.unambiguous.joined⟩, ?_, ?_, h.allowed, h.text⟩
  · intro op' hop' hsome
    obtain rfl : op = op' := Option.some.inj hsome
    exact absurd hop' (Operator.not_mem_of_negation hop)
  · intro hsort
    rw [hsort] at hmark
    exact absurd hmark (by decide)
  · intro hlimit
    rw [hlimit] at hmark
    exact absurd hmark (by decide)

theorem scalarPredicate_of_text {raw : String} (hdate : n.field ∉ fields.dates)
    (hraw : raw ≠ nullWord) :
    scalarPredicate fields dates n raw =
      .ok (.compare (Operator.comparator n.operator)
        (.text (Operator.comparedText n.operator raw))) := by
  have hisDate : fields.isDate n.field = false := by simpa [Fields.isDate] using hdate
  have hnull := Operator.comparedText_ne_nullWord hraw n.operator
  simp only [scalarPredicate, hisDate, Bool.false_eq_true, if_false]
  cases hop : n.operator with
  | none => simp [Operator.comparedText, hraw]
  | some op =>
    rw [hop, Operator.comparedText] at hnull
    cases hmatch : op.isTextMatch with
    | true => simp [Operator.comparedText, ClauseValue.bound, hmatch, hnull]
    | false =>
      simp [Operator.comparedText, Operator.pattern_of_not_textMatch hmatch, hmatch, hraw]

theorem effect_single (h : fields.IsTextFilter n) {raw : String} (hraw : raw ≠ nullWord) :
    effect fields dates n.write (.single raw) = .ok (.clause {
      field := n.field
      conjunction := n.conjunction
      predicate := .compare (Operator.comparator n.operator)
        (.text (Operator.comparedText n.operator raw)) }) := by
  have hallows : fields.allows n.field = true := List.contains_iff_mem.2 h.allowed
  rw [effect_filter h.notSort h.notLimit]
  simp only [filterEffect, Name.read_write h.unambiguous, hallows,
    scalarPredicate_of_text h.text hraw]
  rfl

theorem effect_many (h : fields.IsTextFilter n) (values : List String) :
    (n.operator = some .member → effect fields dates n.write (.many values) = .ok (.clause {
      field := n.field
      conjunction := n.conjunction
      predicate := .member (.texts values) })) ∧
    (n.operator = some .notMember → effect fields dates n.write (.many values) = .ok (.clause {
      field := n.field
      conjunction := n.conjunction
      predicate := .notMember (.texts values) })) := by
  have hallows : fields.allows n.field = true := List.contains_iff_mem.2 h.allowed
  have hisDate : fields.isDate n.field = false := by simpa [Fields.isDate] using h.text
  have hlist : listValue fields dates n.field values = .ok (.texts values) := by
    rw [listValue, hisDate]
    rfl
  rw [effect_filter h.notSort h.notLimit]
  simp only [filterEffect, Name.read_write h.unambiguous, hallows, hlist]
  constructor
  · intro hop
    rw [hop]
    rfl
  · intro hop
    rw [hop]
    rfl

end

end Filter

/-! ### Rows -/

namespace Store

open TableApi.Filter (Comparator DateReader Fields InvalidDate Name Operator ParamValue)

theorem Truth.not_not (a : Truth) : a.not.not = a := by
  rcases a with _ | _ | _ <;> rfl

namespace Operand

variable (x : Operand)

/-- The opposite comparison is false where a comparison is true, true where it is false, and unknown
where it is unknown. -/
theorem test_negation (c : Comparator) (value : String) :
    x.test c.negation value = (x.test c value).not := by
  have hcompare (c : Comparator) (hholds : ∀ o, holds c.negation o = !holds c o) :
      x.compare c.negation value = (x.compare c value).not := by
    unfold compare
    split
    · rfl
    · rw [hholds]
      rfl
  cases c with
  | like => rfl
  | notLike => exact (Truth.not_not _).symm
  | eq => exact hcompare .eq (by decide)
  | ne => exact hcompare .ne (by decide)
  | lt => exact hcompare .lt (by decide)
  | le => exact hcompare .le (by decide)
  | gt => exact hcompare .gt (by decide)
  | ge => exact hcompare .ge (by decide)

variable {x}

/-- A comparison is known for every value but null. -/
theorem exists_test (hx : x.cell ≠ .null) (c : Comparator) (value : String) :
    ∃ b, x.test c value = some b := by
  have hcompare (c : Comparator) : ∃ b, x.compare c value = some b :=
    ⟨_, if_neg hx⟩
  have hmatches : ∃ b, x.matchesPattern value = some b := by
    unfold matchesPattern
    cases hcell : x.cell with
    | null => exact absurd hcell hx
    | integer i => exact ⟨_, rfl⟩
    | real y => exact ⟨_, rfl⟩
    | text s => exact ⟨_, rfl⟩
    | blob bytes => exact ⟨_, rfl⟩
  cases c with
  | like => exact hmatches
  | notLike =>
    obtain ⟨b, hb⟩ := hmatches
    refine ⟨!b, ?_⟩
    rw [test, hb]
    rfl
  | eq => exact hcompare .eq
  | ne => exact hcompare .ne
  | lt => exact hcompare .lt
  | le => exact hcompare .le
  | gt => exact hcompare .gt
  | ge => exact hcompare .ge

theorem exists_member (hx : x.cell ≠ .null) (values : List String) :
    ∃ b, x.member values = some b := by
  unfold member
  rw [if_neg hx]
  split <;> exact ⟨_, rfl⟩

end Operand

def Table.passes (t : Table) (fields : Fields) (dates : DateReader) (r : Row) (name : String)
    (value : ParamValue) : Except InvalidDate Bool :=
  (Filter.translate fields dates [(name, value)]).result.map fun tr =>
    t.selects (.ofTranslation tr) r

section

variable {t : Table} {r : Row} {fields : Fields} {dates : DateReader}

/-- A query with one filter selects the rows for which its clause is true. -/
theorem passes_eq_decide {name : String} {value : ParamValue} {c : Filter.Clause}
    (h : Filter.effect fields dates name value = .ok (.clause c)) :
    t.passes fields dates r name value = .ok (decide (t.clauseTruth r c = some true)) := by
  -- one clause is one run, whichever conjunction it has
  have hone : t.Satisfies r [c] ↔ t.clauseTruth r c = some true := by
    simp [Table.Satisfies, Sql.runs, Sql.runsFrom]
  have hselects : t.selects (.ofTranslation (.ofEffects [.clause c])) r =
      decide (t.clauseTruth r c = some true) := by
    rw [Table.selects, Filter.ofTranslation_eq]
    have hclauses : (Filter.Translation.ofEffects [.clause c]).clauses = [c] := rfl
    simp only [hclauses, t.conditionsTruth_clauses, hone]
  rw [Table.passes, Filter.result_singleton h, ← hselects]
  rfl

theorem passes_of_effect {name : String} {value : ParamValue} {c : Filter.Clause} {b : Bool}
    (h : Filter.effect fields dates name value = .ok (.clause c))
    (hc : t.clauseTruth r c = some b) : t.passes fields dates r name value = .ok b := by
  rw [passes_eq_decide h, hc]
  simp only [Option.some.injEq, Bool.decide_eq_true]

variable {n : Name} {op : Operator}

theorem passes_single (h : fields.IsTextFilter n) {raw : String} (hraw : raw ≠ Filter.nullWord)
    {b : Bool} (hb : (t.operand r n.field).test (Operator.comparator n.operator)
      (Operator.comparedText n.operator raw) = some b) :
    t.passes fields dates r n.write (.single raw) = .ok b :=
  passes_of_effect (Filter.effect_single h hraw) hb

/-- In a row whose column is not null, a filter and its negation by the same value are opposites.
Under the operators for lists that holds of lists; a single value has to be equal under both. -/
theorem negated_filters_complement (h : fields.IsTextFilter n)
    (hop : Operator.negation? n.operator = some op) (hcell : (t.operand r n.field).cell ≠ .null) :
    (n.operator ≠ some .member → ∀ raw, raw ≠ Filter.nullWord → ∃ b,
      t.passes fields dates r n.write (.single raw) = .ok b ∧
      t.passes fields dates r (n.under op).write (.single raw) = .ok !b) ∧
    (n.operator = some .member →
      (∀ values, values ≠ [] → ∃ b,
        t.passes fields dates r n.write (.many values) = .ok b ∧
        t.passes fields dates r (n.under op).write (.many values) = .ok !b) ∧
      ∀ raw, raw ≠ Filter.nullWord → ∃ b, (t.operand r n.field).compare .eq raw = some b ∧
        t.passes fields dates r n.write (.single raw) = .ok b ∧
        t.passes fields dates r (n.under op).write (.single raw) = .ok b) := by
  have hnegated := h.negated hop
  constructor
  · intro hnotMember raw hraw
    obtain ⟨b, hb⟩ := Operand.exists_test hcell (Operator.comparator n.operator)
      (Operator.comparedText n.operator raw)
    refine ⟨b, passes_single h hraw hb, passes_single hnegated hraw ?_⟩
    -- the opposite comparison with the same text
    rw [Name.under, Operator.comparator_negation hop hnotMember,
      Operator.comparedText_negation hop, Operand.test_negation, hb]
    rfl
  · intro hmember
    obtain rfl : op = .notMember := by
      rw [hmember] at hop
      exact (Option.some.inj hop).symm
    constructor
    · intro values _
      obtain ⟨b, hb⟩ := Operand.exists_member hcell values
      refine ⟨b, passes_of_effect ((Filter.effect_many h values).1 hmember) hb,
        passes_of_effect ((Filter.effect_many hnegated values).2 rfl) ?_⟩
      rw [Table.clauseTruth]
      exact congrArg Truth.not hb
    · intro raw hraw
      -- on a single value both operators are compared by `.eq`, so nothing is negated
      obtain ⟨b, hb⟩ := Operand.exists_test hcell .eq raw
      refine ⟨b, hb, passes_single h hraw ?_, passes_single hnegated hraw hb⟩
      rw [hmember]
      exact hb

end

/-- A text match in any case and a list, each with its negation, on one post. -/
theorem title_filters_complement :
    ({ allowed := ["title"] } : Fields).IsTextFilter ⟨"title", some .startsWith, .or⟩ ∧
    ({ allowed := ["title"] } : Fields).IsTextFilter ⟨"title", some .member, .and⟩ ∧
    (∃ b,
      threePosts.passes { allowed := ["title"] } Filter.calendarReader ⟨1, [.integer 1, .text "b"]⟩
        "or_title_starts_with" (.single "B") = .ok b ∧
      threePosts.passes { allowed := ["title"] } Filter.calendarReader ⟨1, [.integer 1, .text "b"]⟩
        "or_title_not_starts_with" (.single "B") = .ok !b) ∧
    ∃ b,
      threePosts.passes { allowed := ["title"] } Filter.calendarReader ⟨1, [.integer 1, .text "b"]⟩
        "title_in" (.many ["a", "null"]) = .ok b ∧
      threePosts.passes { allowed := ["title"] } Filter.calendarReader ⟨1, [.integer 1, .text "b"]⟩
        "title_not_in" (.many ["a", "null"]) = .ok !b := by
  have hstarts : ({ allowed := ["title"] } : Fields).IsTextFilter
      ⟨"title", some .startsWith, .or⟩ :=
    ⟨⟨nofun, by decide, nofun⟩, by decide, by decide, by decide, by decide⟩
  have hmember : ({ allowed := ["title"] } : Fields).IsTextFilter ⟨"title", some .member, .and⟩ :=
    ⟨⟨nofun, by decide, by decide⟩, by decide, by decide, by decide, by decide⟩
  have hcell : (threePosts.operand ⟨1, [.integer 1, .text "b"]⟩ "title").cell ≠ .null := by decide
  obtain ⟨hsingle, -⟩ := @negated_filters_complement _ _ _ Filter.calendarReader _
    .notStartsWith hstarts rfl hcell
  obtain ⟨-, hlists⟩ := @negated_filters_complement _ _ _ Filter.calendarReader _
    .notMember hmember rfl hcell
  exact ⟨hstarts, hmember, hsingle (by decide) "B" (by decide),
    (hlists rfl).1 ["a", "null"] (by decide)⟩

def sortedPosts : Table :=
  { name := "posts",
    columns := [{ name := "id", type := "INTEGER", primaryKey := true },
      { name := "sort", type := "TEXT" }],
    rows := [⟨1, [.integer 1, .text "a"]⟩] }

/-- A single value under either operator for lists selects the post that has it. And the sort is no
filter, so it leaves in a post that the negated filter on the column selects. -/
theorem post_passes_both :
    ({ allowed := ["title"] } : Fields).IsTextFilter ⟨"title", some .member, .and⟩ ∧
    Operator.negation? (some .member) = some .notMember ∧
    (threePosts.operand ⟨1, [.integer 1, .text "b"]⟩ "title").cell ≠ .null ∧
    threePosts.passes { allowed := ["title"] } Filter.calendarReader ⟨1, [.integer 1, .text "b"]⟩
      "title_in" (.single "b") = .ok true ∧
    threePosts.passes { allowed := ["title"] } Filter.calendarReader ⟨1, [.integer 1, .text "b"]⟩
      "title_not_in" (.single "b") = .ok true ∧
    (⟨"sort", none, .and⟩ : Name).Unambiguous ∧
    Operator.negation? none = some .not ∧
    (sortedPosts.operand ⟨1, [.integer 1, .text "a"]⟩ "sort").cell ≠ .null ∧
    sortedPosts.passes { allowed := ["sort"] } Filter.calendarReader ⟨1, [.integer 1, .text "a"]⟩
      "sort" (.single "b") = .ok true ∧
    sortedPosts.passes { allowed := ["sort"] } Filter.calendarReader ⟨1, [.integer 1, .text "a"]⟩
      "sort_not" (.single "b") = .ok true := by
  refine ⟨⟨⟨nofun, by decide, by decide⟩, by decide, by decide, by decide, by decide⟩, rfl,
    by decide, by rfl, by rfl, ⟨?_, nofun, by decide⟩, rfl, by decide, by rfl, by rfl⟩
  intro _ op
  cases op <;> decide

end Store

end TableApi
