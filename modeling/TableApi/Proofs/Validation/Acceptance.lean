import TableApi.Proofs.Entries
import TableApi.Validation.RuleSet

namespace TableApi

namespace Validation

/-- Whether the rules of a field accept a value that it is given: a blank one unless a value is
required, any other if no rule fails on it. -/
def Accepts (field : String) (rules : List Rule) (v : Json) : Prop :=
  if isFilled v then
    ∀ rule ∈ rules, rule.failure? v (RuleSet.label field)
      (rules.contains .integer || rules.contains .numeric) = none
  else .required ∉ rules

theorem FieldErrors.add_ne_nil (errors : FieldErrors) (field message : String) :
    errors.add field message ≠ [] := by
  cases errors with
  | nil => simp [add, Entries.alter]
  | cons x rest =>
    rw [add, Entries.alter]
    split <;> simp

/-- Messages stay once they are there. -/
theorem FieldErrors.foldl_add_eq_nil_iff (errors : FieldErrors) (field : String)
    (messages : List String) :
    messages.foldl (fun errors message => errors.add field message) errors = [] ↔
      errors = [] ∧ messages = [] := by
  induction messages generalizing errors with
  | nil => simp
  | cons message rest ih =>
    rw [List.foldl_cons, ih]
    simp [add_ne_nil]

theorem FieldErrors.get?_foldl_add_eq_none_iff (errors : FieldErrors) (name field : String)
    (messages : List String) :
    (messages.foldl (fun errors message => errors.add name message) errors).get? field = none ↔
      errors.get? field = none ∧ (name = field → messages = []) := by
  induction messages generalizing errors with
  | nil => simp
  | cons message rest ih =>
    rw [List.foldl_cons, ih, add, Entries.get?_alter]
    by_cases h : field = name
    · simp [h]
    · simp [h, Ne.symm h]

namespace RuleSet

/-- Validation reports nothing for a field just when no entry of the field finds anything. -/
theorem get?_validate_eq_none_iff (rules : RuleSet) (record : Record) (field : String) :
    (rules.validate record).get? field = none ↔
      ∀ entry ∈ rules, entry.1 = field → failures record entry.1 entry.2 = [] := by
  suffices h : ∀ errors : FieldErrors,
      (rules.foldl (fun errors entry => (failures record entry.1 entry.2).foldl
        (fun errors message => errors.add entry.1 message) errors) errors).get? field = none ↔
      errors.get? field = none ∧
        ∀ entry ∈ rules, entry.1 = field → failures record entry.1 entry.2 = [] by
    exact (h []).trans (and_iff_right rfl)
  intro errors
  induction rules generalizing errors with
  | nil => simp
  | cons entry rest ih =>
    rw [List.foldl_cons, ih, FieldErrors.get?_foldl_add_eq_none_iff, List.forall_mem_cons, and_assoc]

/-- Validation finds nothing just when no entry does. -/
theorem validate_eq_nil_iff (rules : RuleSet) (record : Record) :
    rules.validate record = [] ↔ ∀ entry ∈ rules, failures record entry.1 entry.2 = [] := by
  suffices h : ∀ errors : FieldErrors,
      rules.foldl (fun errors entry => (failures record entry.1 entry.2).foldl
        (fun errors message => errors.add entry.1 message) errors) errors = [] ↔
      errors = [] ∧ ∀ entry ∈ rules, failures record entry.1 entry.2 = [] by
    exact (h []).trans (and_iff_right rfl)
  intro errors
  induction rules generalizing errors with
  | nil => simp
  | cons entry rest ih =>
    rw [List.foldl_cons, ih, FieldErrors.foldl_add_eq_nil_iff, List.forall_mem_cons, and_assoc]

/-- An entry whose field is present finds nothing just when its rules accept the value. -/
theorem failures_eq_nil_iff {record : Record} {field : String} {rules : List Rule} {v : Json}
    (h : Entries.get? record field = some v) :
    failures record field rules = [] ↔ Accepts field rules v := by
  simp only [failures, h, Option.isNone_some, Bool.false_and, Bool.false_eq_true, if_false]
  by_cases hfilled : isFilled v = true
  · have hsome : Option.filter isFilled (some v) = some v := by simp [hfilled]
    simp [hsome, Accepts, hfilled, List.filterMap_eq_nil_iff]
  · have hnone : Option.filter isFilled (some v) = none := by simp [hfilled]
    simp [hnone, Accepts, hfilled]

/-- What passes validation under the name of a field is a value that its rules accept. -/
theorem accepts_of_validate {rules : RuleSet} {record : Record}
    (h : rules.validate record = []) (hnames : record.names.Nodup) {field : String}
    {fieldRules : List Rule} (hrules : (field, fieldRules) ∈ rules) {v : Json}
    (hv : (field, v) ∈ record) : Accepts field fieldRules v := by
  have hfailures := (validate_eq_nil_iff rules record).1 h (field, fieldRules) hrules
  exact (failures_eq_nil_iff (Entries.get?_of_mem hnames hv)).1 hfailures

end RuleSet

end Validation

end TableApi
