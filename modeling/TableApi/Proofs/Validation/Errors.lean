import Mathlib.Data.List.Induction
import TableApi.Proofs.Validation.Acceptance

/-!
The errors that validation reports. An entry of the rules reads one value and finds a list of
messages; the errors hold the messages of all entries, each field once, where its first entry that
finds anything stands.
-/

namespace TableApi.Validation

/-- A value that counts as missing: null, a string of blanks, and an empty array. -/
inductive IsBlank : Json → Prop
  | null : IsBlank .null
  | str {s : String} (h : ∀ c ∈ s.toList, Text.isBlank c = true) : IsBlank (.str s)
  | arr : IsBlank (.arr [])

def IsMissing (record : Record) (field : String) : Prop :=
  ∀ v, Entries.get? record field = some v → IsBlank v

/-- The message of a rule that a value fails among the rules of a field. -/
def complaint? (field : String) (rules : List Rule) (v : Json) (rule : Rule) : Option String :=
  rule.failure? v (RuleSet.label field) (rules.contains .integer || rules.contains .numeric)

/-- An entry of the rules has nothing against a record: its field may be absent, or its value is
missing and not required, or its value passes the check of every rule. -/
inductive Passes (record : Record) : String × List Rule → Prop
  | absent {field : String} {rules : List Rule} (habsent : Entries.get? record field = none)
    (hrule : .sometimes ∈ rules) : Passes record (field, rules)
  | optional {field : String} {rules : List Rule} (hmissing : IsMissing record field)
    (hrule : .required ∉ rules) : Passes record (field, rules)
  | checked {field : String} {rules : List Rule} {v : Json}
    (hv : Entries.get? record field = some v) (hfilled : ¬IsBlank v)
    (hrules : ∀ rule ∈ rules, complaint? field rules v rule = none) :
    Passes record (field, rules)

/-- The messages of an entry of the rules: none where it has nothing against the record, that of a
missing value, or those of all rules that the value fails, in the order of the rules. -/
inductive Finds (record : Record) : String × List Rule → List String → Prop
  | nothing {entry : String × List Rule} (h : Passes record entry) : Finds record entry []
  | missing {field : String} {rules : List Rule} (hmissing : IsMissing record field)
    (hpresent : Entries.get? record field = none → .sometimes ∉ rules)
    (hrule : .required ∈ rules) :
    Finds record (field, rules) ["The " ++ RuleSet.label field ++ " field is required."]
  | failed {field : String} {rules : List Rule} {v : Json}
    (hv : Entries.get? record field = some v) (hfilled : ¬IsBlank v) :
    Finds record (field, rules) (rules.filterMap (complaint? field rules v))

theorem isFilled_eq_false_iff {v : Json} : isFilled v = false ↔ IsBlank v := by
  constructor
  · intro h
    cases v with
    | null => exact .null
    | str s => exact .str (by simpa [isFilled, Text.allBlank] using h)
    | arr items =>
      obtain rfl : items = [] := by simpa [isFilled] using h
      exact .arr
    | bool | int | real | obj => cases h
  · rintro (_ | h | _)
    · rfl
    · simpa [isFilled, Text.allBlank] using h
    · rfl

namespace RuleSet

/-! ### One entry -/

theorem failures_of_absent {record : Record} {field : String} {rules : List Rule}
    (habsent : Entries.get? record field = none) (hrule : .sometimes ∈ rules) :
    failures record field rules = [] := by
  simp only [failures, habsent, Option.isNone_none, Bool.true_and, List.contains_iff_mem, hrule,
    if_true]

/-- Where nothing lets the field be absent, a missing value is looked at for being required. -/
theorem failures_of_missing {record : Record} {field : String} {rules : List Rule}
    (hmissing : IsMissing record field)
    (hpresent : Entries.get? record field = none → .sometimes ∉ rules) :
    failures record field rules =
      if .required ∈ rules then ["The " ++ label field ++ " field is required."] else [] := by
  have hnone : (Entries.get? record field).filter isFilled = none := by
    rw [Option.filter_eq_none_iff]
    intro v hv
    rw [isFilled_eq_false_iff.2 (hmissing v hv)]
    exact Bool.false_ne_true
  have hskip : ¬((Entries.get? record field).isNone && rules.contains .sometimes) = true := by
    rw [Bool.and_eq_true, Option.isNone_iff_eq_none, List.contains_iff_mem]
    exact fun h => hpresent h.1 h.2
  simp only [failures, if_neg hskip, hnone, List.contains_iff_mem]

theorem failures_of_filled {record : Record} {field : String} {rules : List Rule} {v : Json}
    (hv : Entries.get? record field = some v) (hfilled : ¬IsBlank v) :
    failures record field rules = rules.filterMap (complaint? field rules v) := by
  have htrue : isFilled v = true := by
    rw [← isFilled_eq_false_iff] at hfilled
    simpa using hfilled
  have hsome : (some v).filter isFilled = some v := by simp [htrue]
  simp only [failures, hv, hsome, Option.isNone_some, Bool.false_and, Bool.false_eq_true, if_false]
  rfl

theorem failures_of_passes {record : Record} {entry : String × List Rule}
    (h : Passes record entry) : failures record entry.1 entry.2 = [] := by
  cases h with
  | absent habsent hrule => exact failures_of_absent habsent hrule
  | @optional field rules hmissing hrule =>
    by_cases hskip : Entries.get? record field = none ∧ .sometimes ∈ rules
    · exact failures_of_absent hskip.1 hskip.2
    · rw [failures_of_missing hmissing fun hnone hmem => hskip ⟨hnone, hmem⟩, if_neg hrule]
  | checked hv hfilled hrules =>
    rw [failures_of_filled hv hfilled, List.filterMap_eq_nil_iff]
    exact hrules

/-- What an entry reports is what it finds. -/
theorem finds_failures (record : Record) (entry : String × List Rule) :
    Finds record entry (failures record entry.1 entry.2) := by
  obtain ⟨field, rules⟩ := entry
  by_cases hskip : Entries.get? record field = none ∧ .sometimes ∈ rules
  · have hpasses : Passes record (field, rules) := .absent hskip.1 hskip.2
    rw [failures_of_passes hpasses]
    exact .nothing hpasses
  have hpresent : Entries.get? record field = none → .sometimes ∉ rules :=
    fun hnone hmem => hskip ⟨hnone, hmem⟩
  by_cases hmissing : IsMissing record field
  · by_cases hrule : .required ∈ rules
    · rw [failures_of_missing hmissing hpresent, if_pos hrule]
      exact .missing hmissing hpresent hrule
    · have hpasses : Passes record (field, rules) := .optional hmissing hrule
      rw [failures_of_passes hpasses]
      exact .nothing hpasses
  · obtain ⟨v, hv, hfilled⟩ : ∃ v, Entries.get? record field = some v ∧ ¬IsBlank v := by
      simpa [IsMissing] using hmissing
    rw [failures_of_filled hv hfilled]
    exact .failed hv hfilled

/-- An entry reports nothing just when it has nothing against the record. -/
theorem failures_eq_nil_iff_passes {record : Record} {entry : String × List Rule} :
    failures record entry.1 entry.2 = [] ↔ Passes record entry := by
  refine ⟨fun h => ?_, failures_of_passes⟩
  have hfinds := finds_failures record entry
  rw [h] at hfinds
  generalize hnil : ([] : List String) = messages at hfinds
  cases hfinds with
  | nothing hpasses => exact hpasses
  | missing => cases hnil
  | failed hv hfilled => exact .checked hv hfilled (List.filterMap_eq_nil_iff.1 hnil.symm)

/-- An entry reads nothing of a record but the value of its field. -/
theorem failures_congr {record record' : Record} {field : String} (rules : List Rule)
    (h : Entries.get? record' field = Entries.get? record field) :
    failures record' field rules = failures record field rules := by
  simp only [failures, h]

end RuleSet

/-! ### Messages of one field -/

namespace FieldErrors

variable (errors : FieldErrors) (field : String) (messages : List String)

theorem names_foldl_add :
    Entries.names (messages.foldl (fun errors message => FieldErrors.add errors field message) errors) =
      if messages = [] ∨ field ∈ errors.names then errors.names else errors.names ++ [field] := by
  induction messages generalizing errors with
  | nil => simp
  | cons message rest ih =>
    rw [List.foldl_cons, ih, add, Entries.names_alter]
    by_cases h : field ∈ errors.names <;> simp [h]

theorem get?_foldl_add (key : String) :
    Entries.get? (messages.foldl (fun errors message => FieldErrors.add errors field message) errors) key =
      if key = field ∧ messages ≠ [] then some ((errors.get? field).getD [] ++ messages)
      else errors.get? key := by
  induction messages generalizing errors with
  | nil => simp
  | cons message rest ih =>
    rw [List.foldl_cons, ih, add, Entries.get?_alter, Entries.get?_alter]
    by_cases hkey : key = field
    · cases rest <;> simp [hkey]
    · simp [hkey]

/-- The first message stays the first, however many follow. -/
theorem first?_foldl_add {first : String} (h : errors.first? = some first) :
    first? (messages.foldl (fun errors message => FieldErrors.add errors field message) errors) =
      some first := by
  induction messages generalizing errors with
  | nil => exact h
  | cons message rest ih =>
    refine ih _ ?_
    obtain ⟨⟨name, found⟩, errors, rfl⟩ : ∃ x rest, errors = x :: rest :=
      List.exists_cons_of_ne_nil (by rintro rfl; cases h)
    have hfound : found.head? = some first := h
    show first? (add ((name, found) :: errors) field message) = some first
    rw [add, Entries.alter]
    split
    · simp [first?, hfound]
    · exact hfound

theorem first?_foldl_add_nil :
    first? (messages.foldl (fun errors message => FieldErrors.add errors field message) []) =
      messages.head? := by
  cases messages with
  | nil => rfl
  | cons message rest => exact first?_foldl_add _ field rest rfl

end FieldErrors

/-! ### All entries -/

namespace RuleSet

theorem validate_append (rules : RuleSet) (entry : String × List Rule) (record : Record) :
    validate (rules ++ [entry]) record =
      (failures record entry.1 entry.2).foldl (fun errors message => FieldErrors.add errors entry.1 message)
        (rules.validate record) := by
  rw [validate, List.foldl_append]
  rfl

/-- Each field has one place among the errors. -/
theorem nodup_names_validate (rules : RuleSet) (record : Record) :
    (rules.validate record).names.Nodup := by
  induction rules using List.reverseRecOn with
  | nil => exact List.nodup_nil
  | append_singleton rules entry ih =>
    rw [validate_append, FieldErrors.names_foldl_add]
    split
    · exact ih
    · rename_i h
      rw [not_or] at h
      rw [List.nodup_append]
      refine ⟨ih, List.pairwise_singleton _ _, ?_⟩
      intro name hname other hother
      rw [List.mem_singleton.1 hother]
      rintro rfl
      exact h.2 hname

/-- The fields stand in the order in which entries first find something against them. -/
theorem names_validate (rules : RuleSet) (record : Record) :
    (rules.validate record).names =
      ((rules.filter fun entry => failures record entry.1 entry.2 ≠ []).map Prod.fst).eraseDups := by
  induction rules using List.reverseRecOn with
  | nil => rfl
  | append_singleton rules entry ih =>
    rw [validate_append, FieldErrors.names_foldl_add, ih, List.filter_append, List.map_append,
      List.eraseDups_append]
    by_cases hfound : failures record entry.1 entry.2 = []
    · simp [hfound, List.removeAll]
    · simp only [List.mem_eraseDups, hfound, false_or]
      split <;> rename_i hmem <;>
        simp_all [List.removeAll, List.eraseDups_cons]

def messages (rules : RuleSet) (record : Record) (field : String) : List String :=
  (rules.filter fun entry => entry.1 = field).flatMap fun entry => failures record entry.1 entry.2

theorem messages_append (rules : RuleSet) (entry : String × List Rule) (record : Record)
    (field : String) :
    messages (rules ++ [entry]) record field =
      messages rules record field ++
        if entry.1 = field then failures record entry.1 entry.2 else [] := by
  by_cases h : entry.1 = field <;> simp [messages, h]

/-- The messages of a field are those of all its entries, in order. -/
theorem get?_validate (rules : RuleSet) (record : Record) (field : String) :
    (rules.validate record).get? field =
      if messages rules record field = [] then none else some (messages rules record field) := by
  induction rules using List.reverseRecOn with
  | nil => rfl
  | append_singleton rules entry ih =>
    rw [validate_append, FieldErrors.get?_foldl_add, messages_append]
    by_cases hfield : entry.1 = field
    · subst hfield
      rw [ih, if_pos rfl]
      by_cases hfound : failures record entry.1 entry.2 = []
      · simp [hfound]
      · by_cases hnone : messages rules record entry.1 = [] <;> simp [hfound, hnone]
    · rw [if_neg fun h => hfield h.1.symm, if_neg hfield, List.append_nil, ih]

/-- The message that stands for all is the first one found. -/
theorem first?_validate (rules : RuleSet) (record : Record) :
    (rules.validate record).first? =
      (rules.flatMap fun entry => failures record entry.1 entry.2).head? := by
  induction rules using List.reverseRecOn with
  | nil => rfl
  | append_singleton rules entry ih =>
    rw [validate_append, List.flatMap_append, List.flatMap_singleton]
    by_cases hnone : (rules.flatMap fun entry => failures record entry.1 entry.2) = []
    · have hempty : RuleSet.validate rules record = [] :=
        (validate_eq_nil_iff rules record).2 (List.flatMap_eq_nil_iff.1 hnone)
      rw [hempty, hnone, List.nil_append, FieldErrors.first?_foldl_add_nil]
    · obtain ⟨first, rest, hfirst⟩ := List.exists_cons_of_ne_nil hnone
      rw [hfirst] at ih ⊢
      exact FieldErrors.first?_foldl_add _ _ _ ih

/-- Validation reads nothing of a record but the values of the fields that have rules. -/
theorem validate_congr {rules : RuleSet} {record record' : Record}
    (h : ∀ entry ∈ rules, Entries.get? record' entry.1 = Entries.get? record entry.1) :
    rules.validate record' = rules.validate record := by
  induction rules using List.reverseRecOn with
  | nil => rfl
  | append_singleton rules entry ih =>
    obtain ⟨hrules, hentry⟩ := List.forall_mem_append.1 h
    rw [validate_append, validate_append, ih hrules,
      failures_congr entry.2 (hentry entry List.mem_cons_self)]

/-- Validation reports nothing just when every entry of the rules passes. What it reports is what the
entries find: each field once, in the order of the first entries that find anything, with the messages
of all its entries in their order, and the first of all messages stands for them. Nothing but the values
of the fields that have rules counts. -/
theorem errors_of_validation (rules : RuleSet) (record : Record) :
    (rules.validate record = [] ↔ ∀ entry ∈ rules, Passes record entry) ∧
    (rules.validate record).names.Nodup ∧
    (∃ found : List ((String × List Rule) × List String), found.map Prod.fst = rules ∧
      (∀ x ∈ found, Finds record x.1 x.2) ∧
      (rules.validate record).names =
        ((found.filter fun x => x.2 ≠ []).map fun x => x.1.1).eraseDups ∧
      (∀ x ∈ rules.validate record,
        x.2 = (found.filter fun y => y.1.1 = x.1).flatMap Prod.snd) ∧
      (rules.validate record).first? = (found.flatMap Prod.snd).head?) ∧
    ∀ record' : Record,
      (∀ entry ∈ rules, Entries.get? record' entry.1 = Entries.get? record entry.1) →
        rules.validate record' = rules.validate record := by
  have hnodup := nodup_names_validate rules record
  refine ⟨?_, hnodup, ?_, fun record' h => validate_congr h⟩
  · simp only [validate_eq_nil_iff, failures_eq_nil_iff_passes]
  · refine ⟨rules.map fun entry => (entry, failures record entry.1 entry.2), ?_, ?_, ?_, ?_, ?_⟩
    · rw [List.map_map]
      exact List.map_id rules
    · intro x hx
      obtain ⟨entry, -, rfl⟩ := List.mem_map.1 hx
      exact finds_failures record entry
    · rw [names_validate, List.filter_map, List.map_map]
      rfl
    · intro x hx
      have hget := Entries.get?_of_mem hnodup hx
      rw [get?_validate] at hget
      split at hget
      · cases hget
      · rw [← Option.some.inj hget, List.filter_map, List.flatMap_map]
        rfl
    · rw [first?_validate, List.flatMap_map]

def articleRules : RuleSet :=
  [("title", [.string]), ("tags", [.sometimes, .required]), ("title", [.oneOf ["a", "b"]])]

/-- The errors of a record are those of one with the fields in another order and a field more. -/
theorem errors_of_reordered_article :
    articleRules.validate [("other", .null), ("tags", .arr []), ("title", .int 5)] =
      [("title", ["The title must be a string.", "The selected title is invalid."]),
        ("tags", ["The tags field is required."])] ∧
    ¬ ∀ entry ∈ articleRules, Passes [("title", .int 5), ("tags", .arr [])] entry := by
  obtain ⟨hpasses, -, -, hother⟩ :=
    errors_of_validation articleRules [("title", .int 5), ("tags", .arr [])]
  have herrors : articleRules.validate [("title", .int 5), ("tags", .arr [])] =
      [("title", ["The title must be a string.", "The selected title is invalid."]),
        ("tags", ["The tags field is required."])] := by decide +kernel
  constructor
  · refine (hother _ fun entry hentry => ?_).trans herrors
    simp only [articleRules, List.mem_cons, List.not_mem_nil, or_false] at hentry
    obtain rfl | rfl | rfl := hentry <;> rfl
  · rw [← hpasses, herrors]
    exact List.cons_ne_nil _ _

end RuleSet

end TableApi.Validation
