import Mathlib.Data.List.TakeWhile
import TableApi.Proofs.Filter.Negation

/-!
Text matches. A pattern stands for texts, and it stands for those of its parts one after the other,
so a wildcard at an end of a value lets any text stand there. The matcher reads a pattern and a text
up to their first NUL, and so a wildcard behind a value with a NUL is lost.
-/

namespace TableApi

namespace Store

/-! ### Texts that a pattern stands for -/

/-- `%` stands for any text, `_` for any character and every other character for its letter. -/
inductive Matches : List Char → List Char → Prop
  | nil : Matches [] []
  | any (x : List Char) {p s : List Char} : Matches p s → Matches ('%' :: p) (x ++ s)
  | one (c : Char) {p s : List Char} : Matches p s → Matches ('_' :: p) (c :: s)
  | letter {c d : Char} {p s : List Char} :
    c ≠ '%' → c ≠ '_' → folded c = folded d → Matches p s → Matches (c :: p) (d :: s)

theorem matches_nil_iff {s : List Char} : Matches [] s ↔ s = [] := by
  constructor
  · rintro ⟨⟩
    rfl
  · rintro rfl
    exact .nil

theorem matches_any_iff {p s : List Char} :
    Matches ('%' :: p) s ↔ ∃ x t, s = x ++ t ∧ Matches p t := by
  constructor
  · intro h
    cases h with
    | any x h => exact ⟨x, _, rfl, h⟩
    | letter hany => exact absurd rfl hany
  · rintro ⟨x, t, rfl, h⟩
    exact .any x h

theorem matches_one_iff {p s : List Char} :
    Matches ('_' :: p) s ↔ ∃ c t, s = c :: t ∧ Matches p t := by
  constructor
  · intro h
    cases h with
    | one c h => exact ⟨c, _, rfl, h⟩
    | letter _ hone => exact absurd rfl hone
  · rintro ⟨c, t, rfl, h⟩
    exact .one c h

theorem matches_letter_iff {c : Char} {p s : List Char} (hany : c ≠ '%') (hone : c ≠ '_') :
    Matches (c :: p) s ↔ ∃ d t, s = d :: t ∧ folded c = folded d ∧ Matches p t := by
  constructor
  · intro h
    cases h with
    | any => exact absurd rfl hany
    | one => exact absurd rfl hone
    | letter _ _ hc h => exact ⟨_, _, rfl, hc, h⟩
  · rintro ⟨d, t, rfl, hc, h⟩
    exact .letter hany hone hc h

/-- What two wildcards in a row stand for, one does. -/
theorem matches_any_any_iff {p s : List Char} :
    Matches ('%' :: '%' :: p) s ↔ Matches ('%' :: p) s := by
  rw [matches_any_iff]
  constructor
  · rintro ⟨x, t, rfl, h⟩
    obtain ⟨y, u, rfl, hp⟩ := matches_any_iff.1 h
    exact matches_any_iff.2 ⟨x ++ y, u, (List.append_assoc ..).symm, hp⟩
  · intro h
    exact ⟨[], s, rfl, h⟩

theorem anyTail_eq_true_iff {p : List Char → Bool} {s : List Char} :
    Text.anyTail p s = true ↔ ∃ x t, s = x ++ t ∧ p t = true := by
  induction s with
  | nil => simp [Text.anyTail]
  | cons c s ih =>
    rw [Text.anyTail, Bool.or_eq_true, ih]
    constructor
    · rintro (h | ⟨x, t, rfl, h⟩)
      · exact ⟨[], c :: s, rfl, h⟩
      · exact ⟨c :: x, t, rfl, h⟩
    · rintro ⟨x, t, hs, h⟩
      cases x with
      | nil =>
        obtain rfl : c :: s = t := hs
        exact .inl h
      | cons d x =>
        obtain ⟨rfl, rfl⟩ := List.cons.inj hs
        exact .inr ⟨x, t, rfl, h⟩

/-- The matcher accepts just the texts that the pattern stands for. -/
theorem like_eq_true_iff {p s : List Char} : like p s = true ↔ Matches p s := by
  induction p generalizing s with
  | nil => rw [like, List.isEmpty_iff, matches_nil_iff]
  | cons c p ih =>
    by_cases hany : c = '%'
    · subst hany
      by_cases hdouble : ∃ q, p = '%' :: q
      · obtain ⟨q, rfl⟩ := hdouble
        rw [like, ih, matches_any_any_iff]
      · rw [like, anyTail_eq_true_iff, matches_any_iff]
        · simp only [ih]
        · intro q hq
          exact hdouble ⟨q, hq⟩
    · by_cases hone : c = '_'
      · subst hone
        cases s with
        | nil => simp [like, matches_one_iff]
        | cons d s => simp [like, matches_one_iff, ih]
      · rw [matches_letter_iff hany hone]
        cases s with
        | nil => simp [like, hany]
        | cons d s => simp [like, hany, sameLetter, ih]

/-- The parts of a pattern stand for the parts of a text. -/
theorem matches_append_iff {p q s : List Char} :
    Matches (p ++ q) s ↔ ∃ a b, s = a ++ b ∧ Matches p a ∧ Matches q b := by
  constructor
  · induction p generalizing s with
    | nil =>
      intro h
      exact ⟨[], s, rfl, .nil, h⟩
    | cons c p ih =>
      intro h
      cases h with
      | any x h =>
        obtain ⟨a, b, rfl, ha, hb⟩ := ih h
        exact ⟨x ++ a, b, (List.append_assoc ..).symm, .any x ha, hb⟩
      | one d h =>
        obtain ⟨a, b, rfl, ha, hb⟩ := ih h
        exact ⟨d :: a, b, rfl, .one d ha, hb⟩
      | letter hany hone hc h =>
        obtain ⟨a, b, rfl, ha, hb⟩ := ih h
        exact ⟨_ :: a, b, rfl, .letter hany hone hc ha, hb⟩
  · rintro ⟨a, b, rfl, ha, hb⟩
    induction ha with
    | nil => exact hb
    | any x _ ih =>
      rw [List.cons_append, List.append_assoc]
      exact .any x ih
    | one c _ ih => exact .one c ih
    | letter hany hone hc _ ih => exact .letter hany hone hc ih

/-- A wildcard alone stands for every text. -/
theorem matches_wildcard (s : List Char) : Matches ['%'] s := by
  have h := Matches.any s .nil
  rwa [List.append_nil] at h

/-- A value without wildcards stands for the texts of its letters. -/
theorem matches_literal_iff {v m : List Char} (h : ∀ c ∈ v, c ≠ '%' ∧ c ≠ '_') :
    Matches v m ↔ m.map folded = v.map folded := by
  induction v generalizing m with
  | nil => rw [matches_nil_iff, List.map_nil, List.map_eq_nil_iff]
  | cons c v ih =>
    obtain ⟨⟨hany, hone⟩, hv⟩ := List.forall_mem_cons.1 h
    rw [matches_letter_iff hany hone, List.map_cons, List.map_eq_cons_iff]
    constructor
    · rintro ⟨d, t, rfl, hc, ht⟩
      exact ⟨d, t, rfl, hc.symm, (ih hv).1 ht⟩
    · rintro ⟨d, t, rfl, hc, ht⟩
      exact ⟨d, t, rfl, hc.symm, (ih hv).2 ht⟩

/-! ### Texts that a filter finds -/

open TableApi.Filter (DateReader Fields Name Operator ParamValue)

/-- The characters of a text that the matcher reads: those before the first NUL. -/
def visible (s : String) : List Char := s.toList.takeWhile (· != '\x00')

theorem ne_nul_of_no_nul {s : String} (h : '\x00' ∉ s.toList) :
    ∀ c ∈ s.toList, (c != '\x00') = true := by
  intro c hc
  rw [bne_iff_ne]
  rintro rfl
  exact h hc

theorem visible_append_of_no_nul {a : String} (h : '\x00' ∉ a.toList) (b : String) :
    visible (a ++ b) = a.toList ++ visible b := by
  rw [visible, String.toList_append, List.takeWhile_append_of_pos (ne_nul_of_no_nul h)]
  rfl

theorem visible_of_no_nul {s : String} (h : '\x00' ∉ s.toList) : visible s = s.toList :=
  List.takeWhile_eq_self_iff.2 (ne_nul_of_no_nul h)

theorem visible_append_of_nul {a : String} (h : '\x00' ∈ a.toList) (b : String) :
    visible (a ++ b) = visible a := by
  rw [visible, String.toList_append, List.takeWhile_append, if_neg]
  · rfl
  · intro hlength
    -- a text that is read to its end has no NUL
    have hall := (List.takeWhile_prefix (· != '\x00')).eq_of_length hlength
    have hne := List.takeWhile_eq_self_iff.1 hall _ h
    exact absurd hne (by decide)

/-- What a text match looks for in a text, negated or not: something that its value stands for,
anywhere, at the start or at the end. Behind what a value with a NUL stands for nothing is left. -/
def Finds (op : Operator) (v s : String) : Prop :=
  match op with
  | .contains | .notContains =>
    ∃ x m y, visible s = x ++ m ++ y ∧ Matches (visible v) m ∧ ('\x00' ∈ v.toList → y = [])
  | .startsWith | .notStartsWith =>
    ∃ m y, visible s = m ++ y ∧ Matches (visible v) m ∧ ('\x00' ∈ v.toList → y = [])
  | .endsWith | .notEndsWith => ∃ x m, visible s = x ++ m ∧ Matches (visible v) m
  | _ => False

def FindsLetters (op : Operator) (v s : String) : Prop :=
  match op with
  | .contains | .notContains => v.toList.map folded <:+: (visible s).map folded
  | .startsWith | .notStartsWith => v.toList.map folded <+: (visible s).map folded
  | .endsWith | .notEndsWith => v.toList.map folded <:+ (visible s).map folded
  | _ => False

theorem matches_before_iff {v : String} {s : List Char} :
    Matches (visible ("%" ++ v)) s ↔ ∃ x m, s = x ++ m ∧ Matches (visible v) m := by
  rw [visible_append_of_no_nul (by decide)]
  exact matches_any_iff

theorem matches_behind_iff {v : String} {s : List Char} :
    Matches (visible (v ++ "%")) s ↔
      ∃ m y, s = m ++ y ∧ Matches (visible v) m ∧ ('\x00' ∈ v.toList → y = []) := by
  by_cases hnul : '\x00' ∈ v.toList
  · rw [visible_append_of_nul hnul]
    constructor
    · intro h
      exact ⟨s, [], (List.append_nil s).symm, h, fun _ => rfl⟩
    · rintro ⟨m, y, rfl, h, hy⟩
      rwa [hy hnul, List.append_nil]
  · rw [visible_append_of_no_nul hnul, visible_of_no_nul hnul]
    constructor
    · intro h
      obtain ⟨m, y, hs, hm, -⟩ := matches_append_iff.1 h
      exact ⟨m, y, hs, hm, fun hmem => absurd hmem hnul⟩
    · rintro ⟨m, y, hs, hm, -⟩
      exact matches_append_iff.2 ⟨m, y, hs, hm, matches_wildcard y⟩

/-- The wildcards around a value say where in the text it is looked for. -/
theorem matches_pattern_iff {op : Operator} (hop : op.isTextMatch = true) (v s : String) :
    Matches (visible (op.pattern v)) (visible s) ↔ Finds op v s := by
  have haround : Matches (visible ("%" ++ v ++ "%")) (visible s) ↔
      ∃ x m y, visible s = x ++ m ++ y ∧ Matches (visible v) m ∧
        ('\x00' ∈ v.toList → y = []) := by
    rw [String.append_assoc, matches_before_iff]
    simp only [matches_behind_iff, List.append_assoc]
    constructor
    · rintro ⟨x, t, hs, m, y, rfl, h⟩
      exact ⟨x, m, y, hs, h⟩
    · rintro ⟨x, m, y, hs, h⟩
      exact ⟨x, m ++ y, hs, m, y, rfl, h⟩
  cases op with
  | contains | notContains => exact haround
  | startsWith | notStartsWith => exact matches_behind_iff
  | endsWith | notEndsWith => exact matches_before_iff
  | _ => cases hop

/-- Without wildcards and NUL in it, a value is looked for letter by letter. -/
theorem finds_iff_findsLetters {v : String} (hliteral : ∀ c ∈ v.toList, c ≠ '%' ∧ c ≠ '_')
    (hnul : '\x00' ∉ v.toList) (op : Operator) (s : String) :
    Finds op v s ↔ FindsLetters op v s := by
  have hmatches (m : List Char) : Matches (visible v) m ↔ v.toList.map folded = m.map folded := by
    rw [visible_of_no_nul hnul, matches_literal_iff hliteral, eq_comm]
  have haround : (∃ x m y, visible s = x ++ m ++ y ∧ Matches (visible v) m ∧
      ('\x00' ∈ v.toList → y = [])) ↔ v.toList.map folded <:+: (visible s).map folded := by
    rw [List.infix_map_iff]
    constructor
    · rintro ⟨x, m, y, hs, h, -⟩
      exact ⟨m, ⟨x, y, hs.symm⟩, (hmatches m).1 h⟩
    · rintro ⟨m, ⟨x, y, hs⟩, h⟩
      exact ⟨x, m, y, hs.symm, (hmatches m).2 h, fun hmem => absurd hmem hnul⟩
  have hstart : (∃ m y, visible s = m ++ y ∧ Matches (visible v) m ∧
      ('\x00' ∈ v.toList → y = [])) ↔ v.toList.map folded <+: (visible s).map folded := by
    rw [List.prefix_map_iff]
    constructor
    · rintro ⟨m, y, hs, h, -⟩
      exact ⟨m, ⟨y, hs.symm⟩, (hmatches m).1 h⟩
    · rintro ⟨m, ⟨y, hs⟩, h⟩
      exact ⟨m, y, hs.symm, (hmatches m).2 h, fun hmem => absurd hmem hnul⟩
  have hend : (∃ x m, visible s = x ++ m ∧ Matches (visible v) m) ↔
      v.toList.map folded <:+ (visible s).map folded := by
    rw [List.suffix_map_iff]
    constructor
    · rintro ⟨x, m, hs, h⟩
      exact ⟨m, ⟨x, hs.symm⟩, (hmatches m).1 h⟩
    · rintro ⟨m, ⟨x, hs⟩, h⟩
      exact ⟨x, m, hs.symm, (hmatches m).2 h⟩
  cases op with
  | contains | notContains => exact haround
  | startsWith | notStartsWith => exact hstart
  | endsWith | notEndsWith => exact hend
  | _ => exact Iff.rfl

end Store

/-! ### Filters by patterns -/

namespace Filter

structure Fields.IsTextMatch (fields : Fields) (parameter : String) (op : Operator) : Prop where
  operator : (Name.read parameter).operator = some op
  textMatch : op.isTextMatch = true
  allowed : (Name.read parameter).field ∈ fields.allowed
  text : (Name.read parameter).field ∉ fields.dates

/-- A text match leaves a clause with the pattern of its value, and never a null test. -/
theorem effect_textMatch {fields : Fields} (dates : DateReader) {parameter : String}
    {op : Operator} (h : fields.IsTextMatch parameter op) (raw : String) :
    effect fields dates parameter (.single raw) = .ok (.clause {
      field := (Name.read parameter).field
      conjunction := (Name.read parameter).conjunction
      predicate := .compare (Operator.comparator (some op)) (.text (op.pattern raw)) }) := by
  have hallows : fields.allows (Name.read parameter).field = true :=
    List.contains_iff_mem.2 h.allowed
  have hisDate : fields.isDate (Name.read parameter).field = false := by
    simpa [Fields.isDate] using h.text
  have hnull := Operator.pattern_ne_nullWord h.textMatch raw
  -- the reserved names have no operator
  have hreserved : ∀ name ∈ [sortName, limitName], (Name.read name).operator = none := by decide
  have hoperator := h.operator
  have hsort : parameter ≠ sortName := by
    rintro rfl
    rw [hreserved sortName (by decide)] at hoperator
    cases hoperator
  have hlimit : parameter ≠ limitName := by
    rintro rfl
    rw [hreserved limitName (by decide)] at hoperator
    cases hoperator
  rw [effect_filter hsort hlimit]
  simp [filterEffect, hallows, scalarPredicate, hisDate, h.operator, h.textMatch,
    ClauseValue.bound, hnull]
  rfl

end Filter

namespace Store

open TableApi.Filter (DateReader Fields Name Operator)

section

variable {t : Table} {r : Row} {fields : Fields} {dates : DateReader} {parameter : String}
  {op : Operator}

theorem matchesPattern_text {x : Operand} {s : String} (hx : x.cell = .text s) (pattern : String) :
    x.matchesPattern pattern = some (like (visible pattern) (visible s)) := by
  rw [Operand.matchesPattern, hx]
  rfl

theorem matchesPattern_null {x : Operand} (hx : x.cell = .null) (pattern : String) :
    x.matchesPattern pattern = none := by
  rw [Operand.matchesPattern, hx]
  rfl

variable (dates) in
/-- A filter by a pattern selects the rows whose column holds a text in which it finds its value, or,
negated, those in which it does not, and no row whose column is null. -/
theorem text_matches_select (h : fields.IsTextMatch parameter op) (v : String) :
    (∀ s, (t.operand r (Name.read parameter).field).cell = .text s →
      ∃ b, t.passes fields dates r parameter (.single v) = .ok b ∧
        (op ∈ [.contains, .startsWith, .endsWith] → (b = true ↔ Finds op v s)) ∧
        (op ∈ [.notContains, .notStartsWith, .notEndsWith] → (b = true ↔ ¬Finds op v s)) ∧
        ((∀ c ∈ v.toList, c ≠ '%' ∧ c ≠ '_' ∧ c ≠ '\x00') →
          (Finds op v s ↔ FindsLetters op v s))) ∧
    ((t.operand r (Name.read parameter).field).cell = .null →
      t.passes fields dates r parameter (.single v) = .ok false) := by
  have heffect := Filter.effect_textMatch dates h v
  constructor
  · intro s hcell
    have hmatches := matchesPattern_text hcell (op.pattern v)
    have hfinds : like (visible (op.pattern v)) (visible s) = true ↔ Finds op v s :=
      like_eq_true_iff.trans (matches_pattern_iff h.textMatch v s)
    have hletters (hv : ∀ c ∈ v.toList, c ≠ '%' ∧ c ≠ '_' ∧ c ≠ '\x00') :
        Finds op v s ↔ FindsLetters op v s := by
      have hliteral : ∀ c ∈ v.toList, c ≠ '%' ∧ c ≠ '_' := fun c hc => ⟨(hv c hc).1, (hv c hc).2.1⟩
      exact finds_iff_findsLetters hliteral (fun hnul => (hv _ hnul).2.2 rfl) op s
    -- the operator says whether the match is negated
    cases op with
    | contains | startsWith | endsWith =>
      exact ⟨_, passes_of_effect heffect hmatches, fun _ => hfinds, by simp, hletters⟩
    | notContains | notStartsWith | notEndsWith =>
      refine ⟨_, passes_of_effect heffect (congrArg Truth.not hmatches), by simp, ?_, hletters⟩
      intro _
      rw [Bool.not_eq_true', ← Bool.not_eq_true, hfinds]
    | _ => cases h.textMatch
  · intro hcell
    have hmatches := matchesPattern_null hcell (op.pattern v)
    have hunknown : (t.operand r (Name.read parameter).field).test
        (Operator.comparator (some op)) (op.pattern v) = none := by
      cases op with
      | contains | startsWith | endsWith => exact hmatches
      | notContains | notStartsWith | notEndsWith => exact congrArg Truth.not hmatches
      | _ => cases h.textMatch
    rw [passes_eq_decide heffect, Table.clauseTruth]
    exact congrArg (fun truth => Except.ok (decide (truth = some true))) hunknown

end

/-- A value that is found in other case, in the middle of a title and under OR; it is a word that no
text match takes for a null test. -/
theorem nullable_title_found :
    ({ allowed := ["title"] } : Fields).IsTextMatch "or_title_contains" .contains ∧
    (threePosts.operand ⟨1, [.integer 1, .text "Is NULLable"]⟩ "title").cell =
      .text "Is NULLable" ∧
    threePosts.passes { allowed := ["title"] } Filter.calendarReader
      ⟨1, [.integer 1, .text "Is NULLable"]⟩ "or_title_contains" (.single "null") = .ok true := by
  have hfilter : ({ allowed := ["title"] } : Fields).IsTextMatch "or_title_contains" .contains :=
    ⟨by decide, rfl, by decide, by decide⟩
  have hcell : (threePosts.operand ⟨1, [.integer 1, .text "Is NULLable"]⟩
      (Name.read "or_title_contains").field).cell = .text "Is NULLable" := by decide
  obtain ⟨b, hpasses, hfinds, -, hletters⟩ :=
    (text_matches_select Filter.calendarReader hfilter "null").1 _ hcell
  have hfound : FindsLetters .contains "null" "Is NULLable" :=
    ⟨"is ".toList, "able".toList, by decide⟩
  have hplain : ∀ c ∈ "null".toList, c ≠ '%' ∧ c ≠ '_' ∧ c ≠ '\x00' := by simp
  obtain rfl : b = true := (hfinds (by decide)).2 ((hletters hplain).2 hfound)
  exact ⟨hfilter, hcell, hpasses⟩

/-- A title that does not contain a value is found when the value has a NUL: only what stands before it
is looked for. And two characters are found for each other that differ in more than their case. -/
theorem title_found_without_value :
    ({ allowed := ["title"] } : Fields).IsTextMatch "title_contains" .contains ∧
    threePosts.passes { allowed := ["title"] } Filter.calendarReader
      ⟨1, [.integer 1, .text "xa"]⟩ "title_contains" (.single "a\x00b") = .ok true ∧
    (¬∃ x m y, "xa".toList = x ++ m ++ y ∧ Matches "a\x00b".toList m) ∧
    threePosts.passes { allowed := ["title"] } Filter.calendarReader
      ⟨1, [.integer 1, .text "\uFFFF"]⟩ "title_contains" (.single "\uFFFE") = .ok true ∧
    ¬"\uFFFE".toList.map Char.toLower <:+: "\uFFFF".toList.map Char.toLower := by
  refine ⟨⟨by decide, rfl, by decide, by decide⟩, by rfl, ?_, by rfl, by decide⟩
  rintro ⟨x, m, y, hs, hm⟩
  have hliteral : ∀ c ∈ "a\x00b".toList, c ≠ '%' ∧ c ≠ '_' := by simp
  have hletters := (matches_literal_iff hliteral).1 hm
  have hlength : m.length = 3 := by
    rw [← List.length_map (f := folded), hletters]
    rfl
  have htotal := congrArg List.length hs
  simp only [List.length_append, hlength] at htotal
  have htwo : "xa".toList.length = 2 := rfl
  omega

end Store

end TableApi
