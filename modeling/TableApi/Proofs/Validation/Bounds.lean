import TableApi.Proofs.Json.Values
import TableApi.Proofs.Number.Reading
import TableApi.Proofs.Text.Cuts
import TableApi.Proofs.Validation.Acceptance

/-!
Bounds on numbers. A value that passes a numeric rule denotes a rational, unless it is a word for
infinity or for what is no number. It is compared with a bound as the nearest number to each, so a
bound can only be missed by what is rounded to the same number; integers do not miss bounds of up to
fifty-three binary digits, and an infinity only passes a bound that is rounded to it.
-/

namespace TableApi.Validation

/-! ### What values denote -/

/-- The rational that a number, or a text that spells one, denotes. -/
inductive Denotes : Json → ℚ → Prop
  | int (i : Int) : Denotes (.int i) i
  | real {x : Binary64} {a : Int} (h : x.scaled? = some a) : Denotes (.real x) (a / Binary64.unit)
  | numeral {s : String} {n : Numeral} (h : Numeral.read? (Text.trimChars s.toList) = some n) :
    Denotes (.str s) n.value

def IsInfinity (negative : Bool) (v : Json) : Prop :=
  ∃ s, v = .str s ∧ Binary64.IsInfinityWord negative (Text.trimChars s.toList)

def IsNan (v : Json) : Prop := ∃ s, v = .str s ∧ Binary64.IsNanWord (Text.trimChars s.toList)

def SameNumber (q r : ℚ) : Prop := (Binary64.ofRat q).position = (Binary64.ofRat r).position

variable {v : Json}

theorem exists_scaled_of_isFinite {x : Binary64} (h : x.isFinite = true) :
    ∃ a, x.scaled? = some a := by
  cases x with
  | nan => cases h
  | infinite => cases h
  | finite negative m e => cases negative <;> exact ⟨_, rfl⟩

/-- The number of a value is the nearest to what the value denotes, or the infinity that it is a word
for. -/
theorem denotes_of_number? {x : Binary64} (h : number? v = some x) (hfits : v.Fits)
    (hnan : ¬IsNan v) :
    x.IsDouble ∧ ((∃ q, Denotes v q ∧ x.position = (Binary64.ofRat q).position) ∨
      ∃ negative, IsInfinity negative v ∧ x = .infinite negative) := by
  cases v with
  | null | bool | arr | obj => cases h
  | int i =>
    obtain rfl := Option.some.inj h
    obtain ⟨hdouble, hposition⟩ := Binary64.ofInt_spec i
    exact ⟨hdouble, .inl ⟨i, .int i, hposition⟩⟩
  | real y =>
    obtain rfl := Option.some.inj h
    obtain ⟨hdouble, hfinite⟩ : y.IsNumber := by
      cases hfits with
      | real hnumber => exact hnumber
    obtain ⟨a, ha⟩ := exists_scaled_of_isFinite hfinite
    exact ⟨hdouble, .inl ⟨_, .real ha, (Binary64.position_of_scaled hdouble ha).symm⟩⟩
  | str s =>
    rcases Binary64.read?_cases h with ⟨n, hn, rfl⟩ | ⟨negative, hword, rfl⟩ | hword
    · obtain ⟨hdouble, hposition⟩ := n.toBinary64_spec
      exact ⟨hdouble, .inl ⟨n.value, .numeral hn, hposition⟩⟩
    · exact ⟨trivial, .inr ⟨negative, ⟨s, rfl, hword⟩, rfl⟩⟩
    · exact absurd ⟨s, rfl, hword⟩ hnan

theorem exists_number?_of_isInteger (h : isInteger v = true) : ∃ x, number? v = some x := by
  cases v with
  | null | bool | arr | obj | real => cases h
  | int i => exact ⟨_, rfl⟩
  | str s =>
    obtain ⟨n, hn⟩ := exists_numeral_of_signed64 h
    exact ⟨_, Binary64.read?_of_numeral hn⟩

/-! ### Rules with bounds -/

def Rule.Bounds (text name : String) (bound : ℚ) : Prop :=
  ∃ argument n, Rule.splitArgument (Text.trimChars text.toList) = (name.toList, some argument) ∧
    Numeral.read? (Text.trimChars argument) = some n ∧ n.value = bound

def Includes (rules : List Rule) (text : String) : Prop :=
  ∃ rule ∈ rules, Rule.read text = .ok rule

section

variable {text : String} {bound : ℚ} {rule : Rule}

theorem readBound_of_numeral {name : String} {argument : List Char} {n : Numeral}
    (h : Numeral.read? (Text.trimChars argument) = some n) :
    Rule.readBound name (some argument) = .ok n.toBinary64 := by
  rw [Rule.readBound, Binary64.read?_of_numeral h]

/-- The numeral of an integer after the name of a rule gives the integer as a bound. -/
theorem Rule.bounds_of_int {name : String} (hname : name = "min" ∨ name = "max") (i : Int) :
    Rule.Bounds (name ++ ":" ++ toString i) name i := by
  have hblank : ∀ c ∈ name.toList, (!Text.isBlank c) = true := by
    rw [← List.all_eq_true]
    rcases hname with rfl | rfl <;> rfl
  have hcolon : ':' ∉ name.toList := by
    rcases hname with rfl | rfl <;> decide
  have htext : (name ++ ":" ++ toString i).toList = name.toList ++ ':' :: (toString i).toList := by
    simp [String.toList_append]
  have htrim : Text.trimChars (name ++ ":" ++ toString i).toList =
      name.toList ++ ':' :: (toString i).toList := by
    rw [htext, Text.trimChars_of_forall]
    intro c hc
    rcases List.mem_append.1 hc with hc | hc
    · exact Bool.not_eq_true' _ ▸ hblank c hc
    · rcases List.mem_cons.1 hc with rfl | hc
      · decide
      · exact Numeral.isBlank_of_mem_toString c hc
  refine ⟨(toString i).toList, _, ?_, ?_, Numeral.value_toString (Numeral.read?_toString i)⟩
  · rw [htrim, Rule.splitArgument, Text.cutAt?_append hcolon]
  · rw [Text.trimChars_of_forall Numeral.isBlank_of_mem_toString]
    exact Numeral.read?_toString i

/-- The rule of such a text compares with the number nearest to the bound. -/
theorem Rule.Bounds.read {name : String} (h : Rule.Bounds text name bound) :
    ∃ x, x.IsDouble ∧ x.position = (Binary64.ofRat bound).position ∧
      (name = "min" → Rule.read text = .ok (.min x)) ∧
      (name = "max" → Rule.read text = .ok (.max x)) := by
  obtain ⟨argument, n, hsplit, hn, rfl⟩ := h
  obtain ⟨hdouble, hposition⟩ := n.toBinary64_spec
  refine ⟨n.toBinary64, hdouble, hposition, ?_, ?_⟩
  · rintro rfl
    simp only [Rule.read, hsplit, String.ofList_toList, readBound_of_numeral hn]
    rfl
  · rintro rfl
    simp only [Rule.read, hsplit, String.ofList_toList, readBound_of_numeral hn]
    rfl

end

/-! ### Accepted values -/

theorem size_of_number? {x : Binary64} (h : number? v = some x) :
    Size.of? v true = some (.amount x) := by
  cases v with
  | null | bool | arr | obj => cases h
  | int | real | str => simp [Size.of?, h]

section

variable {x bound : Binary64} {label : String}

theorem le_of_min (h : number? v = some x) (hx : x.IsDouble) (hbound : bound.IsDouble)
    (hpass : (Rule.min bound).failure? v label true = none) : bound.position ≤ x.position := by
  have hlt : x.lt bound = false := by
    simpa [Rule.failure?, size_of_number? h, Size.number] using hpass
  by_contra hgt
  rw [(Binary64.lt_iff_position_lt hx hbound).2 (not_le.1 hgt)] at hlt
  cases hlt

theorem le_of_max (h : number? v = some x) (hx : x.IsDouble) (hbound : bound.IsDouble)
    (hpass : (Rule.max bound).failure? v label true = none) : x.position ≤ bound.position := by
  have hlt : bound.lt x = false := by
    simpa [Rule.failure?, size_of_number? h, Size.number] using hpass
  by_contra hgt
  rw [(Binary64.lt_iff_position_lt hbound hx).2 (not_le.1 hgt)] at hlt
  cases hlt

end

/-- A filled value that passes a rule for numbers has a number. -/
theorem exists_number?_of_accepts {field : String} {rules : List Rule} (hfilled : isFilled v = true)
    (hkind : .integer ∈ rules ∨ .numeric ∈ rules) (h : Accepts field rules v) :
    (∃ x, number? v = some x) ∧
      ∀ rule ∈ rules, rule.failure? v (RuleSet.label field) true = none := by
  have hnumeric : (rules.contains .integer || rules.contains .numeric) = true := by
    simpa using hkind
  rw [Accepts, if_pos hfilled, hnumeric] at h
  refine ⟨?_, h⟩
  rcases hkind with hinteger | hnumber
  · have hpass : isInteger v = true := by
      simpa [Rule.failure?] using h _ hinteger
    exact exists_number?_of_isInteger hpass
  · have hpass : number? v ≠ none := by
      simpa [Rule.failure?] using h _ hnumber
    exact Option.ne_none_iff_exists'.1 hpass

theorem le_or_sameNumber {q r : ℚ}
    (h : (Binary64.ofRat q).position ≤ (Binary64.ofRat r).position) : q ≤ r ∨ SameNumber q r := by
  rcases le_total q r with hle | hge
  · exact .inl hle
  · exact .inr (le_antisymm h (Binary64.position_ofRat_mono hge))

/-- Under rules for numbers with a bound on either side, a value that validation has nothing against
denotes a rational, if it is no word. The rational keeps each bound, or is rounded to the same number as
the bound; an integer keeps every integer bound of up to fifty-three binary digits. A word for infinity
passes only where the bound on its side is rounded to that infinity. -/
theorem bounds_enforced_up_to_rounding {rules : RuleSet} {record : Record} {field : String}
    {fieldRules : List Rule} {least most : String} {a b : ℚ} (hentry : (field, fieldRules) ∈ rules)
    (hkind : .integer ∈ fieldRules ∨ .numeric ∈ fieldRules)
    (hleast : Includes fieldRules least) (ha : Rule.Bounds least "min" a)
    (hmost : Includes fieldRules most) (hb : Rule.Bounds most "max" b)
    (hv : record.get? field = some v) (hfilled : isFilled v = true) (hfits : v.Fits)
    (hnan : ¬IsNan v) (h : (rules.validate record).get? field = none) :
    (∃ q, Denotes v q ∧ (a ≤ q ∨ SameNumber a q) ∧ (q ≤ b ∨ SameNumber q b) ∧
      ∀ i : Int, q = i →
        (∀ c : Int, a = c → -2 ^ 53 < c → c ≤ 2 ^ 53 → c ≤ i) ∧
        (∀ c : Int, b = c → -2 ^ 53 ≤ c → c < 2 ^ 53 → i ≤ c)) ∨
    ∃ negative, IsInfinity negative v ∧
      Binary64.ofRat (if negative then a else b) = .infinite negative := by
  have haccepts : Accepts field fieldRules v :=
    (RuleSet.failures_eq_nil_iff hv).1
      ((RuleSet.get?_validate_eq_none_iff rules record field).1 h _ hentry rfl)
  obtain ⟨⟨x, hx⟩, hpass⟩ := exists_number?_of_accepts hfilled hkind haccepts
  obtain ⟨hdouble, hvalue⟩ := denotes_of_number? hx hfits hnan
  obtain ⟨low, hlowDouble, hlow, hlowRead, -⟩ := ha.read
  obtain ⟨high, hhighDouble, hhigh, -, hhighRead⟩ := hb.read
  obtain ⟨rule, hmem, hrule⟩ := hleast
  obtain rfl := Except.ok.inj ((hlowRead rfl).symm.trans hrule)
  obtain ⟨rule, hmem', hrule⟩ := hmost
  obtain rfl := Except.ok.inj ((hhighRead rfl).symm.trans hrule)
  have hlower := le_of_min hx hdouble hlowDouble (hpass _ hmem)
  have hupper := le_of_max hx hdouble hhighDouble (hpass _ hmem')
  rw [hlow] at hlower
  rw [hhigh] at hupper
  rcases hvalue with ⟨q, hq, hposition⟩ | ⟨negative, hword, rfl⟩
  · left
    rw [hposition] at hlower hupper
    refine ⟨q, hq, le_or_sameNumber hlower, le_or_sameNumber hupper, ?_⟩
    rintro i rfl
    constructor
    · rintro c rfl hfirst hlast
      exact Binary64.le_of_position_le hfirst hlast hlower
    · rintro c rfl hfirst hlast
      exact Binary64.le_of_le_position hfirst hlast hupper
  · refine .inr ⟨negative, hword, ?_⟩
    cases negative
    · exact (Binary64.isDouble_ofRat b).eq_infinite.1 hupper
    · exact (Binary64.isDouble_ofRat a).eq_infinite.2 hlower

theorem spelled_score_within_bounds :
    RuleSet.read [("score", .str "max:5|numeric|min:1")] =
        .ok [("score", [.max (.ofInt 5), .numeric, .min (.ofInt 1)])] ∧
      Json.read? "\x7b\"score\": \" 25e-1 \"\x7d" = some (.obj [("score", .str " 25e-1 ")]) ∧
      ∃ q, Denotes (.str " 25e-1 ") q ∧ ((1 : Int) ≤ q ∨ SameNumber (1 : Int) q) ∧
        (q ≤ (5 : Int) ∨ SameNumber q (5 : Int)) := by
  have hrules : RuleSet.read [("score", .str "max:5|numeric|min:1")] =
      .ok [("score", [.max (.ofInt 5), .numeric, .min (.ofInt 1)])] := by decide +kernel
  have hread : Json.read? "\x7b\"score\": \" 25e-1 \"\x7d" =
      some (.obj [("score", .str " 25e-1 ")]) := by cbv
  have hleast : Includes [.max (.ofInt 5), .numeric, .min (.ofInt 1)]
      ("min" ++ ":" ++ toString (1 : Int)) := ⟨.min (.ofInt 1), by simp, by decide +kernel⟩
  have hmost : Includes [.max (.ofInt 5), .numeric, .min (.ofInt 1)]
      ("max" ++ ":" ++ toString (5 : Int)) := ⟨.max (.ofInt 5), by simp, by decide +kernel⟩
  have hscore : Entries.get? [("score", Json.str " 25e-1 ")] "score" = some (.str " 25e-1 ") := rfl
  have hnan : ¬IsNan (.str " 25e-1 ") := by
    rintro ⟨s, hs, hword⟩
    obtain rfl := Json.str.inj hs
    exact absurd hword (by unfold Binary64.IsNanWord; decide)
  have hvalid : (RuleSet.validate [("score", [.max (.ofInt 5), .numeric, .min (.ofInt 1)])]
      [("score", .str " 25e-1 ")]).get? "score" = none := by decide +kernel
  rcases bounds_enforced_up_to_rounding List.mem_cons_self (.inr (by simp)) hleast
    (Rule.bounds_of_int (.inl rfl) 1) hmost (Rule.bounds_of_int (.inr rfl) 5) hscore rfl
    (Json.fits_of_get? hread hscore) hnan hvalid with ⟨q, hq, hlow, hhigh, -⟩ | ⟨negative, hword, -⟩
  · exact ⟨hrules, hread, q, hq, hlow, hhigh⟩
  · obtain ⟨s, hs, hword, -⟩ := hword
    obtain rfl := Json.str.inj hs
    exact absurd hword (by unfold Binary64.letters; decide)

theorem not_denotes_of_read? {s : String} (h : Numeral.read? (Text.trimChars s.toList) = none) (q : ℚ) :
    ¬Denotes (.str s) q := by
  intro hq
  cases hq with
  | numeral hread =>
    rw [h] at hread
    cases hread

/-- An integer of fifty-four binary digits is taken for its neighbour, what is no number for any number
that is asked for, and infinity for a number below a bound that is too large. -/
theorem scores_beyond_bounds_accepted :
    (RuleSet.read [("score", .str "integer|min:0|max:9007199254740992")] =
        .ok [("score", [.integer, .min (.ofInt 0), .max (.ofInt 9007199254740992)])] ∧
      (RuleSet.validate [("score", [.integer, .min (.ofInt 0), .max (.ofInt 9007199254740992)])]
        [("score", .int 9007199254740993)]).get? "score" = none ∧
      Denotes (.int 9007199254740993) (9007199254740993 : Int) ∧
      ¬((9007199254740993 : Int) : ℚ) ≤ (9007199254740992 : Int)) ∧
    (RuleSet.read [("score", .str "numeric|min:1|max:5")] =
        .ok [("score", [.numeric, .min (.ofInt 1), .max (.ofInt 5)])] ∧
      (RuleSet.validate [("score", [.numeric, .min (.ofInt 1), .max (.ofInt 5)])]
        [("score", .str "nan")]).get? "score" = none ∧
      ∀ q, ¬Denotes (.str "nan") q) ∧
    (Includes [.numeric, .min (.ofInt 1), .max (.infinite false)]
        ("max" ++ ":" ++ toString (10 ^ 309 : Int)) ∧
      (RuleSet.validate [("score", [.numeric, .min (.ofInt 1), .max (.infinite false)])]
        [("score", .str "inf")]).get? "score" = none ∧
      ∀ q, ¬Denotes (.str "inf") q) := by
  refine ⟨⟨by decide +kernel, by decide +kernel, .int _, ?_⟩,
    ⟨by decide +kernel, by decide +kernel, not_denotes_of_read? (by decide)⟩,
    ⟨.max (.infinite false), by simp, ?_⟩, by decide +kernel, not_denotes_of_read? (by decide)⟩
  · rw [Int.cast_le]
    decide
  · -- the bound is read as the number nearest to it
    obtain ⟨x, hdouble, hposition, -, hread⟩ := (Rule.bounds_of_int (.inr rfl) (10 ^ 309)).read
    have hinfinite : Binary64.ofInt (10 ^ 309) = .infinite false := by decide +kernel
    rw [← (Binary64.ofInt_spec _).2, hinfinite] at hposition
    rw [hread rfl, hdouble.eq_infinite.1 hposition.ge]

end TableApi.Validation
