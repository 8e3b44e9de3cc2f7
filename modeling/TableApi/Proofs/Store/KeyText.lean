import Mathlib.Algebra.Order.Ring.Int
import Mathlib.Data.List.TakeWhile
import TableApi.Proofs.Number.Reading
import TableApi.Store.Write

namespace TableApi.Store

/-- The integer that a text spells, be it with blanks around, a point or an exponent. -/
def keyOf? (text : String) : Option Int :=
  match Affinity.numberOf? text with
  | some (.integer i) => some i
  | some (.real x) => x.toInt?
  | _ => none

theorem unit_pos : 0 < (Binary64.unit : Int) := Int.natCast_pos.2 Binary64.unit_pos

theorem toInt?_eq_some_iff {x : Binary64} {a : Int} (hx : x.scaled? = some a) (id : Int) :
    x.toInt? = some id ↔ id * Binary64.unit = a := by
  have hpos := unit_pos
  simp only [Binary64.toInt?, hx]
  constructor
  · intro h
    split at h
    · rename_i hmod
      obtain rfl := Option.some.inj h
      exact Int.ediv_mul_cancel (Int.dvd_of_emod_eq_zero hmod)
    · cases h
  · rintro rfl
    rw [if_pos (Int.mul_emod_left _ _), Int.mul_ediv_cancel _ (ne_of_gt hpos)]

theorem compare_integer_eq_iff {a b : Int} :
    (Cell.integer a).compare (.integer b) = .eq ↔ a = b := by
  have hpos := unit_pos
  have hoctets : compare ([] : List UInt8) [] = .eq := rfl
  simp only [Cell.compare, Cell.rank, Cell.units, Cell.octets, hoctets, Ordering.then_eq_eq,
    compare_eq_iff_eq, true_and, and_true]
  exact mul_left_inj' (ne_of_gt hpos)

/-- An integer equals a real just when the real is that integer. -/
theorem compare_real_eq_iff {id : Int} {x : Binary64} :
    (Cell.integer id).compare (.real x) = .eq ↔ x.toInt? = some id := by
  cases x with
  | nan => simp [Cell.compare, Cell.rank, Binary64.toInt?, Binary64.scaled?]
  | infinite s => cases s <;> simp [Cell.compare, Cell.rank, Binary64.toInt?, Binary64.scaled?]
  | finite s m e =>
    obtain ⟨a, ha⟩ : ∃ a, (Binary64.finite s m e).scaled? = some a := by cases s <;> exact ⟨_, rfl⟩
    have hoctets : compare ([] : List UInt8) [] = .eq := rfl
    rw [toInt?_eq_some_iff ha]
    simp only [Cell.compare, Cell.rank, Cell.units, Cell.octets, hoctets, ha, Option.getD_some,
      Ordering.then_eq_eq, compare_eq_iff_eq, true_and, and_true]

/-- A text that spells a number spells an integer of 64 bits or a real. -/
theorem numberOf?_isNumber {text : String} {c : Cell} (h : Affinity.numberOf? text = some c) :
    (∃ i, c = .integer i ∧ Affinity.isSigned64 i) ∨ ∃ x, c = .real x := by
  obtain ⟨n, -, rfl⟩ := Option.map_eq_some_iff.1 h
  dsimp only
  generalize (if n.negative = true then _ else _ : Int) = i
  split
  · rename_i hplain
    exact .inl ⟨i, rfl, (Bool.and_eq_true_iff.1 hplain).2⟩
  · exact .inr ⟨n.toBinary64, rfl⟩

/-- A row id equals a text just when the text spells it. -/
theorem compare_operand_eq_iff {id : Int} {text : String} :
    (Cell.integer id).compare (Affinity.integer.operand text) = .eq ↔ keyOf? text = some id := by
  have hoperand : Affinity.integer.operand text =
      (Affinity.numberOf? text).getD (.text text) := rfl
  rw [hoperand, keyOf?]
  cases hnumber : Affinity.numberOf? text with
  | none => simp [Cell.compare, Cell.rank]
  | some c =>
    rw [Option.getD_some]
    rcases numberOf?_isNumber hnumber with ⟨i, rfl, -⟩ | ⟨x, rfl⟩
    · rw [compare_integer_eq_iff, Option.some_inj, eq_comm]
    · exact compare_real_eq_iff

theorem isPadding_of_isDigit {c : Char} (h : c.isDigit = true) :
    Affinity.isPadding c = false := by
  have hge := (Text.toNat_of_isDigit h).1
  have hspace : c ≠ ' ' := by
    rintro rfl
    exact absurd hge (by decide)
  have habove : ¬ c ≤ '\r' := by
    intro hle
    have hle : c.toNat ≤ 13 := UInt32.le_iff_toNat_le.1 hle
    omega
  simp [Affinity.isPadding, hspace, habove]

theorem isPadding_of_mem_toString {i : Int} {c : Char} (hc : c ∈ (toString i).toList) :
    Affinity.isPadding c = false := by
  rw [Numeral.toList_toString] at hc
  split at hc
  · exact isPadding_of_isDigit (Text.isDigit_of_mem_toDigits c hc)
  · rcases List.mem_cons.1 hc with rfl | hc
    · decide
    · exact isPadding_of_isDigit (Text.isDigit_of_mem_toDigits c hc)

/-- Nothing is trimmed off a text without blanks. -/
theorem trim_of_forall {s : List Char} (h : ∀ c ∈ s, Affinity.isPadding c = false) :
    ((s.dropWhile Affinity.isPadding).reverse.dropWhile Affinity.isPadding).reverse = s := by
  have hdrop : ∀ l : List Char, (∀ c ∈ l, Affinity.isPadding c = false) →
      l.dropWhile Affinity.isPadding = l := by
    intro l hl
    cases l with
    | nil => rfl
    | cons c l => rw [List.dropWhile_cons_of_neg (by simp [hl c List.mem_cons_self])]
  rw [hdrop s h, hdrop s.reverse fun c hc => h c (List.mem_reverse.1 hc), List.reverse_reverse]

/-- The numeral of a row id spells it. -/
theorem keyOf?_toString {id : Int} (h : Affinity.isSigned64 id = true) :
    keyOf? (toString id) = some id := by
  have hnumber : Affinity.numberOf? (toString id) = some (.integer id) := by
    have hvalue : (if id < 0 then -(id.natAbs : Int) else id.natAbs) = id := by
      split <;> omega
    have htrim := trim_of_forall fun c hc => isPadding_of_mem_toString (i := id) (c := c) hc
    simp only [Affinity.numberOf?, htrim, Numeral.read?_toString, Option.map_some, Text.digitsValue_toDigits,
      decide_eq_true_eq, hvalue, h, Bool.and_true, if_true]
  rw [keyOf?, hnumber]

/-- Texts that spell one key in different ways, and one that spells none. -/
example : ["1", " 1", "1.0", "1e0", "1x"].map keyOf? = [some 1, some 1, some 1, some 1, none] := by
  decide +kernel

end TableApi.Store
