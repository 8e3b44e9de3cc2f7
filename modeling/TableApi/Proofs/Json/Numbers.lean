import TableApi.Json.Numeral
import TableApi.Proofs.Number.Nearest

namespace TableApi

namespace Binary64

def IsNumber (x : Binary64) : Prop := x.IsDouble ∧ x.isFinite = true

variable {x y : Binary64}

theorem natAbs_signed (negative : Bool) (n : Nat) : (signed negative n).natAbs = n := by
  cases negative
  · rfl
  · rw [signed_true, Int.natAbs_neg, Int.natAbs_natCast]

/-- The numbers below the position of the infinities are finite. -/
theorem IsDouble.isNumber (h : x.IsDouble) (hbelow : x.position.natAbs < top) : x.IsNumber := by
  refine ⟨h, ?_⟩
  cases x with
  | nan => cases h
  | infinite negative =>
    rw [position, natAbs_signed] at hbelow
    exact absurd hbelow (lt_irrefl _)
  | finite => rfl

theorem IsNumber.neg (h : x.IsNumber) : x.neg.IsNumber := by
  cases x with
  | nan => exact h
  | infinite => exact h
  | finite => exact h

theorem isNumber_zero (negative : Bool) : (zero negative).IsNumber :=
  ⟨⟨by decide, Nat.zero_le _⟩, rfl⟩

theorem isNumber_ofRatio {negative : Bool} {num den bound : Nat} (hden : 0 < den)
    (h : rounded (num * unit) den ≤ bound) (hbound : bound < top) :
    (ofRatio negative num den).IsNumber := by
  obtain ⟨hdouble, hposition⟩ := ofRatio_spec negative num hden
  apply hdouble.isNumber
  rw [hposition, natAbs_signed, capped_of_le (h.trans hbound.le)]
  exact h.trans_lt hbound

/-- The integers that JSON numbers begin with are finite. -/
theorem isNumber_ofInt {n : Nat} (h : n ≤ Text.maxUnsigned64) : (ofInt n).IsNumber := by
  have hnonneg : 0 ≤ (ofInt n).position := by
    rw [(ofInt_spec n).2]
    exact position_ofRat_nonneg (by exact_mod_cast Nat.zero_le n)
  have hlast : (ofInt Text.maxUnsigned64).position < top := by decide +kernel
  apply (ofInt_spec n).1.isNumber
  rw [← Int.ofNat_lt, Int.natAbs_of_nonneg hnonneg]
  refine lt_of_le_of_lt ?_ hlast
  rw [(ofInt_spec n).2, (ofInt_spec Text.maxUnsigned64).2]
  exact position_ofRat_mono (by exact_mod_cast h)

/-- A quotient is no larger than what is divided, if the divisor is at least one. -/
theorem IsNumber.div (hx : x.IsNumber) (hy : y.IsNumber) (hone : (unit : Int) ≤ y.position) :
    (x.div y).IsNumber := by
  cases x with
  | nan => cases hx.2
  | infinite => cases hx.2
  | finite s m e =>
    cases y with
    | nan => cases hy.2
    | infinite => cases hy.2
    | finite t n f =>
      have hunit := unit_pos
      have hdivisor : unit ≤ magnitude n f := by
        cases t
        · exact Int.ofNat_le.1 hone
        · have hnegative : (finite true n f).position = -(magnitude n f : Int) := rfl
          omega
      have hn : n ≠ 0 := by
        rintro rfl
        rw [magnitude, Nat.zero_mul] at hdivisor
        omega
      rw [div, if_neg hn]
      have hcross : magnitude m e * unit * unit ≤ magnitude m e * unit * magnitude n f :=
        Nat.mul_le_mul_left _ hdivisor
      have hrounded := rounded_mono (hunit.trans_le hdivisor) hunit hcross
      have hshort : rounded (magnitude m e * unit) unit = magnitude m e :=
        rounded_of_short hunit hx.1.1 rfl
      rw [hshort] at hrounded
      exact isNumber_ofRatio (hunit.trans_le hdivisor) hrounded (magnitude_lt_top hx.1.1 hx.1.2)

theorem isDouble_mul (hx : x.IsNumber) (hy : y.IsNumber) : (x.mul y).IsDouble := by
  cases x with
  | nan => cases hx.2
  | infinite => cases hx.2
  | finite s m e =>
    cases y with
    | nan => cases hy.2
    | infinite => cases hy.2
    | finite t n f =>
      have hunit := unit_pos
      rw [mul]
      generalize unit = u at *
      exact (ofRatio_spec _ _ (Nat.mul_pos hunit hunit)).1

/-- The powers of ten that JSON numbers are scaled by are finite, and not below one. -/
theorem isNumber_tens {k : Int} (hk : 0 ≤ k) (hlast : k ≤ 308) :
    (ofDecimal false 1 k).IsNumber ∧ (unit : Int) ≤ (ofDecimal false 1 k).position := by
  have hmono {j k : Int} (h : j ≤ k) :
      (ofDecimal false 1 j).position ≤ (ofDecimal false 1 k).position := by
    rw [(ofDecimal_spec false 1 j).2, (ofDecimal_spec false 1 k).2]
    apply position_ofRat_mono
    exact mul_le_mul_of_nonneg_left (zpow_le_zpow_right₀ (by norm_num) h) (Nat.cast_nonneg _)
  have hfirst : (ofDecimal false 1 0).position = unit := by decide +kernel
  have hfinite : (ofDecimal false 1 308).position < top := by decide +kernel
  have hone := hmono hk
  rw [hfirst] at hone
  have hnonneg := (Int.natCast_nonneg _).trans hone
  have hbelow : (ofDecimal false 1 k).position.natAbs < top := by
    rw [← Int.ofNat_lt, Int.natAbs_of_nonneg hnonneg]
    exact (hmono hlast).trans_lt hfinite
  exact ⟨(ofDecimal_spec false 1 k).1.isNumber hbelow, hone⟩

end Binary64

namespace Json

open Binary64 (IsNumber)

namespace Numeral

theorem gather_le {value : Nat} (h : value ≤ Text.maxUnsigned64) (taken : Nat) (digits : List Char) :
    (gather value taken digits).1 ≤ Text.maxUnsigned64 := by
  induction digits generalizing value taken with
  | nil => exact h
  | cons c rest ih =>
    rw [gather]
    split
    · exact h
    · rename_i hnext
      exact ih (Nat.le_of_not_lt hnext) (taken + 1)

theorem isNumber_shrink {x : Binary64} (h : x.IsNumber) (steps : Nat) :
    (shrink x steps).IsNumber := by
  obtain ⟨htens, hone⟩ := Binary64.isNumber_tens (k := 308) (by decide) le_rfl
  induction steps generalizing x with
  | zero => exact h
  | succ steps ih => exact ih (h.div htens hone)

/-- Scaling by a power of ten leaves the finite numbers only by failing. -/
theorem isNumber_of_scale? {significand : Nat} {exponent : Int} {x : Binary64}
    (hsignificand : significand ≤ Text.maxUnsigned64) (h : scale? significand exponent = some x) :
    x.IsNumber := by
  have hinteger := Binary64.isNumber_ofInt hsignificand
  simp only [scale?] at h
  split at h
  · rename_i hnonneg
    split at h
    · rename_i hlast
      split at h
      · rename_i hfinite
        obtain rfl := Option.some.inj h
        exact ⟨Binary64.isDouble_mul hinteger (Binary64.isNumber_tens hnonneg hlast).1, hfinite⟩
      · cases h
    · split at h
      · obtain rfl := Option.some.inj h
        exact hinteger
      · cases h
  · split at h
    · obtain rfl := Option.some.inj h
      exact Binary64.isNumber_zero false
    · rename_i hnegative _
      obtain rfl := Option.some.inj h
      -- what the steps leave of the exponent is a power that is finite itself
      obtain ⟨htens, hone⟩ := Binary64.isNumber_tens
        (k := ((-exponent).toNat - 308 * (((-exponent).toNat - 1) / 308) : Nat)) (by omega) (by omega)
      exact (isNumber_shrink hinteger _).div htens hone

theorem isNumber_of_value? {p : Parts} {x : Binary64} (h : p.value? = some (.inr x)) :
    x.IsNumber := by
  have hleading := gather_le (Nat.zero_le _) 0 p.whole
  have hsign {y : Binary64} (hy : y.IsNumber) : (if p.negative then y.neg else y).IsNumber := by
    split
    · exact hy.neg
    · exact hy
  simp only [Parts.value?] at h
  split at h
  · split at h
    · cases h
    · split at h
      · obtain rfl := Sum.inr.inj (Option.some.inj h)
        exact hsign (Binary64.isNumber_ofInt hleading)
      · cases h
  · obtain ⟨y, hy, hx⟩ := Option.map_eq_some_iff.1 h
    obtain rfl := Sum.inr.inj hx
    exact hsign (isNumber_of_scale? (gather_le hleading 0 _) hy)

/-- An integer that is read apart from the other numbers is one of 64 bits, signed or unsigned. -/
theorem inRange_of_value? {p : Parts} {i : Int} (h : p.value? = some (.inl i)) :
    Text.minSigned64 ≤ i ∧ i ≤ (Text.maxUnsigned64 : Int) := by
  have hleading := gather_le (Nat.zero_le _) 0 p.whole
  have hmin : Text.minSigned64.natAbs = 0x8000000000000000 := rfl
  simp only [Parts.value?] at h
  split at h
  · split at h
    · obtain rfl := Sum.inl.inj (Option.some.inj h)
      rw [Text.minSigned64]
      omega
    · split at h
      · cases h
      · rename_i hsmall
        obtain rfl := Sum.inl.inj (Option.some.inj h)
        rw [Bool.or_eq_true, decide_eq_true_eq, decide_eq_true_eq, hmin] at hsmall
        rw [Text.minSigned64]
        omega
  · obtain ⟨y, hy, hx⟩ := Option.map_eq_some_iff.1 h
    cases hx

end Numeral

end Json

end TableApi
