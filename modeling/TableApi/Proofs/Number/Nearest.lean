import Mathlib.Algebra.Order.Field.Rat
import Mathlib.Tactic.FieldSimp
import Mathlib.Tactic.NormNum
import TableApi.Number.Decimal
import TableApi.Proofs.Number.Rounding
import TableApi.Proofs.Text.Numerals

/-!
The number nearest to a rational. Whatever ratio or decimal numeral a rational is given as, it is
rounded to the same number, and larger rationals are not rounded to smaller numbers. Integers of up to
fifty-three binary digits, and what was rounded before, stay as they are.
-/

namespace TableApi.Binary64

def ofRat (q : ℚ) : Binary64 := ofRatio (q < 0) q.num.natAbs q.den

/-! ### One position for one rational -/

theorem position_ofRat (q : ℚ) :
    (ofRat q).position = signed (q < 0) (capped (rounded (q.num.natAbs * unit) q.den)) :=
  (ofRatio_spec _ _ q.den_pos).2

theorem isDouble_ofRat (q : ℚ) : (ofRat q).IsDouble := (ofRatio_spec _ _ q.den_pos).1

theorem rounded_zero {d : Nat} (hd : 0 < d) : rounded 0 d = 0 :=
  (rounded_of_short (m := 0) (k := 0) hd (by decide) (by omega))

theorem position_ofRat_of_nonneg {q : ℚ} (hq : 0 ≤ q) :
    (ofRat q).position = (capped (rounded (q.num.natAbs * unit) q.den) : Nat) := by
  rw [position_ofRat, decide_eq_false (not_lt.2 hq), signed_false]

theorem position_ofRat_nonneg {q : ℚ} (hq : 0 ≤ q) : 0 ≤ (ofRat q).position := by
  rw [position_ofRat_of_nonneg hq]
  exact Int.natCast_nonneg _

theorem position_ofRat_zero : (ofRat 0).position = 0 := by
  rw [position_ofRat_of_nonneg le_rfl, Rat.num_zero, Int.natAbs_zero, Nat.zero_mul,
    rounded_zero (Rat.den_pos 0), capped_zero]
  rfl

theorem position_ofRat_neg (q : ℚ) : (ofRat (-q)).position = -(ofRat q).position := by
  have hpositive {q : ℚ} (hq : 0 < q) : (ofRat (-q)).position = -(ofRat q).position := by
    rw [position_ofRat_of_nonneg hq.le, position_ofRat, decide_eq_true (neg_neg_of_pos hq), signed_true,
      Rat.neg_num, Rat.neg_den, Int.natAbs_neg]
  rcases lt_trichotomy q 0 with hq | rfl | hq
  · have hneg := hpositive (q := -q) (neg_pos.2 hq)
    rw [neg_neg] at hneg
    omega
  · rw [neg_zero, position_ofRat_zero]
    rfl
  · exact hpositive hq

/-- Larger rationals are not rounded to smaller numbers. -/
theorem position_ofRat_mono {q r : ℚ} (h : q ≤ r) : (ofRat q).position ≤ (ofRat r).position := by
  -- between rationals that are not negative the digits decide
  have hdigits {q r : ℚ} (hq : 0 ≤ q) (h : q ≤ r) : (ofRat q).position ≤ (ofRat r).position := by
    have hr := hq.trans h
    have hcross : q.num.natAbs * r.den ≤ r.num.natAbs * q.den := by
      have hle := (Rat.le_iff q r).1 h
      have hqnum := Rat.num_nonneg.2 hq
      have hrnum := Rat.num_nonneg.2 hr
      zify
      rwa [abs_of_nonneg hqnum, abs_of_nonneg hrnum]
    have hrounded : rounded (q.num.natAbs * unit) q.den ≤ rounded (r.num.natAbs * unit) r.den := by
      apply rounded_mono q.den_pos r.den_pos
      calc q.num.natAbs * unit * r.den = q.num.natAbs * r.den * unit := Nat.mul_right_comm _ _ _
        _ ≤ r.num.natAbs * q.den * unit := Nat.mul_le_mul_right _ hcross
        _ = r.num.natAbs * unit * q.den := Nat.mul_right_comm _ _ _
    rw [position_ofRat_of_nonneg hq, position_ofRat_of_nonneg hr]
    exact Int.ofNat_le.2 (capped_mono hrounded)
  rcases le_or_gt 0 q with hq | hq
  · exact hdigits hq h
  · have hneg := position_ofRat_nonneg (neg_nonneg.2 hq.le)
    rw [position_ofRat_neg] at hneg
    rcases le_or_gt 0 r with hr | hr
    · have hnonneg := position_ofRat_nonneg hr
      omega
    · have hdigits := hdigits (q := -r) (r := -q) (neg_nonneg.2 hr.le) (neg_le_neg h)
      rw [position_ofRat_neg, position_ofRat_neg] at hdigits
      omega

/-- A rational is rounded in the same way whatever ratio it is given as. -/
theorem position_ofRatio (negative : Bool) (num : Nat) {den : Nat} (hden : 0 < den) :
    (ofRatio negative num den).position =
      (ofRat (if negative then -(num / den) else num / den)).position := by
  have hnonneg : (0 : ℚ) ≤ num / den := div_nonneg (Nat.cast_nonneg _) (Nat.cast_nonneg _)
  have hcross : (num / den : ℚ).num.natAbs * den = num * (num / den : ℚ).den := by
    have hq : ((num / den : ℚ).num : ℚ) / (num / den : ℚ).den = num / den := Rat.num_div_den _
    have hnum := Rat.num_nonneg.2 hnonneg
    rw [div_eq_div_iff (Nat.cast_ne_zero.2 (Rat.den_ne_zero _)) (Nat.cast_ne_zero.2 hden.ne')] at hq
    zify
    rw [abs_of_nonneg hnum]
    exact_mod_cast hq
  have hrounded : rounded (num * unit) den =
      rounded ((num / den : ℚ).num.natAbs * unit) (num / den : ℚ).den := by
    apply rounded_congr hden (Rat.den_pos _)
    calc num * unit * (num / den : ℚ).den = num * (num / den : ℚ).den * unit :=
          Nat.mul_right_comm _ _ _
      _ = (num / den : ℚ).num.natAbs * den * unit := by rw [hcross]
      _ = (num / den : ℚ).num.natAbs * unit * den := Nat.mul_right_comm _ _ _
  have hposition : (ofRat (num / den)).position = (capped (rounded (num * unit) den) : Nat) := by
    rw [position_ofRat_of_nonneg hnonneg, hrounded]
  rw [(ofRatio_spec negative num hden).2]
  cases negative
  · rw [signed_false, if_neg Bool.false_ne_true, hposition]
  · rw [signed_true, if_pos rfl, position_ofRat_neg, hposition]

/-! ### Decimal numerals -/

theorem position_le_top (q : ℚ) : (ofRat q).position ≤ top := by
  rcases le_total 0 q with hq | hq
  · rw [position_ofRat_of_nonneg hq]
    exact Int.ofNat_le.2 (min_le_left _ _)
  · have hneg := position_ofRat_nonneg (neg_nonneg.2 hq)
    rw [position_ofRat_neg] at hneg
    omega

theorem rounded_of_lt_half {n d : Nat} (h : 2 * n < d) : rounded n d = 0 := by
  have hexcess : excess n d = 0 := by
    rw [excess, Nat.div_eq_of_lt (by omega)]
    rfl
  rw [rounded, hexcess, pow_zero, Nat.mul_one, Nat.mul_one]
  exact Nat.le_zero.1 ((roundDiv_le_iff (by omega) 0).2 (.inl (by omega)))

theorem rounded_top : rounded top 1 = top := by
  have htop : top = 2 ^ 52 * 2 ^ (lastExponent + 1) := by
    rw [top]
    ring
  rw [htop]
  exact rounded_of_short (by decide) (by decide) (Nat.mul_one _).symm

/-- The decimal places beyond which nothing but infinity or zero is near. -/
def farPlaces : Nat := 400

/-- Only zero is near to one over a power of ten with many places. -/
theorem position_of_tiny {q : ℚ} {k : Nat} (hk : farPlaces < k) (hq : 0 ≤ q)
    (h : q ≤ (1 : Nat) / (10 ^ k : Nat)) : (ofRat q).position = 0 := by
  have hunit : 2 * (1 * unit) < 10 ^ (farPlaces + 1) := by decide +kernel
  have hpow : 10 ^ (farPlaces + 1) ≤ 10 ^ k := Nat.pow_le_pow_right (by decide) hk
  have hzero : (ofRat ((1 : Nat) / (10 ^ k : Nat))).position = 0 := by
    have hposition := position_ofRatio false 1 (show 0 < 10 ^ k from Nat.pow_pos (by decide))
    rw [(ofRatio_spec false 1 (Nat.pow_pos (by decide))).2,
      rounded_of_lt_half (Nat.lt_of_lt_of_le hunit hpow), capped_zero] at hposition
    exact hposition.symm
  have hle := position_ofRat_mono h
  have hge := position_ofRat_nonneg hq
  omega

/-- Only infinity is near to a power of ten with many places. -/
theorem position_of_huge {q : ℚ} {k : Nat} (hk : farPlaces ≤ k) (h : (10 ^ k : Nat) / (1 : Nat) ≤ q) :
    (ofRat q).position = top := by
  have hunit : top ≤ 10 ^ farPlaces * unit := by decide +kernel
  have hpow : 10 ^ farPlaces ≤ 10 ^ k := Nat.pow_le_pow_right (by decide) hk
  have htop : (ofRat ((10 ^ k : Nat) / (1 : Nat))).position = top := by
    have hrounded : top ≤ rounded (10 ^ k * unit) 1 := by
      rw [← rounded_top]
      refine rounded_mono Nat.one_pos Nat.one_pos (Nat.mul_le_mul_right _ ?_)
      exact hunit.trans (Nat.mul_le_mul_right _ hpow)
    have hposition := position_ofRatio false (10 ^ k) Nat.one_pos
    rw [(ofRatio_spec false (10 ^ k) Nat.one_pos).2, capped_of_ge hrounded, signed_false] at hposition
    exact hposition.symm
  have hge := position_ofRat_mono h
  have hle := position_le_top q
  omega

def decimal (negative : Bool) (digits : Nat) (exponent : Int) : ℚ :=
  if negative then -(digits * 10 ^ exponent) else digits * 10 ^ exponent

theorem position_signed (negative : Bool) (q : ℚ) :
    (ofRat (if negative then -q else q)).position =
      if negative then -(ofRat q).position else (ofRat q).position := by
  split
  · exact position_ofRat_neg q
  · rfl

theorem lt_pow_length {n : Nat} : n < 10 ^ (Nat.toDigits 10 n).length := by
  have hpos : 0 < (Nat.toDigits 10 n).length := List.length_pos_of_ne_nil Nat.toDigits_ne_nil
  exact (Nat.length_toDigits_le_iff (by decide) hpos).1 le_rfl

theorem pow_length_le {n : Nat} (hn : n ≠ 0) : 10 ^ ((Nat.toDigits 10 n).length - 1) ≤ n := by
  rcases Nat.eq_zero_or_pos ((Nat.toDigits 10 n).length - 1) with hzero | hpos
  · rw [hzero]
    exact Nat.one_le_iff_ne_zero.2 hn
  · by_contra hlt
    have hle := (Nat.length_toDigits_le_iff (by decide) hpos).2 (Nat.lt_of_not_le hlt)
    omega

section

variable {digits length : Nat} {exponent : Int}

theorem decimal_nonneg : 0 ≤ (digits * 10 ^ exponent : ℚ) :=
  mul_nonneg (Nat.cast_nonneg _) (zpow_nonneg (by norm_num) _)

/-- A numeral that begins four hundred places behind the point is rounded to zero. -/
theorem position_of_few_places (h : digits < 10 ^ length) (hplaces : (length : Int) + exponent < -400) :
    (ofRat (digits * 10 ^ exponent)).position = 0 := by
  obtain ⟨k, hk⟩ : ∃ k : Nat, (length : Int) + exponent = -k := ⟨_, Int.eq_neg_natAbs_of_nonpos (by omega)⟩
  apply position_of_tiny (k := k) (by unfold farPlaces; omega) decimal_nonneg
  calc (digits * 10 ^ exponent : ℚ)
    _ ≤ 10 ^ length * 10 ^ exponent :=
        mul_le_mul_of_nonneg_right (by exact_mod_cast h.le) (zpow_nonneg (by norm_num) _)
    _ = 10 ^ (-k : Int) := by rw [← hk, zpow_add₀ (by norm_num), zpow_natCast]
    _ = (1 : Nat) / (10 ^ k : Nat) := by
        rw [zpow_neg, zpow_natCast]
        push_cast
        rw [one_div]

/-- A numeral that begins four hundred places before the point is rounded to infinity. -/
theorem position_of_many_places (h : 10 ^ (length - 1) ≤ digits) (hlength : 0 < length)
    (hplaces : 400 < (length : Int) + exponent) :
    (ofRat (digits * 10 ^ exponent)).position = top := by
  obtain ⟨k, hk⟩ : ∃ k : Nat, ((length - 1 : Nat) : Int) + exponent = k :=
    ⟨_, Int.eq_natAbs_of_nonneg (by omega)⟩
  apply position_of_huge (k := k) (by unfold farPlaces; omega)
  calc ((10 ^ k : Nat) / (1 : Nat) : ℚ)
    _ = 10 ^ (k : Int) := by
        rw [zpow_natCast]
        push_cast
        rw [div_one]
    _ = 10 ^ (length - 1) * 10 ^ exponent := by rw [← hk, zpow_add₀ (by norm_num), zpow_natCast]
    _ ≤ digits * 10 ^ exponent :=
        mul_le_mul_of_nonneg_right (by exact_mod_cast h) (zpow_nonneg (by norm_num) _)

end

/-- A decimal numeral is rounded as the rational that it stands for. -/
theorem ofDecimal_spec (negative : Bool) (digits : Nat) (exponent : Int) :
    (ofDecimal negative digits exponent).IsDouble ∧
      (ofDecimal negative digits exponent).position =
        (ofRat (decimal negative digits exponent)).position := by
  have hlt := lt_pow_length (n := digits)
  have hge := pow_length_le (n := digits)
  have hlength : 0 < (Nat.toDigits 10 digits).length :=
    List.length_pos_of_ne_nil Nat.toDigits_ne_nil
  simp only [ofDecimal, decimal]
  generalize (Nat.toDigits 10 digits).length = length at *
  split
  · rename_i hnear
    have hzero : (ofRat (digits * 10 ^ exponent)).position = 0 := by
      rcases hnear with rfl | hplaces
      · rw [Nat.cast_zero, zero_mul, position_ofRat_zero]
      · exact position_of_few_places hlt hplaces
    have hposition : (zero negative).position = 0 := by
      cases negative <;> rfl
    refine ⟨⟨by decide, Nat.zero_le _⟩, ?_⟩
    rw [hposition, position_signed, hzero]
    cases negative <;> rfl
  · rename_i hnear
    obtain ⟨hne, -⟩ := not_or.1 hnear
    split
    · rename_i hfar
      refine ⟨trivial, ?_⟩
      rw [position_signed, position_of_many_places (hge hne) hlength hfar]
      rfl
    · split
      · rename_i hexponent
        obtain ⟨k, rfl⟩ := Int.eq_ofNat_of_zero_le hexponent
        have hvalue : ((digits * Nat.pow 10 k : Nat) : ℚ) / (1 : Nat) = digits * 10 ^ (k : Int) := by
          rw [zpow_natCast, Nat.cast_one, div_one, Nat.cast_mul]
          exact congrArg _ (Nat.cast_pow 10 k)
        refine ⟨(ofRatio_spec _ _ Nat.one_pos).1, ?_⟩
        rw [position_ofRatio _ _ Nat.one_pos, Int.toNat_natCast, hvalue]
      · rename_i hexponent
        obtain ⟨k, rfl⟩ : ∃ k : Nat, exponent = -k := ⟨_, Int.eq_neg_natAbs_of_nonpos (by omega)⟩
        have hpos : 0 < Nat.pow 10 k := Nat.pow_pos (by decide)
        have hvalue : (digits : ℚ) / (Nat.pow 10 k : Nat) = digits * 10 ^ (-k : Int) := by
          rw [zpow_neg, zpow_natCast, div_eq_mul_inv]
          exact congrArg (fun d : ℚ => digits * d⁻¹) (Nat.cast_pow 10 k)
        rw [neg_neg, Int.toNat_natCast]
        refine ⟨(ofRatio_spec _ _ hpos).1, ?_⟩
        rw [position_ofRatio _ _ hpos, hvalue]

/-! ### What needs no rounding -/

def unitExponent : Nat := 1074

theorem unit_eq : unit = 2 ^ unitExponent := by decide +kernel

theorem unit_pos : 0 < unit := by decide +kernel

theorem ite_natAbs (i : Int) : (if decide (i < 0) then -(i.natAbs : ℚ) else i.natAbs) = i := by
  by_cases hi : i < 0
  · rw [if_pos (decide_eq_true hi), ← Int.cast_natCast, Int.ofNat_natAbs_of_nonpos hi.le, Int.cast_neg,
      neg_neg]
  · rw [if_neg (by simpa using hi), ← Int.cast_natCast, Int.natAbs_of_nonneg (by omega)]

theorem ofInt_spec (i : Int) : (ofInt i).IsDouble ∧ (ofInt i).position = (ofRat i).position := by
  refine ⟨(ofRatio_spec _ _ Nat.one_pos).1, ?_⟩
  rw [ofInt, position_ofRatio _ _ Nat.one_pos, Nat.cast_one, div_one, ite_natAbs]

theorem rounded_of_le {n : Nat} (h : n ≤ 2 ^ 53) : rounded (n * unit) 1 = n * unit := by
  rw [unit_eq]
  rcases Nat.lt_or_eq_of_le h with hlt | rfl
  · exact rounded_of_short Nat.one_pos hlt (Nat.mul_one _).symm
  · have hsplit : 2 ^ 53 * 2 ^ unitExponent = 2 ^ 52 * 2 ^ (unitExponent + 1) := by ring
    rw [hsplit]
    exact rounded_of_short Nat.one_pos (by decide) (Nat.mul_one _).symm

/-- Integers of up to fifty-three binary digits, and the next one, are numbers themselves. -/
theorem position_of_small_int {i : Int} (h : i.natAbs ≤ 2 ^ 53) : (ofRat i).position = i * unit := by
  have htop : i.natAbs * unit ≤ top := by
    rw [unit_eq, top]
    exact Nat.mul_le_mul h (Nat.pow_le_pow_right (by decide) (by decide))
  rw [← (ofInt_spec i).2, ofInt, (ofRatio_spec _ _ Nat.one_pos).2, rounded_of_le h, capped_of_le htop]
  by_cases hi : i < 0
  · rw [decide_eq_true hi, signed_true, Nat.cast_mul, Int.ofNat_natAbs_of_nonpos hi.le, Int.neg_mul,
      Int.neg_neg]
  · rw [decide_eq_false hi, signed_false, Nat.cast_mul, Int.natAbs_of_nonneg (by omega)]

/-- An integer is not rounded up to a bound of up to fifty-three binary digits that it is below. -/
theorem le_of_position_le {a i : Int} (hlow : -2 ^ 53 < a) (hhigh : a ≤ 2 ^ 53)
    (h : (ofRat a).position ≤ (ofRat i).position) : a ≤ i := by
  by_contra hlt
  have hbelow : (i : ℚ) ≤ (a - 1 : Int) := Int.cast_le.2 (by omega)
  have hmono := position_ofRat_mono hbelow
  rw [position_of_small_int (i := a - 1) (by omega)] at hmono
  rw [position_of_small_int (i := a) (by omega)] at h
  have hunit : (0 : Int) < unit := Int.natCast_pos.2 unit_pos
  have hstep : (a - 1) * unit = a * unit - unit := by ring
  omega

theorem le_of_le_position {b i : Int} (hlow : -2 ^ 53 ≤ b) (hhigh : b < 2 ^ 53)
    (h : (ofRat i).position ≤ (ofRat b).position) : i ≤ b := by
  have hneg : (ofRat (-b : Int)).position ≤ (ofRat (-i : Int)).position := by
    push_cast
    rw [position_ofRat_neg, position_ofRat_neg]
    omega
  have hle := le_of_position_le (by omega) (by omega) hneg
  omega

/-- What was rounded before stays as it is. -/
theorem position_of_scaled {x : Binary64} {a : Int} (hx : x.IsDouble) (ha : x.scaled? = some a) :
    (ofRat (a / unit)).position = x.position := by
  have hposition {negative : Bool} {m e : Nat} (hm : m < 2 ^ 53) (he : e ≤ lastExponent) :
      (ofRat (if negative then -((magnitude m e : Nat) / (unit : Nat)) else
        (magnitude m e : Nat) / (unit : Nat))).position = signed negative (magnitude m e) := by
    rw [← position_ofRatio negative _ unit_pos, (ofRatio_spec _ _ unit_pos).2,
      rounded_of_short (n := magnitude m e * unit) unit_pos hm rfl]
    exact congrArg _ (capped_of_le (magnitude_lt_top hm he).le)
  cases x with
  | nan => cases ha
  | infinite => cases ha
  | finite negative m e =>
    have hposition := @hposition negative m e hx.1 hx.2
    cases negative
    · obtain rfl := Option.some.inj ha
      rw [Int.cast_natCast]
      exact hposition
    · obtain rfl := Option.some.inj ha
      rw [Int.cast_neg, Int.cast_natCast, neg_div]
      exact hposition

end TableApi.Binary64
