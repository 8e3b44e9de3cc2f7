import Mathlib.Tactic.Linarith
import Mathlib.Tactic.Ring
import TableApi.Number.Binary64

/-!
Rounding to binary numbers of 64 bits. Every number has a position on the scale of the smallest positive
one, and the comparison of numbers is that of their positions. Rounding keeps the order of exact ratios
and leaves alone what needs no rounding.
-/

namespace TableApi.Binary64

/-! ### Rounding to whole numbers -/

section

variable {n d : Nat}

/-- A quotient is rounded to at most `k` when it is below the middle between `k` and the next number,
or is the middle and `k` is even. -/
theorem roundDiv_le_iff (hd : 0 < d) (k : Nat) :
    roundDiv n d ≤ k ↔ 2 * n < d * (2 * k + 1) ∨ 2 * n = d * (2 * k + 1) ∧ k % 2 = 0 := by
  have hn := Nat.div_add_mod n d
  have hrest := Nat.mod_lt n hd
  simp only [roundDiv]
  generalize n / d = q at *
  generalize n % d = r at *
  subst hn
  rcases Nat.lt_trichotomy k q with hlt | rfl | hgt
  · obtain ⟨j, rfl⟩ := Nat.exists_eq_add_of_lt hlt
    have hmul : d * (2 * k + 1) + d * (2 * j + 1) = 2 * (d * (k + j + 1)) := by ring
    have hpos : 0 < d * (2 * j + 1) := Nat.mul_pos hd (by omega)
    refine iff_of_false ?_ (by omega)
    split_ifs <;> omega
  · have hmul : d * (2 * k + 1) = 2 * (d * k) + d := by ring
    rw [hmul]
    split_ifs <;> omega
  · obtain ⟨j, rfl⟩ := Nat.exists_eq_add_of_lt hgt
    have hmul : d * (2 * (q + j + 1) + 1) = 2 * (d * q) + 2 * d + d * (2 * j + 1) := by ring
    refine iff_of_true ?_ (.inl (by omega))
    split_ifs <;> omega

/-- Rounding to the nearest integer keeps the order of ratios. -/
theorem roundDiv_mono {n' d' : Nat} (hd : 0 < d) (hd' : 0 < d') (h : n * d' ≤ n' * d) :
    roundDiv n d ≤ roundDiv n' d' := by
  rw [roundDiv_le_iff hd]
  have hk := (roundDiv_le_iff (n := n') hd' _).1 le_rfl
  generalize roundDiv n' d' = k at *
  have hcross : 2 * n * d' ≤ 2 * n' * d := by linarith
  rcases hk with hlt | ⟨heq, heven⟩
  · left
    have hscaled : 2 * n' * d < d' * (2 * k + 1) * d := Nat.mul_lt_mul_of_pos_right hlt hd
    apply Nat.lt_of_mul_lt_mul_right (a := d')
    linarith
  · have hscaled : 2 * n * d' ≤ d * (2 * k + 1) * d' := by
      rw [heq] at hcross
      linarith
    rcases Nat.lt_or_eq_of_le (Nat.le_of_mul_le_mul_right hscaled hd') with hlt | heq
    · exact .inl hlt
    · exact .inr ⟨heq, heven⟩

theorem roundDiv_mul (hd : 0 < d) (k : Nat) : roundDiv (k * d) d = k := by
  simp only [roundDiv, Nat.mul_div_cancel _ hd, Nat.mul_mod_left]
  rw [if_pos (by omega)]

end

/-! ### Rounding to fifty-three binary digits -/

/-- The binary digits that a ratio has beyond the fifty-third before its point. -/
def excess (n d : Nat) : Nat := (n / d).log2 + 1 - 53

/-- The nearest number of at most fifty-three binary digits before zeros. -/
def rounded (n d : Nat) : Nat := roundDiv n (d * 2 ^ excess n d) * 2 ^ excess n d

section

variable {n d : Nat}

theorem log2_mono {a b : Nat} (h : a ≤ b) : a.log2 ≤ b.log2 := by
  rcases Nat.eq_zero_or_pos a with rfl | hpos
  · exact Nat.zero_le _
  · rw [Nat.le_log2 (by omega)]
    exact (Nat.log2_self_le (by omega)).trans h

theorem lt_of_excess (hd : 0 < d) : n < 2 ^ 53 * (d * 2 ^ excess n d) := by
  have hlog : n / d < 2 ^ ((n / d).log2 + 1) := Nat.lt_log2_self
  have hpow : 2 ^ ((n / d).log2 + 1) ≤ 2 ^ (53 + excess n d) :=
    Nat.pow_le_pow_right (by decide) (by unfold excess; omega)
  have hlt := (Nat.div_lt_iff_lt_mul hd).1 (Nat.lt_of_lt_of_le hlog hpow)
  rw [pow_add] at hlt
  calc n < 2 ^ 53 * 2 ^ excess n d * d := hlt
    _ = 2 ^ 53 * (d * 2 ^ excess n d) := by ring

theorem le_of_excess (hd : 0 < d) (h : 0 < excess n d) : 2 ^ 52 * (d * 2 ^ excess n d) ≤ n := by
  have hne : n / d ≠ 0 := by
    intro hzero
    rw [excess, hzero] at h
    exact absurd h (by decide)
  have hlog : 2 ^ (n / d).log2 ≤ n / d := Nat.log2_self_le hne
  rw [show (n / d).log2 = 52 + excess n d by unfold excess at *; omega, pow_add] at hlog
  have hle := (Nat.le_div_iff_mul_le hd).1 hlog
  calc 2 ^ 52 * (d * 2 ^ excess n d) = 2 ^ 52 * 2 ^ excess n d * d := by ring
    _ ≤ n := hle

theorem step_pos (hd : 0 < d) (e : Nat) : 0 < d * 2 ^ e := Nat.mul_pos hd (Nat.pow_pos (by decide))

theorem roundDiv_le_of_excess (hd : 0 < d) : roundDiv n (d * 2 ^ excess n d) ≤ 2 ^ 53 := by
  have hstep := step_pos hd (excess n d)
  have hle := lt_of_excess (n := n) hd
  calc roundDiv n (d * 2 ^ excess n d)
    _ ≤ roundDiv (2 ^ 53 * (d * 2 ^ excess n d)) (d * 2 ^ excess n d) :=
        roundDiv_mono hstep hstep (Nat.mul_le_mul_right _ hle.le)
    _ = 2 ^ 53 := roundDiv_mul hstep _

theorem le_roundDiv_of_excess (hd : 0 < d) (h : 0 < excess n d) :
    2 ^ 52 ≤ roundDiv n (d * 2 ^ excess n d) := by
  have hstep := step_pos hd (excess n d)
  have hle := le_of_excess hd h
  calc 2 ^ 52 = roundDiv (2 ^ 52 * (d * 2 ^ excess n d)) (d * 2 ^ excess n d) :=
        (roundDiv_mul hstep _).symm
    _ ≤ roundDiv n (d * 2 ^ excess n d) := roundDiv_mono hstep hstep (Nat.mul_le_mul_right _ hle)

/-- And so does rounding to fifty-three binary digits, also where the exponent grows. -/
theorem rounded_mono {n' d' : Nat} (hd : 0 < d) (hd' : 0 < d') (h : n * d' ≤ n' * d) :
    rounded n d ≤ rounded n' d' := by
  have hfloor : n / d ≤ n' / d' := by
    rw [Nat.le_div_iff_mul_le hd']
    have hmul : n / d * d ≤ n := Nat.div_mul_le_self n d
    apply Nat.le_of_mul_le_mul_right _ hd
    calc n / d * d' * d = n / d * d * d' := by ring
      _ ≤ n * d' := Nat.mul_le_mul_right _ hmul
      _ ≤ n' * d := h
  have hlog : excess n d ≤ excess n' d' := by
    have hmono : (n / d).log2 ≤ (n' / d').log2 := log2_mono hfloor
    unfold excess
    omega
  rcases Nat.eq_or_lt_of_le hlog with heq | hlt
  · rw [rounded, rounded, heq]
    refine Nat.mul_le_mul_right _ (roundDiv_mono (step_pos hd _) (step_pos hd' _) ?_)
    calc n * (d' * 2 ^ excess n' d') = n * d' * 2 ^ excess n' d' := by ring
      _ ≤ n' * d * 2 ^ excess n' d' := Nat.mul_le_mul_right _ h
      _ = n' * (d * 2 ^ excess n' d') := by ring
  · -- a number with more digits is rounded to at least the power of two that ends the fewer
    calc rounded n d ≤ 2 ^ 53 * 2 ^ excess n d :=
          Nat.mul_le_mul_right _ (roundDiv_le_of_excess hd)
      _ = 2 ^ 52 * 2 ^ (excess n d + 1) := by ring
      _ ≤ 2 ^ 52 * 2 ^ excess n' d' :=
          Nat.mul_le_mul_left _ (Nat.pow_le_pow_right (by decide) hlt)
      _ ≤ rounded n' d' := Nat.mul_le_mul_right _ (le_roundDiv_of_excess hd' (by omega))

theorem rounded_congr {n' d' : Nat} (hd : 0 < d) (hd' : 0 < d') (h : n * d' = n' * d) :
    rounded n d = rounded n' d' :=
  Nat.le_antisymm (rounded_mono hd hd' h.le) (rounded_mono hd' hd h.ge)

/-- What has at most fifty-three binary digits before zeros is not changed. -/
theorem rounded_of_short {m k : Nat} (hd : 0 < d) (hm : m < 2 ^ 53) (hn : n = m * 2 ^ k * d) :
    rounded n d = m * 2 ^ k := by
  have hexcess : excess n d ≤ k := by
    rw [excess, hn, Nat.mul_div_cancel _ hd]
    rcases Nat.eq_zero_or_pos (m * 2 ^ k) with hzero | hpos
    · rw [hzero]
      exact Nat.zero_le _
    · have hlt : m * 2 ^ k < 2 ^ (53 + k) := by
        rw [pow_add]
        exact Nat.mul_lt_mul_of_pos_right hm (Nat.pow_pos (by decide))
      have hlog := (Nat.log2_lt (by omega)).2 hlt
      omega
  rw [rounded]
  generalize excess n d = e at *
  obtain ⟨j, rfl⟩ := Nat.exists_eq_add_of_le hexcess
  have hsplit : n = m * 2 ^ j * (d * 2 ^ e) := by
    rw [hn, pow_add]
    ring
  rw [hsplit, roundDiv_mul (step_pos hd e), pow_add]
  ring

end

/-! ### Places -/

def lastExponent : Nat := 2045

/-- The position of the infinities: the power of two after the largest number. -/
def top : Nat := 2 ^ 53 * 2 ^ lastExponent

/-- The position of what is rounded to a number of units: from that of the infinities on it is theirs. -/
def capped (n : Nat) : Nat := min top n

theorem capped_mono {m n : Nat} (h : m ≤ n) : capped m ≤ capped n := min_le_min_left top h

theorem capped_of_le {n : Nat} (h : n ≤ top) : capped n = n := Nat.min_eq_right h

theorem capped_of_ge {n : Nat} (h : top ≤ n) : capped n = top := Nat.min_eq_left h

theorem capped_zero : capped 0 = 0 := capped_of_le (Nat.zero_le _)

def signed (negative : Bool) (n : Nat) : Int := if negative then -n else n

@[simp] theorem signed_false (n : Nat) : signed false n = n := rfl

@[simp] theorem signed_true (n : Nat) : signed true n = -(n : Int) := rfl

/-- The position of a number on the scale of the smallest positive one. The zeros have one position. -/
def position : Binary64 → Int
  | .nan => 0
  | .infinite negative => signed negative top
  | .finite negative m e => signed negative (magnitude m e)

/-- A number that fits 64 bits: an infinity, or a finite one within its bounds. -/
def IsDouble : Binary64 → Prop
  | .nan => False
  | .infinite _ => True
  | .finite _ m e => m < 2 ^ 53 ∧ e ≤ lastExponent

theorem magnitude_lt_top {m e : Nat} (hm : m < 2 ^ 53) (he : e ≤ lastExponent) :
    magnitude m e < top :=
  calc magnitude m e
    _ < 2 ^ 53 * 2 ^ e := Nat.mul_lt_mul_of_pos_right hm (Nat.pow_pos (by decide))
    _ ≤ top := Nat.mul_le_mul_left _ (Nat.pow_le_pow_right (by decide) he)

theorem top_pos : 0 < top := Nat.mul_pos (by decide) (Nat.pow_pos (by decide))

theorem IsDouble.position_finite {negative : Bool} {m e : Nat} (h : (finite negative m e).IsDouble) :
    -(top : Int) < (finite negative m e).position ∧ (finite negative m e).position < top := by
  have hlt := magnitude_lt_top h.1 h.2
  cases negative <;> simp only [position, signed_false, signed_true] <;> omega

/-- No number stands above or below an infinity. -/
theorem IsDouble.eq_infinite {x : Binary64} (h : x.IsDouble) :
    ((infinite false).position ≤ x.position → x = infinite false) ∧
      (x.position ≤ (infinite true).position → x = infinite true) := by
  have htop := top_pos
  have hlow : (infinite true).position = -(top : Int) := rfl
  have hhigh : (infinite false).position = top := rfl
  cases x with
  | nan => exact h.elim
  | infinite negative =>
    cases negative
    · exact ⟨fun _ => rfl, fun hle => absurd hle (by omega)⟩
    · exact ⟨fun hle => absurd hle (by omega), fun _ => rfl⟩
  | finite negative m e =>
    have hbounds := h.position_finite
    exact ⟨fun hle => absurd hle (by omega), fun hle => absurd hle (by omega)⟩

/-- Numbers are compared by their positions. -/
theorem lt_iff_position_lt {x y : Binary64} (hx : x.IsDouble) (hy : y.IsDouble) :
    x.lt y = true ↔ x.position < y.position := by
  have htop := top_pos
  have hlow : (infinite true).position = -(top : Int) := rfl
  have hhigh : (infinite false).position = top := rfl
  cases x with
  | nan => exact hx.elim
  | infinite s =>
    cases y with
    | nan => exact hy.elim
    | infinite t =>
      cases s <;> cases t
      · exact iff_of_false Bool.false_ne_true (lt_irrefl _)
      · exact iff_of_false Bool.false_ne_true (by omega)
      · exact iff_of_true rfl (by omega)
      · exact iff_of_false Bool.false_ne_true (lt_irrefl _)
    | finite t n f =>
      have hbounds := IsDouble.position_finite hy
      cases s
      · exact iff_of_false Bool.false_ne_true (by omega)
      · exact iff_of_true rfl (by omega)
  | finite s m e =>
    have hbounds := IsDouble.position_finite hx
    cases y with
    | nan => exact hy.elim
    | infinite t =>
      cases t
      · exact iff_of_true rfl (by omega)
      · exact iff_of_false Bool.false_ne_true (by omega)
    | finite t n f => cases s <;> cases t <;> simp [lt, scaled?, position]

/-- Packing keeps a number below the infinities and makes any other one infinite. -/
theorem pack_spec (negative : Bool) {m e : Nat} (hm : m < 2 ^ 53) (hleast : e = 0 ∨ 2 ^ 52 ≤ m) :
    (pack negative m e).IsDouble ∧
      (pack negative m e).position = signed negative (capped (magnitude m e)) := by
  unfold pack
  split
  · rename_i hlarge
    have htop : top ≤ magnitude m e := by
      have hpow : 2 ^ (lastExponent + 1) ≤ 2 ^ e := Nat.pow_le_pow_right (by decide) hlarge
      calc top = 2 ^ 52 * 2 ^ (lastExponent + 1) := by rw [top]; ring
        _ ≤ m * 2 ^ e := Nat.mul_le_mul (by omega) hpow
    rw [capped_of_ge htop]
    exact ⟨trivial, rfl⟩
  · rename_i hsmall
    have he : e ≤ lastExponent := Nat.le_of_not_lt hsmall
    rw [capped_of_le (magnitude_lt_top hm he).le]
    exact ⟨⟨hm, he⟩, rfl⟩

/-- A ratio is rounded to fifty-three digits, and to an infinity from its position on. -/
theorem ofRatio_spec (negative : Bool) (num : Nat) {den : Nat} (hden : 0 < den) :
    (ofRatio negative num den).IsDouble ∧
      (ofRatio negative num den).position = signed negative (capped (rounded (num * unit) den)) := by
  have hle := roundDiv_le_of_excess (n := num * unit) hden
  have hge := le_roundDiv_of_excess (n := num * unit) hden
  have hleast : 2 * leastSignificand = 2 ^ 53 := rfl
  have hofRatio : ofRatio negative num den =
      if roundDiv (num * unit) (den * 2 ^ excess (num * unit) den) = 2 * leastSignificand then
        pack negative leastSignificand (excess (num * unit) den + 1)
      else pack negative (roundDiv (num * unit) (den * 2 ^ excess (num * unit) den))
        (excess (num * unit) den) := rfl
  rw [hofRatio, rounded, hleast]
  generalize roundDiv (num * unit) (den * 2 ^ excess (num * unit) den) = m at *
  generalize excess (num * unit) den = e at *
  split
  · rename_i hcarry
    have hspec := pack_spec negative (m := leastSignificand) (e := e + 1) (by decide) (.inr le_rfl)
    have hmagnitude : magnitude leastSignificand (e + 1) = m * 2 ^ e := by
      calc leastSignificand * 2 ^ (e + 1) = 2 * leastSignificand * 2 ^ e := by ring
        _ = m * 2 ^ e := by rw [hleast, hcarry]
    rwa [hmagnitude] at hspec
  · rename_i hne
    exact pack_spec negative (by omega) (by omega)

end TableApi.Binary64
