import Mathlib.Data.List.TakeWhile
import Mathlib.Tactic.Ring
import TableApi.Text.Blank
import TableApi.Text.Digits
import TableApi.Text.Utf8

namespace TableApi.Text

theorem digitsValue_toDigits (n : Nat) : digitsValue (Nat.toDigits 10 n) = n :=
  Nat.ofDigitChars_ten_toDigits

theorem isDigit_of_mem_toDigits {n : Nat} : ∀ c ∈ Nat.toDigits 10 n, c.isDigit = true :=
  fun _ hc => Nat.isDigit_of_mem_toDigits (by decide) (by decide) hc

theorem toNat_of_isDigit {c : Char} (h : c.isDigit = true) : 48 ≤ c.toNat ∧ c.toNat ≤ 57 := by
  simp only [Char.isDigit, Bool.and_eq_true, decide_eq_true_eq] at h
  exact ⟨UInt32.le_iff_toNat_le.1 h.1, UInt32.le_iff_toNat_le.1 h.2⟩

theorem isBlank_of_isDigit {c : Char} (h : c.isDigit = true) : isBlank c = false := by
  obtain ⟨hge, hle⟩ := toNat_of_isDigit h
  simp [isBlank]
  omega

theorem digitValue_eq {c : Char} (h : c.isDigit = true) : digitValue c + 48 = c.toNat := by
  have hge := (toNat_of_isDigit h).1
  have hzero : '0'.toNat = 48 := rfl
  rw [digitValue, hzero]
  omega

/-- Reading on from a number puts its digits before those that are read. -/
theorem foldl_digitValue (n : Nat) (s : List Char) :
    s.foldl (fun n c => 10 * n + digitValue c) n = n * 10 ^ s.length + digitsValue s := by
  induction s generalizing n with
  | nil => simp [digitsValue]
  | cons c s ih =>
    have hc : digitsValue (c :: s) = digitValue c * 10 ^ s.length + digitsValue s := by
      rw [digitsValue, List.foldl_cons, ih]
      ring_nf
    rw [List.foldl_cons, ih, hc, List.length_cons, pow_succ]
    ring

theorem digitsValue_cons (c : Char) (s : List Char) :
    digitsValue (c :: s) = digitValue c * 10 ^ s.length + digitsValue s := by
  rw [digitsValue, List.foldl_cons, foldl_digitValue]
  ring

theorem digitsValue_lt {s : List Char} (h : ∀ c ∈ s, c.isDigit = true) :
    digitsValue s < 10 ^ s.length := by
  induction s with
  | nil => decide
  | cons c s ih =>
    obtain ⟨hc, hs⟩ := List.forall_mem_cons.1 h
    have hlt := ih hs
    have hdigit := digitValue_eq hc
    have hle := (toNat_of_isDigit hc).2
    have hmul : digitValue c * 10 ^ s.length ≤ 9 * 10 ^ s.length :=
      Nat.mul_le_mul_right _ (by omega)
    rw [digitsValue_cons, List.length_cons, pow_succ]
    omega

theorem digitsValue_replicate_append (k : Nat) (s : List Char) :
    digitsValue (List.replicate k '0' ++ s) = digitsValue s := by
  induction k with
  | zero => rfl
  | succ k ih =>
    have hzero : digitValue '0' = 0 := rfl
    rw [List.replicate_succ, List.cons_append, digitsValue_cons, hzero, Nat.zero_mul, Nat.zero_add,
      ih]

theorem toList_padded (width n : Nat) :
    (padded width n).toList =
      List.replicate (width - (Nat.toDigits 10 n).length) '0' ++ Nat.toDigits 10 n := by
  have hdigits : (toString n).toList = Nat.toDigits 10 n := Nat.toList_repr
  rw [padded, String.toList_ofList, hdigits]

theorem isDigit_of_mem_padded {width n : Nat} : ∀ c ∈ (padded width n).toList, c.isDigit = true := by
  intro c hc
  rw [toList_padded, List.mem_append] at hc
  rcases hc with hc | hc
  · rw [List.eq_of_mem_replicate hc]
    decide
  · exact isDigit_of_mem_toDigits c hc

theorem digitsValue_padded (width n : Nat) : digitsValue (padded width n).toList = n := by
  rw [toList_padded, digitsValue_replicate_append, digitsValue_toDigits]

theorem length_padded {width n : Nat} (hwidth : 0 < width) (hn : n < 10 ^ width) :
    (padded width n).toList.length = width := by
  have hle := (Nat.length_toDigits_le_iff (b := 10) (by decide) hwidth).2 hn
  rw [toList_padded, List.length_append, List.length_replicate]
  omega

theorem padded_ne_nil (width n : Nat) : (padded width n).toList ≠ [] := by
  rw [toList_padded]
  exact List.append_ne_nil_of_right_ne_nil _ Nat.toDigits_ne_nil

def byteOrder (a b : List Char) : Ordering := compare (Utf8.encode a) (Utf8.encode b)

theorem encode_cons {c : Char} (h : c.toNat ≤ 127) (s : List Char) :
    Utf8.encode (c :: s) = UInt8.ofNat c.toNat :: Utf8.encode s := by
  have hchar : String.utf8EncodeChar c = [UInt8.ofNat c.toNat] := if_pos h
  rw [Utf8.encode, List.flatMap_cons, hchar]
  rfl

theorem compare_octets {m n : Nat} (hm : m ≤ 127) (hn : n ≤ 127) :
    compare (UInt8.ofNat m) (UInt8.ofNat n) = compare m n := by
  have hm : (UInt8.ofNat m).toNat = m := UInt8.toNat_ofNat_of_lt' (Nat.lt_of_le_of_lt hm (by decide))
  have hn : (UInt8.ofNat n).toNat = n := UInt8.toNat_ofNat_of_lt' (Nat.lt_of_le_of_lt hn (by decide))
  simp only [compare, compareOfLessAndEq, UInt8.lt_iff_toNat_lt, ← UInt8.toNat_inj, hm, hn]

theorem byteOrder_cons {c d : Char} (hc : c.toNat ≤ 127) (hd : d.toNat ≤ 127) (a b : List Char) :
    byteOrder (c :: a) (d :: b) = (compare c.toNat d.toNat).then (byteOrder a b) := by
  rw [byteOrder, encode_cons hc, encode_cons hd, ← compare_octets hc hd]
  exact List.compareLex_cons_cons

theorem byteOrder_same {c : Char} (hc : c.toNat ≤ 127) (a b : List Char) :
    byteOrder (c :: a) (c :: b) = byteOrder a b := by
  rw [byteOrder_cons hc hc, compare_eq_iff_eq.2 rfl]
  rfl

theorem byteOrder_self (a : List Char) : byteOrder a a = .eq :=
  Std.ReflOrd.compare_self

/-- What stands before both texts does not matter. -/
theorem byteOrder_append_left {a : List Char} (ha : ∀ c ∈ a, c.toNat ≤ 127) (x y : List Char) :
    byteOrder (a ++ x) (a ++ y) = byteOrder x y := by
  induction a with
  | nil => rfl
  | cons c a ih =>
    obtain ⟨hc, ha⟩ := List.forall_mem_cons.1 ha
    rw [List.cons_append, List.cons_append, byteOrder_same hc, ih ha]

/-- Texts that differ somewhere are in the same order whatever comes after them. -/
theorem byteOrder_append_right {a b : List Char} (ha : ∀ c ∈ a, c.toNat ≤ 127)
    (hb : ∀ c ∈ b, c.toNat ≤ 127) (hab : ¬a <+: b) (hba : ¬b <+: a) (x y : List Char) :
    byteOrder (a ++ x) (b ++ y) = byteOrder a b := by
  induction a generalizing b with
  | nil => exact absurd List.nil_prefix hab
  | cons c a ih =>
    obtain _ | ⟨d, b⟩ := b
    · exact absurd List.nil_prefix hba
    · obtain ⟨hc, ha⟩ := List.forall_mem_cons.1 ha
      obtain ⟨hd, htail⟩ := List.forall_mem_cons.1 hb
      rw [List.cons_append, List.cons_append, byteOrder_cons hc hd, byteOrder_cons hc hd]
      by_cases hcd : c = d
      · subst hcd
        rw [ih ha htail (mt (List.prefix_cons_inj c).2 hab) (mt (List.prefix_cons_inj c).2 hba)]
      · have hne : compare c.toNat d.toNat ≠ .eq :=
          fun h => hcd (Char.toNat_inj.1 (Nat.compare_eq_eq.1 h))
        cases hcompare : compare c.toNat d.toNat with
        | eq => exact absurd hcompare hne
        | lt | gt => rfl

theorem compare_add (k m n : Nat) : compare (k + m) (k + n) = compare m n := by
  simp only [compare, compareOfLessAndEq, Nat.add_lt_add_iff_left, Nat.add_left_cancel_iff]

/-- Two numbers of which the leading digits decide, unless they are the same. -/
theorem compare_leading {lead lead' rest rest' k : Nat} (h : rest < k) (h' : rest' < k) :
    compare (lead * k + rest) (lead' * k + rest') = (compare lead lead').then (compare rest rest') := by
  rcases Nat.lt_trichotomy lead lead' with hlt | rfl | hgt
  · have hmul := Nat.mul_le_mul_right k hlt
    rw [Nat.succ_mul] at hmul
    rw [Nat.compare_eq_lt.2 hlt, Nat.compare_eq_lt.2 (by omega)]
    rfl
  · rw [compare_add, Nat.compare_eq_eq.2 rfl]
    rfl
  · have hmul := Nat.mul_le_mul_right k hgt
    rw [Nat.succ_mul] at hmul
    rw [Nat.compare_eq_gt.2 hgt, Nat.compare_eq_gt.2 (by omega)]
    rfl

/-- Digits before anything else are compared as numbers. -/
theorem byteOrder_digits_append {a b : List Char} (ha : ∀ c ∈ a, c.isDigit = true)
    (hb : ∀ c ∈ b, c.isDigit = true) (hlength : a.length = b.length) (x y : List Char) :
    byteOrder (a ++ x) (b ++ y) =
      (compare (digitsValue a) (digitsValue b)).then (byteOrder x y) := by
  induction a generalizing b with
  | nil =>
    obtain rfl := List.length_eq_zero_iff.1 hlength.symm
    rfl
  | cons c a ih =>
    obtain _ | ⟨d, b⟩ := b
    · cases hlength
    · obtain ⟨hc, ha⟩ := List.forall_mem_cons.1 ha
      obtain ⟨hd, hb⟩ := List.forall_mem_cons.1 hb
      have hlength : a.length = b.length := Nat.succ.inj hlength
      have hcle := (toNat_of_isDigit hc).2
      have hdle := (toNat_of_isDigit hd).2
      have hdigits : compare c.toNat d.toNat = compare (digitValue c) (digitValue d) := by
        rw [← digitValue_eq hc, ← digitValue_eq hd, Nat.add_comm, Nat.add_comm _ 48, compare_add]
      have halt := digitsValue_lt ha
      rw [hlength] at halt
      rw [List.cons_append, List.cons_append, byteOrder_cons (by omega) (by omega),
        ih ha hb hlength, hdigits, digitsValue_cons, digitsValue_cons, hlength,
        compare_leading halt (digitsValue_lt hb), Ordering.then_assoc]

end TableApi.Text
