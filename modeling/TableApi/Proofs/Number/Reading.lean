import TableApi.Proofs.Number.Nearest
import TableApi.Proofs.Text.Blanks

namespace TableApi

def Numeral.value (n : Numeral) : ℚ :=
  Binary64.decimal n.negative (Text.digitsValue n.digits) n.scale

theorem Numeral.toBinary64_spec (n : Numeral) :
    n.toBinary64.IsDouble ∧ n.toBinary64.position = (Binary64.ofRat n.value).position :=
  Binary64.ofDecimal_spec _ _ _

namespace Numeral

/-- The characters of the numeral of an integer. -/
theorem toList_toString (i : Int) :
    (toString i).toList = if 0 ≤ i then Nat.toDigits 10 i.natAbs
      else '-' :: Nat.toDigits 10 i.natAbs := by
  rw [Int.toString_eq_repr, Int.repr_eq_if]
  split
  · rename_i hi
    rw [Nat.toList_repr, show i.toNat = i.natAbs by omega]
  · rename_i hi
    rw [String.toList_append, Nat.toList_repr, show (-i).toNat = i.natAbs by omega]
    rfl

theorem readSign_toString (i : Int) :
    readSign (toString i).toList = (decide (i < 0), Nat.toDigits 10 i.natAbs) := by
  rw [toList_toString]
  split
  · rename_i hi
    have hnonneg : decide (i < 0) = false := by simpa using hi
    rw [hnonneg]
    -- the first character is a digit, not a sign
    have hdigits := Text.isDigit_of_mem_toDigits (n := i.natAbs)
    generalize Nat.toDigits 10 i.natAbs = digits at hdigits
    unfold readSign
    split
    · exact absurd (hdigits '-' List.mem_cons_self) (by decide)
    · exact absurd (hdigits '+' List.mem_cons_self) (by decide)
    · rfl
  · rename_i hi
    have hneg : decide (i < 0) = true := by simpa using hi
    rw [hneg]
    rfl

theorem read?_toString (i : Int) :
    read? (toString i).toList =
      some { negative := decide (i < 0), digits := Nat.toDigits 10 i.natAbs, scale := 0,
             plain := true } := by
  have hdigits := Text.isDigit_of_mem_toDigits (n := i.natAbs)
  have htake : (Nat.toDigits 10 i.natAbs).takeWhile Char.isDigit = Nat.toDigits 10 i.natAbs :=
    List.takeWhile_eq_self_iff.2 hdigits
  have hdrop : (Nat.toDigits 10 i.natAbs).dropWhile Char.isDigit = [] :=
    List.dropWhile_eq_nil_iff.2 hdigits
  have hne : (Nat.toDigits 10 i.natAbs).isEmpty = false :=
    List.isEmpty_eq_false_iff.2 Nat.toDigits_ne_nil
  rw [read?, readSign_toString]
  simp [htake, hdrop, hne, readExponent?]

theorem isBlank_of_mem_toString {i : Int} : ∀ c ∈ (toString i).toList, Text.isBlank c = false := by
  intro c hc
  rw [toList_toString] at hc
  split at hc
  · exact Text.isBlank_of_isDigit (Text.isDigit_of_mem_toDigits c hc)
  · rcases List.mem_cons.1 hc with rfl | hc
    · decide
    · exact Text.isBlank_of_isDigit (Text.isDigit_of_mem_toDigits c hc)

/-- The numeral of an integer stands for it. -/
theorem value_toString {i : Int} {n : Numeral} (h : read? (toString i).toList = some n) :
    n.value = i := by
  obtain rfl := Option.some.inj ((read?_toString i).symm.trans h)
  simp only [value, Binary64.decimal, Text.digitsValue_toDigits, zpow_zero, mul_one]
  exact Binary64.ite_natAbs i

end Numeral

def Binary64.letters (s : List Char) : String :=
  String.ofList ((Numeral.readSign s).2.map Char.toLower)

def Binary64.IsInfinityWord (negative : Bool) (s : List Char) : Prop :=
  letters s ∈ ["inf", "infinity"] ∧ (Numeral.readSign s).1 = negative

def Binary64.IsNanWord (s : List Char) : Prop := letters s = "nan"

theorem toLower_of_isDigit {c : Char} (h : c.isDigit = true) : c.toLower = c := by
  have hdigit := Text.toNat_of_isDigit h
  unfold Char.toLower
  rw [dif_neg]
  rintro ⟨hge, -⟩
  have hge : 65 ≤ c.toNat := UInt32.le_iff_toNat_le.1 hge
  omega

/-- No word begins with a digit or a point. -/
theorem Binary64.head_of_letters {s : List Char} (h : letters s ∈ ["inf", "infinity", "nan"]) :
    ∃ c rest, (Numeral.readSign s).2 = c :: rest ∧ c.isDigit = false ∧ c ≠ '.' := by
  have hfirst {c : Char} (hc : c.toLower = 'i' ∨ c.toLower = 'n') : c.isDigit = false ∧ c ≠ '.' := by
    constructor
    · by_contra hdigit
      have hdigit : c.isDigit = true := by simpa using hdigit
      rw [toLower_of_isDigit hdigit] at hc
      rcases hc with rfl | rfl <;> cases hdigit
    · rintro rfl
      exact absurd hc (by decide)
  have hchars (text : String) (hword : letters s = text) :
      (Numeral.readSign s).2.map Char.toLower = text.toList := by
    rw [← hword, letters, String.toList_ofList]
  cases hbody : (Numeral.readSign s).2 with
  | nil =>
    rw [letters, hbody] at h
    exact absurd h (by decide)
  | cons c rest =>
    refine ⟨c, rest, rfl, hfirst ?_⟩
    rw [hbody] at hchars
    simp only [List.mem_cons, List.not_mem_nil, or_false] at h
    rcases h with h | h | h
    · exact .inl (List.cons.inj (hchars _ h)).1
    · exact .inl (List.cons.inj (hchars _ h)).1
    · exact .inr (List.cons.inj (hchars _ h)).1

theorem Binary64.letters_of_numeral {s : List Char} {n : Numeral} (h : Numeral.read? s = some n) :
    letters s ∉ ["inf", "infinity", "nan"] := by
  intro hword
  obtain ⟨c, rest, hbody, hdigit, hpoint⟩ := head_of_letters hword
  have hwhole : (c :: rest).takeWhile Char.isDigit = [] :=
    List.takeWhile_cons_of_neg (by simp [hdigit])
  have hrest : (c :: rest).dropWhile Char.isDigit = c :: rest :=
    List.dropWhile_cons_of_neg (by simp [hdigit])
  simp only [Numeral.read?, hbody, hwhole, hrest] at h
  split at h
  · rename_i hcons
    exact hpoint (List.cons.inj hcons).1
  · simp at h

/-- A numeral is read as its number. -/
theorem Binary64.read?_of_numeral {s : List Char} {n : Numeral} (h : Numeral.read? s = some n) :
    read? s = some n.toBinary64 := by
  have hword := letters_of_numeral h
  simp only [letters, List.mem_cons, List.not_mem_nil, or_false, not_or] at hword
  obtain ⟨hinf, hinfinity, hnan⟩ := hword
  simp only [read?, hinf, hinfinity, hnan, or_self, if_false, h, Option.map_some]

/-- What is read from a text is the number of a numeral, or what the text is a word for. -/
theorem Binary64.read?_cases {s : List Char} {x : Binary64} (h : read? s = some x) :
    (∃ n, Numeral.read? s = some n ∧ x = n.toBinary64) ∨
      (∃ negative, IsInfinityWord negative s ∧ x = .infinite negative) ∨ IsNanWord s := by
  simp only [read?] at h
  split at h
  · rename_i hword
    exact .inr (.inl ⟨_, ⟨by simpa [letters] using hword, rfl⟩, (Option.some.inj h).symm⟩)
  · split at h
    · rename_i hword
      exact .inr (.inr hword)
    · obtain ⟨n, hn, rfl⟩ := Option.map_eq_some_iff.1 h
      exact .inl ⟨n, hn, rfl⟩

theorem Text.isDigit_of_readDigits {limit n m : Nat} {s : List Char}
    (h : readDigits limit n s = .ok m) : ∀ c ∈ s, c.isDigit = true := by
  induction s generalizing n with
  | nil => simp
  | cons c s ih =>
    rw [readDigits] at h
    split at h
    · cases h
    · rename_i hc
      split at h
      · cases h
      · exact List.forall_mem_cons.2 ⟨by simpa using hc, ih h⟩

/-- A text that is a signed integer of 64 bits has a digit, and digits only. -/
theorem digits_of_signed64 {s : List Char} (h : (Text.readSigned64? s).isSome = true) :
    (∀ c ∈ (Numeral.readSign s).2, c.isDigit = true) ∧ (Numeral.readSign s).2 ≠ [] := by
  have hmagnitude {limit m : Nat} {digits : List Char}
      (h : (if digits.isEmpty then none else (Text.readDigits limit 0 digits).toOption) = some m) :
      (∀ c ∈ digits, c.isDigit = true) ∧ digits ≠ [] := by
    split at h
    · cases h
    · rename_i hne
      cases hread : Text.readDigits limit 0 digits with
      | error e =>
        rw [hread] at h
        cases h
      | ok n => exact ⟨Text.isDigit_of_readDigits hread, by simpa using hne⟩
  obtain ⟨i, hi⟩ := Option.isSome_iff_exists.1 h
  unfold Text.readSigned64? at hi
  split at hi
  · obtain ⟨m, hm, -⟩ := Option.map_eq_some_iff.1 hi
    obtain ⟨m, hm, -⟩ := Option.bind_eq_some_iff.1 hm
    exact hmagnitude hm
  · obtain ⟨m, hm, -⟩ := Option.map_eq_some_iff.1 hi
    obtain ⟨m, hm, -⟩ := Option.bind_eq_some_iff.1 hm
    exact hmagnitude hm
  · rename_i hminus hplus
    obtain ⟨m, hm, -⟩ := Option.map_eq_some_iff.1 hi
    obtain ⟨m, hm, -⟩ := Option.bind_eq_some_iff.1 hm
    have hsign : Numeral.readSign s = (false, s) := by
      unfold Numeral.readSign
      split
      · exact absurd rfl (hminus _)
      · exact absurd rfl (hplus _)
      · rfl
    rw [hsign]
    exact hmagnitude hm

theorem exists_numeral_of_signed64 {s : List Char} (h : (Text.readSigned64? s).isSome = true) :
    ∃ n, Numeral.read? s = some n := by
  obtain ⟨hdigits, hne⟩ := digits_of_signed64 h
  have hwhole := List.takeWhile_eq_self_iff.2 hdigits
  have hrest := List.dropWhile_eq_nil_iff.2 hdigits
  simp only [Numeral.read?, hwhole, hrest, List.isEmpty_eq_false_iff.2 hne]
  exact ⟨_, rfl⟩

end TableApi
