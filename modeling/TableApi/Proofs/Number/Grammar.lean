import TableApi.Proofs.Number.Reading
import TableApi.Proofs.Text.Cuts

/-!
The texts of numbers: behind an optional sign a word for infinity or for what is no number, or
digits with an optional point among, before or behind them and an optional exponent. Just these texts
are read.
-/

namespace TableApi

namespace Numeral

inductive IsSign : List Char → Prop
  | none : IsSign []
  | plus : IsSign ['+']
  | minus : IsSign ['-']

inductive IsMantissa : List Char → Prop
  | plain {digits : List Char} (hne : digits ≠ []) (hdigits : ∀ c ∈ digits, c.isDigit = true) :
    IsMantissa digits
  | pointed {whole fraction : List Char} (hne : whole ≠ [] ∨ fraction ≠ [])
    (hwhole : ∀ c ∈ whole, c.isDigit = true) (hfraction : ∀ c ∈ fraction, c.isDigit = true) :
    IsMantissa (whole ++ '.' :: fraction)

inductive IsExponent : List Char → Prop
  | none : IsExponent []
  | some {e : Char} {sign digits : List Char} (he : e = 'e' ∨ e = 'E') (hsign : IsSign sign)
    (hne : digits ≠ []) (hdigits : ∀ c ∈ digits, c.isDigit = true) :
    IsExponent (e :: (sign ++ digits))

/-! ### Signs -/

theorem exists_sign (s : List Char) : ∃ sign, IsSign sign ∧ s = sign ++ (readSign s).2 := by
  unfold readSign
  split
  · exact ⟨_, .minus, rfl⟩
  · exact ⟨_, .plus, rfl⟩
  · exact ⟨_, .none, rfl⟩

/-- A sign is read off a text that does not itself begin with one. -/
theorem readSign_append {sign body : List Char} (hsign : IsSign sign)
    (hbody : ∀ c ∈ body.head?, c ≠ '-' ∧ c ≠ '+') : (readSign (sign ++ body)).2 = body := by
  cases hsign with
  | plus => rfl
  | minus => rfl
  | none =>
    rw [List.nil_append]
    unfold readSign
    split
    · exact absurd rfl (hbody '-' rfl).1
    · exact absurd rfl (hbody '+' rfl).2
    · rfl

theorem ne_sign_of_isDigit {c : Char} (h : c.isDigit = true) : c ≠ '-' ∧ c ≠ '+' := by
  constructor <;> rintro rfl <;> cases h

/-- Digits do not begin with a sign. -/
theorem readSign_digits {sign digits : List Char} (hsign : IsSign sign)
    (hdigits : ∀ c ∈ digits, c.isDigit = true) : (readSign (sign ++ digits)).2 = digits :=
  readSign_append hsign fun c hc => ne_sign_of_isDigit (hdigits c (List.mem_of_mem_head? hc))

/-! ### Exponents -/

theorem isSome_readExponent?_iff {s : List Char} : (readExponent? s).isSome ↔ IsExponent s := by
  constructor
  · intro h
    unfold readExponent? at h
    split at h
    · exact .none
    · rename_i e rest
      split at h
      · rename_i he
        obtain ⟨sign, hsign, hrest⟩ := exists_sign rest
        dsimp only at h
        split at h
        · cases h
        · rename_i hdigits
          rw [Bool.or_eq_true, not_or] at hdigits
          rw [hrest]
          exact .some he hsign (by simpa using hdigits.1) (by simpa using hdigits.2)
      · cases h
  · rintro (_ | ⟨he, hsign, hne, hdigits⟩)
    · rfl
    · rename_i e sign digits
      have hempty : digits.isEmpty = false := List.isEmpty_eq_false_iff.2 hne
      have hall : digits.all Char.isDigit = true := List.all_eq_true.2 hdigits
      simp [readExponent?, he, readSign_digits hsign hdigits, hempty, hall]

/-- An exponent does not continue the digits before it. -/
theorem IsExponent.head {s : List Char} (h : IsExponent s) :
    ∀ c ∈ s.head?, c.isDigit = false ∧ c ≠ '.' := by
  cases h with
  | none => simp
  | some he =>
    rw [List.head?_cons]
    rintro c ⟨⟩
    rcases he with rfl | rfl <;> exact ⟨rfl, by decide⟩

/-! ### Numerals -/

theorem IsMantissa.head {s : List Char} (h : IsMantissa s) (rest : List Char) :
    ∀ c ∈ (s ++ rest).head?, c ≠ '-' ∧ c ≠ '+' := by
  cases h with
  | plain hne hdigits =>
    obtain ⟨d, digits, rfl⟩ := List.exists_cons_of_ne_nil hne
    rintro c ⟨⟩
    exact ne_sign_of_isDigit (hdigits d List.mem_cons_self)
  | @pointed whole fraction hne hwhole hfraction =>
    cases whole with
    | nil =>
      rintro c ⟨⟩
      decide
    | cons d whole =>
      rintro c ⟨⟩
      exact ne_sign_of_isDigit (hwhole d List.mem_cons_self)

/-- A text that is read falls into a sign, digits and an exponent. -/
theorem exists_of_read? {s : List Char} (h : (read? s).isSome = true) :
    ∃ sign mantissa exponent, IsSign sign ∧ IsMantissa mantissa ∧ IsExponent exponent ∧
      s = sign ++ (mantissa ++ exponent) := by
  obtain ⟨sign, hsign, hs⟩ := exists_sign s
  generalize hbody : (readSign s).2 = body at hs
  have hwhole : ∀ c ∈ body.takeWhile Char.isDigit, c.isDigit = true :=
    fun c hc => List.mem_takeWhile_imp hc
  have hsplit : body.takeWhile Char.isDigit ++ body.dropWhile Char.isDigit = body :=
    List.takeWhile_append_dropWhile
  simp only [read?, hbody] at h
  split at h
  · -- what stands behind the point is cut again where its digits end
    rename_i tail hrest
    rw [hrest] at hsplit
    split at h
    · cases h
    · rename_i hne
      rw [Option.isSome_map, isSome_readExponent?_iff] at h
      rw [Bool.and_eq_true, List.isEmpty_iff, List.isEmpty_iff] at hne
      have hmantissa : IsMantissa
          (body.takeWhile Char.isDigit ++ '.' :: tail.takeWhile Char.isDigit) :=
        .pointed (by tauto) hwhole fun c hc => List.mem_takeWhile_imp hc
      refine ⟨sign, _, _, hsign, hmantissa, h, ?_⟩
      rw [List.append_assoc, List.cons_append, List.takeWhile_append_dropWhile, hsplit]
      exact hs
  · split at h
    · cases h
    · rename_i hne
      rw [Option.isSome_map, isSome_readExponent?_iff] at h
      refine ⟨sign, _, _, hsign, .plain ?_ hwhole, h, ?_⟩
      · simpa using hne
      · rw [hsplit]
        exact hs

theorem isSome_read?_append {sign mantissa exponent : List Char} (hsign : IsSign sign)
    (hmantissa : IsMantissa mantissa) (hexponent : IsExponent exponent) :
    (read? (sign ++ (mantissa ++ exponent))).isSome = true := by
  have hbody := readSign_append hsign (hmantissa.head exponent)
  have hends : ∀ c ∈ exponent.head?, c.isDigit = false := fun c hc => (hexponent.head c hc).1
  have hexponent' := isSome_readExponent?_iff.2 hexponent
  cases hmantissa with
  | plain hne hdigits =>
    obtain ⟨htake, hdrop⟩ := Text.takeWhile_dropWhile_append hdigits hends
    simp only [read?, hbody, htake, hdrop]
    split
    · -- an exponent does not begin with a point
      exact absurd rfl (hexponent.head '.' rfl).2
    · simp [hne, hexponent']
  | @pointed whole fraction hne hwhole hfraction =>
    have hpoint : ∀ c ∈ ('.' :: (fraction ++ exponent)).head?, c.isDigit = false := by simp
    obtain ⟨htake, hdrop⟩ := Text.takeWhile_dropWhile_append hwhole hpoint
    obtain ⟨htake', hdrop'⟩ := Text.takeWhile_dropWhile_append hfraction hends
    rw [List.append_assoc, List.cons_append] at hbody ⊢
    simp only [read?, hbody, htake, hdrop, htake', hdrop']
    rcases hne with hne | hne <;> simp [hne, hexponent']

end Numeral

open Numeral (IsSign IsMantissa IsExponent)

inductive Binary64.IsText : List Char → Prop
  | word {sign word : List Char} (hsign : IsSign sign)
    (hword : String.ofList (word.map Char.toLower) ∈ ["inf", "infinity", "nan"]) :
    IsText (sign ++ word)
  | numeral {sign mantissa exponent : List Char} (hsign : IsSign sign)
    (hmantissa : IsMantissa mantissa) (hexponent : IsExponent exponent) :
    IsText (sign ++ (mantissa ++ exponent))

namespace Binary64

/-- No word begins with a sign. -/
theorem readSign_word {sign word : List Char} (hsign : IsSign sign)
    (hword : String.ofList (word.map Char.toLower) ∈ ["inf", "infinity", "nan"]) :
    (Numeral.readSign (sign ++ word)).2 = word := by
  apply Numeral.readSign_append hsign
  intro c hc
  obtain ⟨rest, rfl⟩ : ∃ rest, word = c :: rest := List.head?_eq_some_iff.1 hc
  constructor <;>
  · rintro rfl
    simp [← String.toList_inj] at hword

theorem isSome_read?_iff {s : List Char} : (read? s).isSome ↔ IsText s := by
  constructor
  · intro h
    obtain ⟨x, hx⟩ := Option.isSome_iff_exists.1 h
    obtain ⟨sign, hsign, hs⟩ := Numeral.exists_sign s
    have hword (h : letters s ∈ ["inf", "infinity", "nan"]) : IsText s := by
      rw [hs]
      exact .word hsign h
    obtain ⟨n, hn, -⟩ | ⟨negative, ⟨hletters, -⟩, -⟩ | hletters := read?_cases hx
    · obtain ⟨sign, mantissa, exponent, hsign, hmantissa, hexponent, rfl⟩ :=
        Numeral.exists_of_read? (Option.isSome_iff_exists.2 ⟨n, hn⟩)
      exact .numeral hsign hmantissa hexponent
    · exact hword (List.mem_append_left ["nan"] hletters)
    · exact hword (by rw [hletters]; decide)
  · rintro (⟨hsign, hword⟩ | ⟨hsign, hmantissa, hexponent⟩)
    · rename_i sign word
      simp only [read?, readSign_word hsign hword]
      simp only [List.mem_cons, List.not_mem_nil, or_false] at hword
      rcases hword with h | h | h <;> simp [h]
    · obtain ⟨n, hn⟩ := Option.isSome_iff_exists.1
        (Numeral.isSome_read?_append hsign hmantissa hexponent)
      rw [read?_of_numeral hn]
      rfl

end Binary64

end TableApi
