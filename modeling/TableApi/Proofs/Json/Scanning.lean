import TableApi.Proofs.Json.Quoted
import TableApi.Proofs.Number.Reading

/-!
Scanning a compact text. A token is found again in its own text, whatever stands before it; what stands
after it counts for a number alone, and no separator goes on with one.
-/

namespace TableApi.Json

/-! ### Texts one after the other -/

variable {place : Place} {found found' : List Lexeme} {c : Char}

theorem start_append (c : Char) (found : List Lexeme) :
    start c found = (start c []).map fun x => (x.1, x.2 ++ found) := by
  unfold start
  split
  case h_15 => split <;> rfl
  all_goals rfl

/-- What was found before is left alone. -/
theorem step_append (c : Char) (place : Place) (found found' : List Lexeme) :
    step c place (found ++ found') = (step c place found).map fun x => (x.1, x.2 ++ found') := by
  have hstart (found : List Lexeme) :
      start c (found ++ found') = (start c found).map fun x => (x.1, x.2 ++ found') := by
    rw [start_append c (found ++ found'), start_append c found, Option.map_map]
    simp only [Function.comp_def, List.append_assoc]
  cases place with
  | between => exact hstart found
  | word owed token =>
    rcases owed with _ | ⟨x, _ | ⟨y, rest⟩⟩
    · exact hstart (.token token :: found)
    · simp only [step]
      split <;> rfl
    · simp only [step]
      split <;> rfl
  | number read =>
    simp only [step]
    split
    · rfl
    · split
      · exact hstart (_ :: found)
      · rfl
  | string read =>
    simp only [step]
    split
    · rfl
    · split
      · rfl
      · split <;> rfl
  | escaped read =>
    simp only [step]
    split
    · rfl
    · rw [Option.map_map]
      rfl
  | code read owed value =>
    simp only [step, Option.map_map]
    congr 1
    funext digit
    simp only [Function.comp_apply]
    split <;> rfl

/-- The lexemes found before make no difference to the scanner. -/
theorem scanFrom_found (place : Place) (found found' : List Lexeme) (s : List Char) :
    scanFrom place (found ++ found') s = (scanFrom place found s).map (· ++ found') := by
  induction s generalizing place found with
  | nil =>
    rw [scanFrom, scanFrom]
    cases place with
    | between => rfl
    | number read =>
      simp only [finish, Option.map_map]
      rfl
    | word | string | escaped | code => rfl
  | cons c s ih =>
    rw [scanFrom, scanFrom, step_append]
    cases step c place found with
    | none => rfl
    | some x => exact ih x.1 x.2

def EndsNumber (s : List Char) : Prop := ∀ c ∈ s.head?, isNumberChar c = false

/-- A text that can be scanned to its end can be scanned before another. -/
theorem scanFrom_append {s rest : List Char} (h : scanFrom place found s = some found')
    (hrest : EndsNumber rest) :
    scanFrom place found (s ++ rest) = scanFrom .between found' rest := by
  induction s generalizing place found with
  | nil =>
    rw [scanFrom] at h
    rw [List.nil_append]
    cases place with
    | between =>
      obtain rfl := Option.some.inj h
      rfl
    | number read =>
      obtain ⟨x, hx, rfl⟩ := Option.map_eq_some_iff.1 h
      cases rest with
      | nil =>
        simp only [scanFrom, finish, hx, Option.map_some]
      | cons c rest =>
        have hc : isNumberChar c = false := hrest c rfl
        simp only [scanFrom, step, hc, hx, Bool.false_eq_true, if_false]
    | word | string | escaped | code => cases h
  | cons c s ih =>
    rw [scanFrom] at h
    rw [List.cons_append, scanFrom]
    split at h
    · exact ih h
    · cases h

/-! ### Tokens -/

def Token.Returns (t : Token) : Prop := scan t.text = some [.token t]

/-- A token that is one character which no number goes on with. -/
def Token.IsSymbol (t : Token) : Prop :=
  ∃ c, t.text = [c] ∧ isNumberChar c = false ∧
    ∀ found, start c found = some (.between, .token t :: found)

theorem isSymbol_of_mem {t : Token}
    (h : t ∈ [Token.openBrace, .closeBrace, .openBracket, .closeBracket, .colon, .comma]) :
    t.IsSymbol := by
  simp only [List.mem_cons, List.not_mem_nil, or_false] at h
  rcases h with rfl | rfl | rfl | rfl | rfl | rfl
  all_goals exact ⟨_, rfl, rfl, fun _ => rfl⟩

/-- Tokens that are found in their texts, put one after the other, before any text that does not go
on with a number. -/
def Scans (ts : List Token) : Prop :=
  ∀ found rest, EndsNumber rest →
    scanFrom .between found (ts.flatMap Token.text ++ rest) =
      scanFrom .between ((ts.map Lexeme.token).reverse ++ found) rest

theorem scans_nil : Scans [] := fun _ _ _ => rfl

variable {t : Token} {ts us : List Token}

theorem Token.Returns.scans (h : t.Returns) : Scans [t] := by
  intro found rest hrest
  obtain ⟨lexemes, hscan, hlexemes⟩ := Option.map_eq_some_iff.1 h
  obtain rfl := List.reverse_eq_iff.1 hlexemes
  have hfound := scanFrom_found .between [] found t.text
  rw [hscan] at hfound
  rw [List.flatMap_singleton]
  exact scanFrom_append hfound hrest

theorem Scans.cons_symbol (ht : t.IsSymbol) (hus : Scans us) : Scans (t :: us) := by
  intro found rest hrest
  obtain ⟨c, htext, -, hstart⟩ := ht
  rw [List.flatMap_cons, htext, List.append_assoc, List.singleton_append, scanFrom, step, hstart]
  simp only [List.map_cons, List.reverse_cons, List.append_assoc, List.singleton_append]
  exact hus _ rest hrest

/-- A symbol between two texts keeps them apart. -/
theorem Scans.append_symbol (hts : Scans ts) (ht : t.IsSymbol) (hus : Scans us) :
    Scans (ts ++ t :: us) := by
  intro found rest hrest
  have hends : EndsNumber ((t :: us).flatMap Token.text ++ rest) := by
    obtain ⟨c, htext, hc, -⟩ := ht
    intro first hfirst
    rw [List.flatMap_cons, htext] at hfirst
    obtain rfl : c = first := by simpa using hfirst
    exact hc
  rw [List.flatMap_append, List.append_assoc, hts _ _ hends, hus.cons_symbol ht _ rest hrest,
    List.map_append, List.reverse_append, List.append_assoc]

/-! ### Strings -/

theorem hexValue?_hexDigit : ∀ n < 16, Text.hexValue? (Text.hexDigit n) = some n := by
  decide

/-- Every character inside a string is read as one piece, and the piece stands for it. -/
theorem scanFrom_escape (c : Char) (read : List Piece) (found : List Lexeme) (rest : List Char) :
    ∃ piece, scanFrom (.string read) found (escape c ++ rest) =
        scanFrom (.string (piece :: read)) found rest ∧
      ∀ done, characters? done (piece :: read) = characters? (c :: done) read := by
  have hwritten := written_escape c
  generalize escape c = s at *
  cases hwritten with
  | plain hslash hquote hcontrol =>
    refine ⟨.char c, ?_, fun done => rfl⟩
    simp only [List.singleton_append, scanFrom, step, hslash, hquote, hcontrol, if_false]
  | letter x hx hread =>
    refine ⟨.char c, ?_, fun done => rfl⟩
    simp only [List.cons_append, List.nil_append, scanFrom, step, hx, hread, if_false, Option.map_some]
    rfl
  | number hcontrol =>
    refine ⟨.code c.toNat, ?_, fun done => ?_⟩
    · have hzero : Text.hexValue? '0' = some 0 := rfl
      have hhigh := hexValue?_hexDigit (c.toNat / 16) (by omega)
      have hlow := hexValue?_hexDigit (c.toNat % 16) (by omega)
      have hcode : c.toNat / 16 * 16 + c.toNat % 16 = c.toNat := by omega
      simp [scanFrom, step, hzero, hhigh, hlow, hcode]
    · have hhigh : isHighSurrogate c.toNat = false := by simp [isHighSurrogate]; omega
      have hlow : isLowSurrogate c.toNat = false := by simp [isLowSurrogate]; omega
      rw [characters?.eq_def]
      simp [hhigh, hlow]

/-- An escaped text is read back character by character. -/
theorem scanFrom_escapes (s : List Char) (read : List Piece) (found : List Lexeme)
    (rest : List Char) :
    ∃ pieces, scanFrom (.string read) found (s.flatMap escape ++ rest) =
        scanFrom (.string pieces) found rest ∧
      ∀ done, characters? done pieces = characters? (s ++ done) read := by
  induction s generalizing read with
  | nil => exact ⟨read, rfl, fun done => rfl⟩
  | cons c s ih =>
    rw [List.flatMap_cons, List.append_assoc]
    obtain ⟨piece, hscan, hpiece⟩ := scanFrom_escape c read found (s.flatMap escape ++ rest)
    obtain ⟨pieces, hscans, hpieces⟩ := ih (piece :: read)
    exact ⟨pieces, hscan.trans hscans, fun done => (hpieces done).trans (hpiece (s ++ done))⟩

theorem returns_str (s : String) : (Token.str s).Returns := by
  obtain ⟨pieces, hscan, hpieces⟩ := scanFrom_escapes s.toList [] [] ['"']
  have hlexeme : stringLexeme pieces = .token (.str s) := by
    rw [stringLexeme, hpieces, List.append_nil, characters?]
    exact congrArg (fun s => Lexeme.token (.str s)) String.ofList_toList
  rw [Token.Returns, scan, Token.text, quoted, scanFrom]
  simp only [step, start, hscan, scanFrom, finish, hlexeme, if_true, Option.map_some]
  rfl

/-! ### Integers -/

theorem start_of_isDigit {c : Char} (h : c.isDigit = true ∨ c = '-') (found : List Lexeme) :
    start c found = some (.number [c], found) := by
  unfold start
  split
  case h_15 => simp [h]
  all_goals simp at h

/-- The characters of a number are read up to its end. -/
theorem scanFrom_number {s : List Char} (h : ∀ c ∈ s, isNumberChar c = true) (read : List Char)
    (found : List Lexeme) :
    scanFrom (.number read) found s =
      (numberLexeme? (s.reverse ++ read)).map fun lexeme => lexeme :: found := by
  induction s generalizing read with
  | nil => rfl
  | cons c s ih =>
    obtain ⟨hc, hs⟩ := List.forall_mem_cons.1 h
    rw [scanFrom, step, if_pos hc]
    simp only [ih hs, List.reverse_cons, List.append_assoc, List.singleton_append]

theorem isNumberChar_of_isDigit {c : Char} (h : c.isDigit = true) : isNumberChar c = true := by
  simp [isNumberChar, h]

namespace Numeral

/-- An integer of 64 bits takes in all of its digits. -/
theorem gather_of_le {value taken : Nat} {s : List Char}
    (h : s.foldl (fun n c => 10 * n + Text.digitValue c) value ≤ Text.maxUnsigned64) :
    gather value taken s =
      (s.foldl (fun n c => 10 * n + Text.digitValue c) value, taken + s.length) := by
  induction s generalizing value taken with
  | nil => rfl
  | cons c s ih =>
    rw [List.foldl_cons] at h ⊢
    -- the digits that follow do not make the number smaller
    have hnext : 10 * value + Text.digitValue c ≤ Text.maxUnsigned64 := by
      refine le_trans ?_ h
      rw [Text.foldl_digitValue]
      exact Nat.le_add_right_of_le (Nat.le_mul_of_pos_right _ (by positivity))
    rw [gather]
    simp only [Nat.not_lt.2 hnext, if_false]
    rw [ih h, List.length_cons, Nat.add_right_comm, Nat.add_assoc]

/-- No integer is written with a needless zero. -/
theorem wholePart_toDigits (n : Nat) : wholePart (Nat.toDigits 10 n) = true := by
  have hdigits := Text.isDigit_of_mem_toDigits (n := n)
  have hvalue := Text.digitsValue_toDigits n
  have hlength (k : Nat) (hk : 0 < k) := Nat.length_toDigits_le_iff (b := 10) (n := n) (by decide) hk
  have hne : Nat.toDigits 10 n ≠ [] := Nat.toDigits_ne_nil
  generalize Nat.toDigits 10 n = s at *
  unfold wholePart
  split
  · exact absurd rfl hne
  · rfl
  · rename_i rest hrest
    have hzero : Text.digitValue '0' = 0 := rfl
    have hsome : 0 < rest.length := List.length_pos_of_ne_nil hrest
    rw [Text.digitsValue_cons, hzero, Nat.zero_mul, Nat.zero_add] at hvalue
    have hlt : n < 10 ^ rest.length :=
      hvalue ▸ Text.digitsValue_lt (List.forall_mem_cons.1 hdigits).2
    have hle := (hlength _ hsome).2 hlt
    rw [List.length_cons] at hle
    omega
  · rfl

/-- Digits without a needless zero are a whole number. -/
theorem parts?_of_digits {digits : List Char} (hdigits : ∀ c ∈ digits, c.isDigit = true)
    (hwhole : wholePart digits = true) :
    parts? digits = some ⟨false, digits, [], 0, true⟩ ∧
      parts? ('-' :: digits) = some ⟨true, digits, [], 0, true⟩ := by
  have htake : digits.takeWhile Char.isDigit = digits := List.takeWhile_eq_self_iff.2 hdigits
  have hdrop : digits.dropWhile Char.isDigit = [] := List.dropWhile_eq_nil_iff.2 hdigits
  constructor
  · unfold parts?
    split
    rename_i negative body hbody
    -- the first character is a digit, not a sign
    split at hbody
    · exact absurd (hdigits '-' List.mem_cons_self) (by decide)
    · obtain ⟨rfl, rfl⟩ := Prod.mk.inj hbody
      simp [htake, hdrop, hwhole, TableApi.Numeral.readExponent?]
  · simp [parts?, htake, hdrop, hwhole, TableApi.Numeral.readExponent?]

theorem parts?_toString (i : Int) :
    parts? (toString i).toList = some ⟨decide (i < 0), Nat.toDigits 10 i.natAbs, [], 0, true⟩ := by
  obtain ⟨hplain, hminus⟩ :=
    parts?_of_digits Text.isDigit_of_mem_toDigits (wholePart_toDigits i.natAbs)
  rw [TableApi.Numeral.toList_toString]
  split
  · rename_i hi
    rw [hplain, decide_eq_false (not_lt.2 hi)]
  · rename_i hi
    rw [hminus, decide_eq_true (not_le.1 hi)]

/-- The integers of 64 bits, signed or unsigned, are exact. -/
theorem value?_toDigits {i : Int} (hmin : Text.minSigned64 ≤ i) (hmax : i ≤ (Text.maxUnsigned64 : Int)) :
    (Parts.mk (decide (i < 0)) (Nat.toDigits 10 i.natAbs) [] 0 true).value? = some (.inl i) := by
  have hvalue := Text.digitsValue_toDigits i.natAbs
  rw [Text.digitsValue] at hvalue
  rw [Text.minSigned64] at hmin
  have hsize : Text.maxUnsigned64 = 0xFFFFFFFFFFFFFFFF := rfl
  have hleast : Text.minSigned64.natAbs = 0x8000000000000000 := rfl
  have hgather : gather 0 0 (Nat.toDigits 10 i.natAbs) =
      (i.natAbs, 0 + (Nat.toDigits 10 i.natAbs).length) := by
    rw [gather_of_le (by rw [hvalue]; omega), hvalue]
  simp only [Parts.value?, hgather, Nat.zero_add, Nat.sub_self, hleast]
  by_cases hi : i < 0
  · have hsmall : ¬ (i = 0 ∨ 9223372036854775808 < i.natAbs) := by omega
    simp [hi, hsmall, abs_of_neg hi]
  · simp [hi, abs_of_nonneg (not_lt.1 hi)]

end Numeral

/-- Integers of 64 bits are read back exactly. -/
theorem returns_int {i : Int} (hmin : Text.minSigned64 ≤ i) (hmax : i ≤ (Text.maxUnsigned64 : Int)) :
    (Token.int i).Returns := by
  have hdigits := Text.isDigit_of_mem_toDigits (n := i.natAbs)
  obtain ⟨c, rest, htext, hc, hchars⟩ : ∃ c rest, (toString i).toList = c :: rest ∧
      (c.isDigit = true ∨ c = '-') ∧ ∀ x ∈ rest, isNumberChar x = true := by
    rw [TableApi.Numeral.toList_toString]
    split
    · obtain ⟨c, rest, htext⟩ := List.exists_cons_of_ne_nil (Nat.toDigits_ne_nil (n := i.natAbs) (b := 10))
      rw [htext] at hdigits ⊢
      exact ⟨c, rest, rfl, .inl (hdigits c List.mem_cons_self),
        fun x hx => isNumberChar_of_isDigit (hdigits x (List.mem_cons_of_mem c hx))⟩
    · exact ⟨'-', _, rfl, .inr rfl, fun x hx => isNumberChar_of_isDigit (hdigits x hx)⟩
  have hlexeme : numberLexeme? (toString i).toList.reverse = some (.token (.int i)) := by
    rw [numberLexeme?, List.reverse_reverse, Numeral.parts?_toString, Option.map_some,
      Numeral.value?_toDigits hmin hmax]
  rw [htext, List.reverse_cons] at hlexeme
  rw [Token.Returns, scan, Token.text, htext, scanFrom, step, start_of_isDigit hc]
  simp only [scanFrom_number hchars, hlexeme, Option.map_some]
  rfl

end TableApi.Json
