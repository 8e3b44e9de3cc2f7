import Mathlib.Tactic.SplitIfs
import TableApi.Json.Scan

namespace TableApi.Json

/-- How a character is written inside a string: as it is, by a letter, or by its number. -/
inductive Written (c : Char) : List Char → Prop
  | plain (hslash : c ≠ '\\') (hquote : c ≠ '"') (hcontrol : ¬ c.toNat < 32) : Written c [c]
  | letter (x : Char) (hx : x ≠ 'u') (hread : unescape? x = some c) : Written c ['\\', x]
  | number (hcontrol : c.toNat < 32) :
    Written c ['\\', 'u', '0', '0', Text.hexDigit (c.toNat / 16), Text.hexDigit (c.toNat % 16)]

/-- Every character is written in one of the three ways. -/
theorem written_escape (c : Char) : Written c (escape c) := by
  unfold escape
  split_ifs with hquote hslash hn hr ht hb hf hcontrol
  · exact .letter '"' (by decide) (by rw [hquote]; rfl)
  · exact .letter '\\' (by decide) (by rw [hslash]; rfl)
  · exact .letter 'n' (by decide) (by rw [hn]; rfl)
  · exact .letter 'r' (by decide) (by rw [hr]; rfl)
  · exact .letter 't' (by decide) (by rw [ht]; rfl)
  · exact .letter 'b' (by decide) (by rw [hb]; rfl)
  · exact .letter 'f' (by decide) (by rw [hf]; rfl)
  · exact .number hcontrol
  · exact .plain hslash hquote hcontrol

theorem hexDigit_inj : ∀ m < 16, ∀ n < 16, Text.hexDigit m = Text.hexDigit n → m = n := by
  decide

/-- Two controls with the same digits are the same. -/
theorem eq_of_hexDigits {c d : Char} (hc : c.toNat < 32) (hd : d.toNat < 32)
    (hhigh : Text.hexDigit (c.toNat / 16) = Text.hexDigit (d.toNat / 16))
    (hlow : Text.hexDigit (c.toNat % 16) = Text.hexDigit (d.toNat % 16)) : c = d := by
  have hdiv := hexDigit_inj _ (by omega) _ (by omega) hhigh
  have hmod := hexDigit_inj _ (by omega) _ (by omega) hlow
  have hnat : c.toNat = d.toNat := by omega
  exact Char.toNat_inj.1 hnat

/-- How a character is written shows where it ends. -/
theorem Written.append_inj {c d : Char} {s t rest rest' : List Char} (hs : Written c s)
    (ht : Written d t) (h : s ++ rest = t ++ rest') : c = d ∧ rest = rest' := by
  -- the first two characters tell which of the three ways it is
  cases hs with
  | plain hslash =>
    cases ht with
    | plain => simpa using h
    | letter | number => simp [hslash] at h
  | letter x hx hread =>
    cases ht with
    | plain hslash => simp [hslash.symm] at h
    | letter y hy hread' =>
      obtain ⟨rfl, hrest⟩ : x = y ∧ rest = rest' := by simpa using h
      exact ⟨Option.some.inj (hread.symm.trans hread'), hrest⟩
    | number => simp [hx] at h
  | number hcontrol =>
    cases ht with
    | plain hslash => simp [hslash.symm] at h
    | letter y hy => simp [hy.symm] at h
    | number hcontrol' =>
      obtain ⟨hhigh, hlow, hrest⟩ : _ ∧ _ ∧ rest = rest' := by simpa using h
      exact ⟨eq_of_hexDigits hcontrol hcontrol' hhigh hlow, hrest⟩

theorem Written.ne_quote {c : Char} {s rest rest' : List Char} (hs : Written c s) :
    s ++ rest ≠ '"' :: rest' := by
  cases hs with
  | plain hslash hquote => simp [hquote]
  | letter | number => simp

/-- A quoted text shows what it is and where it ends. -/
theorem escapes_append_inj {s t rest rest' : List Char}
    (h : s.flatMap escape ++ '"' :: rest = t.flatMap escape ++ '"' :: rest') :
    s = t ∧ rest = rest' := by
  induction s generalizing t with
  | nil =>
    cases t with
    | nil => simpa using h
    | cons d t =>
      rw [List.flatMap_cons, List.append_assoc] at h
      exact absurd h.symm (written_escape d).ne_quote
  | cons c s ih =>
    cases t with
    | nil =>
      rw [List.flatMap_cons, List.append_assoc] at h
      exact absurd h (written_escape c).ne_quote
    | cons d t =>
      rw [List.flatMap_cons, List.flatMap_cons, List.append_assoc, List.append_assoc] at h
      obtain ⟨rfl, htail⟩ := (written_escape c).append_inj (written_escape d) h
      obtain ⟨rfl, hrest⟩ := ih htail
      exact ⟨rfl, hrest⟩

/-- A quoted text that stands at the front can be told from all that follows it. -/
theorem quoted_append_inj {s t : String} {rest rest' : List Char}
    (h : quoted s ++ rest = quoted t ++ rest') : s = t ∧ rest = rest' := by
  have htail :
      s.toList.flatMap escape ++ '"' :: rest = t.toList.flatMap escape ++ '"' :: rest' := by
    simpa [quoted] using h
  obtain ⟨hlist, hrest⟩ := escapes_append_inj htail
  exact ⟨String.toList_inj.1 hlist, hrest⟩

end TableApi.Json
