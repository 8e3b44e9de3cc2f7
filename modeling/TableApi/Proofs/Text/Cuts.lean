import Mathlib.Data.List.TakeWhile
import TableApi.Text.Cut

namespace TableApi.Text

variable {c : Char}

/-- The longest beginning of a class of characters, when what follows it is not of the class. -/
theorem takeWhile_dropWhile_append {p : Char → Bool} {word rest : List Char}
    (hword : ∀ d ∈ word, p d) (hrest : ∀ c ∈ rest.head?, p c = false) :
    (word ++ rest).takeWhile p = word ∧ (word ++ rest).dropWhile p = rest := by
  rw [List.takeWhile_append_of_pos hword, List.dropWhile_append_of_pos hword]
  cases rest with
  | nil => simp
  | cons c rest => simp [hrest c rfl]

theorem cutAt?_append {before : List Char} (h : c ∉ before) (after : List Char) :
    cutAt? c (before ++ c :: after) = some (before, after) := by
  have hbefore : ∀ d ∈ before, (d != c) = true := by
    intro d hd
    rw [bne_iff_ne]
    rintro rfl
    exact h hd
  have hafter : ∀ d ∈ (c :: after).head?, (d != c) = false := by simp
  obtain ⟨htake, hdrop⟩ := takeWhile_dropWhile_append hbefore hafter
  rw [cutAt?, htake, hdrop]

theorem cutAt?_eq_none {s : List Char} (h : c ∉ s) : cutAt? c s = none := by
  have hdrop : s.dropWhile (· != c) = [] := by
    rw [List.dropWhile_eq_nil_iff]
    intro d hd
    rw [bne_iff_ne]
    rintro rfl
    exact h hd
  rw [cutAt?, hdrop]

theorem not_mem_of_mem_splitOn {s part : List Char} (h : part ∈ s.splitOn c) : c ∉ part := by
  -- a character either opens a new part or is put before the first part of the rest
  induction s generalizing part with
  | nil =>
    obtain rfl : part = [] := List.mem_singleton.1 h
    exact List.not_mem_nil
  | cons d s ih =>
    rw [List.splitOn, List.splitOnP_cons_eq_if_modifyHead, ← List.splitOn] at h
    obtain ⟨first, rest, hcut⟩ := List.exists_cons_of_ne_nil (List.splitOn_ne_nil c s)
    rw [hcut] at h ih
    split at h
    · rcases List.mem_cons.1 h with rfl | h
      · exact List.not_mem_nil
      · exact ih h
    · rename_i hd
      rcases List.mem_cons.1 h with rfl | h
      · rw [List.mem_cons, not_or]
        refine ⟨?_, ih List.mem_cons_self⟩
        rintro rfl
        exact hd BEq.rfl
      · exact ih (List.mem_cons_of_mem _ h)

theorem toList_join {separator : String} (hseparator : separator.toList = [c])
    (parts : List String) :
    (join separator parts).toList = [c].intercalate (parts.map String.toList) := by
  rw [join, String.toList_intercalate, hseparator]

theorem map_toList_ofList (parts : List (List Char)) :
    (parts.map String.ofList).map String.toList = parts := by
  have hid : String.toList ∘ String.ofList = id := funext fun s => String.toList_ofList
  rw [List.map_map, hid, List.map_id]

/-- The pieces of a text are the ones without the character that are joined to the text. -/
theorem splitOn_eq_iff {separator : String} (hseparator : separator.toList = [c]) {s : String}
    {parts : List String} :
    (s.toList.splitOn c).map String.ofList = parts ↔
      parts ≠ [] ∧ s = join separator parts ∧ ∀ part ∈ parts, c ∉ part.toList := by
  constructor
  · rintro rfl
    refine ⟨?_, ?_, ?_⟩
    · simp
    · rw [← String.toList_inj, toList_join hseparator, map_toList_ofList]
      exact (List.intercalate_splitOn c).symm
    · intro part hpart
      obtain ⟨piece, hpiece, rfl⟩ := List.mem_map.1 hpart
      rw [String.toList_ofList]
      exact not_mem_of_mem_splitOn hpiece
  · rintro ⟨hne, rfl, hparts⟩
    have hcut : (join separator parts).toList.splitOn c = parts.map String.toList := by
      rw [toList_join hseparator]
      refine List.splitOn_intercalate c ?_ (by simpa using hne)
      simpa using hparts
    have hid : String.ofList ∘ String.toList = id := funext fun s => String.ofList_toList
    rw [hcut, List.map_map, hid, List.map_id]

end TableApi.Text
