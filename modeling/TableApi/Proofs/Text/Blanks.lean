import TableApi.Text.Blank

namespace TableApi.Text

theorem dropWhile_of_head? {p : Char → Bool} {s : List Char} (h : s.head?.any p = false) :
    s.dropWhile p = s := by
  cases s with
  | nil => rfl
  | cons c s =>
    have hc : p c = false := h
    exact List.dropWhile_cons_of_neg (by simp [hc])

theorem trimChars_of_ends {s : List Char} (hopens : s.head?.any isBlank = false)
    (hends : s.getLast?.any isBlank = false) : trimChars s = s := by
  have hend : s.reverse.dropWhile isBlank = s.reverse := by
    apply dropWhile_of_head?
    rwa [List.head?_reverse]
  rw [trimChars, trimStart, dropWhile_of_head? hopens, trimEnd, hend, List.reverse_reverse]

theorem trimChars_of_forall {s : List Char} (h : ∀ c ∈ s, isBlank c = false) : trimChars s = s := by
  apply trimChars_of_ends
  · cases hs : s.head? with
    | none => rfl
    | some c => exact h c (List.mem_of_head? hs)
  · cases hs : s.getLast? with
    | none => rfl
    | some c => exact h c (List.mem_of_getLast? hs)

theorem trim_of_ends {s : String} (hopens : s.toList.head?.any isBlank = false)
    (hends : s.toList.getLast?.any isBlank = false) : trim s = s := by
  rw [trim, trimChars_of_ends hopens hends, String.ofList_toList]

end TableApi.Text
