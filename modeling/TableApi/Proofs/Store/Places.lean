import Mathlib.Data.List.Basic
import TableApi.Proofs.Store.Order

namespace TableApi.Store

namespace Table

variable {t : Table} {name : String} {i : Nat}

theorem column_of_columnIndex? (h : t.columnIndex? name = some i) :
    ∃ c, t.columns[i]? = some c ∧ Text.lower c.name = Text.lower name := by
  obtain ⟨hi, hsame, -⟩ := List.findIdx?_eq_some_iff_getElem.1 h
  exact ⟨_, List.getElem?_eq_getElem hi, by simpa [Text.sameIgnoringCase] using hsame⟩

theorem column_of_place? (h : t.place? name = some (.column i)) :
    ∃ c, t.columns[i]? = some c ∧ Text.lower c.name = Text.lower name ∧ c.holdsRowId = false := by
  unfold place? at h
  cases hindex : t.columnIndex? name with
  | none =>
    simp only [hindex] at h
    split at h <;> simp at h
  | some j =>
    obtain ⟨c, hc, hname⟩ := column_of_columnIndex? hindex
    simp only [hindex, hc, Option.any_some] at h
    split at h
    · simp at h
    · rename_i hrowId
      obtain rfl : j = i := by simpa using h
      exact ⟨c, hc, hname, eq_false_of_ne_true hrowId⟩

/-- Two names of one column are the same but for their case. -/
theorem lower_eq_of_place? {name' : String} (h : t.place? name = some (.column i))
    (h' : t.place? name' = some (.column i)) : Text.lower name = Text.lower name' := by
  obtain ⟨c, hc, hname, -⟩ := column_of_place? h
  obtain ⟨c', hc', hname', -⟩ := column_of_place? h'
  obtain rfl := Option.some.inj (hc.symm.trans hc')
  exact hname.symm.trans hname'

end Table

end TableApi.Store
