import Mathlib.Data.List.Sort
import TableApi.Store.Listing

namespace TableApi.Store

instance : Std.TransCmp Cell.compare :=
  inferInstanceAs (Std.TransCmp (compareLex (compareOn Cell.rank)
    (compareLex (compareOn Cell.units) (compareOn Cell.octets))))

namespace Table

/-- The order of two rows under a sort. A name that no column has orders nothing. -/
def sortCompare (t : Table) (sort : Filter.Order) (r s : Row) : Ordering :=
  match t.place? sort.field with
  | none => .eq
  | some place =>
    match sort.direction with
    | .ascending => (r.at place).compare (s.at place)
    | .descending => (s.at place).compare (r.at place)

/-- Whether a row comes before another in a listing: the sort decides, and then which of the two
is visited first. -/
def standsBefore (t : Table) (visited : List Row) (sort : Option Filter.Order) (r s : Row) : Prop :=
  match sort with
  | none => [r, s].Sublist visited
  | some sort =>
    t.sortCompare sort r s = .lt ∨ (t.sortCompare sort r s = .eq ∧ [r, s].Sublist visited)

/-- The rows stand in rising order of their row ids, and so no two have the same. -/
def InIdOrder (t : Table) : Prop := t.rows.Pairwise fun r s => r.id < s.id

variable (t : Table) (sort : Filter.Order)

theorem precedes_eq_isLE (r s : Row) : t.precedes sort r s = (t.sortCompare sort r s).isLE := by
  unfold precedes sortCompare
  cases t.place? sort.field with
  | none => rfl
  | some place =>
    cases sort.direction with
    | ascending => dsimp only; cases (r.at place).compare (s.at place) <;> rfl
    | descending =>
      dsimp only
      have hswap : (s.at place).compare (r.at place) =
          ((r.at place).compare (s.at place)).swap := Std.OrientedCmp.eq_swap
      rw [hswap]
      cases (r.at place).compare (s.at place) <;> rfl

instance : Std.TransCmp (t.sortCompare sort) := by
  unfold sortCompare
  cases t.place? sort.field with
  | none => exact { eq_swap := rfl, isLE_trans := fun _ _ => rfl }
  | some place =>
    have hswap (a b : Cell) : a.compare b = (b.compare a).swap := Std.OrientedCmp.eq_swap
    have htrans {a b c : Cell} (hab : (a.compare b).isLE) (hbc : (b.compare c).isLE) :
        (a.compare c).isLE := Std.TransCmp.isLE_trans hab hbc
    cases sort.direction with
    | ascending => exact { eq_swap := hswap _ _, isLE_trans := htrans }
    | descending => exact { eq_swap := hswap _ _, isLE_trans := fun h h' => htrans h' h }

theorem sortCompare_swap (a b : Row) :
    t.sortCompare sort b a = (t.sortCompare sort a b).swap := Std.OrientedCmp.eq_swap

theorem precedes_trans (a b c : Row) (hab : t.precedes sort a b) (hbc : t.precedes sort b c) :
    t.precedes sort a c := by
  rw [precedes_eq_isLE] at *
  exact Std.TransCmp.isLE_trans hab hbc

theorem precedes_total (a b : Row) : t.precedes sort a b || t.precedes sort b a := by
  rw [precedes_eq_isLE, precedes_eq_isLE, sortCompare_swap t sort a b]
  cases t.sortCompare sort a b <;> rfl

/-- Two elements of a list without repetitions cannot stand in both orders. -/
theorem not_pair_sublist_swap {α : Type} {l : List α} (hl : l.Nodup) {a b : α}
    (hab : [a, b].Sublist l) (hba : [b, a].Sublist l) : False := by
  induction l with
  | nil => simp at hab
  | cons c l ih =>
    obtain ⟨hc, hl⟩ := List.nodup_cons.1 hl
    rcases List.sublist_cons_iff.1 hab with h | ⟨r, hr, h⟩
    · rcases List.sublist_cons_iff.1 hba with h' | ⟨r', hr', h'⟩
      · exact ih hl h h'
      · -- `b` is the head, yet it stands in the tail
        obtain ⟨rfl, -⟩ := List.cons.inj hr'
        exact hc (h.subset (by simp))
    · obtain ⟨rfl, rfl⟩ := List.cons.inj hr
      rcases List.sublist_cons_iff.1 hba with h' | ⟨r', hr', -⟩
      · exact hc (h'.subset (by simp))
      · obtain ⟨rfl, -⟩ := List.cons.inj hr'
        exact hc (h.subset (by simp))

/-- Of two elements of a list one stands before the other. -/
theorem pair_sublist_or {α : Type} {l : List α} {a b : α} (ha : a ∈ l) (hb : b ∈ l)
    (hne : a ≠ b) : [a, b].Sublist l ∨ [b, a].Sublist l := by
  induction l with
  | nil => cases ha
  | cons c l ih =>
    rcases List.mem_cons.1 ha with rfl | ha'
    · have hb' : b ∈ l := (List.mem_cons.1 hb).resolve_left fun h => hne h.symm
      exact Or.inl (List.cons_sublist_cons.2 (List.singleton_sublist.2 hb'))
    · rcases List.mem_cons.1 hb with rfl | hb'
      · exact Or.inr (List.cons_sublist_cons.2 (List.singleton_sublist.2 ha'))
      · exact (ih ha' hb').imp (List.Sublist.cons c) (List.Sublist.cons c)

theorem eq_of_id_eq {rows : List Row} (hrows : rows.Pairwise fun r s => r.id < s.id) {a b : Row}
    (ha : a ∈ rows) (hb : b ∈ rows) (hab : a.id = b.id) : a = b := by
  have hids : (rows.map Row.id).Nodup :=
    List.pairwise_map.2 (hrows.imp fun {r s} (h : r.id < s.id) => by omega)
  exact List.inj_on_of_nodup_map hids ha hb hab

theorem nodup_of_inIdOrder {t : Table} (ht : t.InIdOrder) : t.rows.Nodup :=
  ht.imp fun h => by rintro rfl; omega

/-- Sorted rows stand in the order of the sort, and equal ones as they are visited. -/
theorem pairwise_sorted (order : Option Filter.Order) {visited rows : List Row}
    (hvisited : visited.Nodup) (hrows : rows.Sublist visited) :
    (t.sorted order rows).Pairwise (t.standsBefore visited order) := by
  cases order with
  | none => exact List.pairwise_iff_forall_sublist.2 fun hab => hab.trans hrows
  | some sort =>
    have hsorted := List.pairwise_mergeSort (t.precedes_trans sort) (t.precedes_total sort) rows
    have hperm := List.mergeSort_perm rows (t.precedes sort)
    have hnodup : (rows.mergeSort (t.precedes sort)).Nodup :=
      hperm.nodup_iff.2 (hvisited.sublist hrows)
    rw [sorted, List.pairwise_iff_forall_sublist]
    intro a b hab
    have hle : t.precedes sort a b := List.pairwise_iff_forall_sublist.1 hsorted hab
    rw [precedes_eq_isLE] at hle
    rcases hcmp : t.sortCompare sort a b with _ | _ | _
    · exact Or.inl hcmp
    · have ha : a ∈ rows := hperm.mem_iff.1 (hab.subset (by simp))
      have hb : b ∈ rows := hperm.mem_iff.1 (hab.subset (by simp))
      have hne : a ≠ b := by simpa using hnodup.sublist hab
      rcases pair_sublist_or ha hb hne with h | h
      · exact Or.inr ⟨hcmp, h.trans hrows⟩
      · -- `b` is visited first, and a stable sort keeps it there
        have hle' : t.precedes sort b a := by
          rw [precedes_eq_isLE, sortCompare_swap, hcmp]
          rfl
        have hba : [b, a].Sublist (rows.mergeSort (t.precedes sort)) :=
          List.pair_sublist_mergeSort (t.precedes_trans sort) (t.precedes_total sort) hle' h
        exact (not_pair_sublist_swap hnodup hab hba).elim
    · rw [hcmp] at hle
      exact absurd hle (by decide)

end Table

end TableApi.Store
