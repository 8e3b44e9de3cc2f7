import Mathlib.Data.List.Sort
import TableApi.Api.Page
import TableApi.Proofs.Store.Order
import TableApi.Proofs.Store.Walks
import TableApi.Store.Basic

/-!
The pages of a listing cut the matching rows, in listing order, into consecutive pieces. The bounds
sent to the database are cut to 63 bits, and no table is long enough for that to be seen.
-/

namespace TableApi.Store

open Sql (Query Statement)

/-- The elements that a page shows of a list: as many as it holds, after those of earlier pages. -/
def Page.slice {α : Type} (p : Page) (l : List α) : List α :=
  (l.drop ((p.number - 1) * p.perPage)).take p.perPage

/-- The rows that the bounds of a page leave of a listing, as a database is sent them. -/
def Page.window (p : Page) (rows : List Row) : List Row :=
  bounded (Statement.cut p.perPage) (skipping (Statement.cut p.offset) rows)

/-- The matching rows as a query lists them: all that it selects, in the order of its sort with
ties as the rows are visited, cut at its limit. -/
def Table.IsListing (t : Table) (visited : List Row) (q : Query) (rows : List Row) : Prop :=
  ∃ all : List Row, all.Perm (t.rows.filter (t.selects q)) ∧
    all.Pairwise (t.standsBefore visited q.order) ∧
    rows = match q.limit with
      | none => all
      | some n => all.take n

def Table.IsBounded (t : Table) : Prop := t.rows.length ≤ Text.maxSigned64

theorem toNat_cut (n : Nat) : (Statement.cut n).toNat = min n Text.maxSigned64 := by
  unfold Statement.cut
  omega

theorem cut_nonneg (n : Nat) : 0 ≤ Statement.cut n := by
  unfold Statement.cut
  omega

theorem bounded_cut (n : Nat) {rows : List Row} (h : rows.length ≤ Text.maxSigned64) :
    bounded (Statement.cut n) rows = rows.take n := by
  have hn := cut_nonneg n
  rw [bounded, if_neg (by omega), toNat_cut]
  by_cases hle : n ≤ Text.maxSigned64
  · rw [Nat.min_eq_left hle]
  · rw [List.take_of_length_le (by omega), List.take_of_length_le (by omega)]

theorem skipping_cut_offset (p : Page) {rows : List Row} (h : rows.length ≤ Text.maxSigned64) :
    skipping (Statement.cut p.offset) rows = rows.drop ((p.number - 1) * p.perPage) := by
  rw [skipping, toNat_cut, Page.offset]
  by_cases hle : (p.number - 1) * p.perPage ≤ Text.maxSigned64
  · have hmax : Text.maxSigned64 ≤ Text.maxUnsigned64 := by decide
    congr 1
    omega
  · -- both numbers of rows to skip are beyond the last row
    have hmax : Text.maxSigned64 ≤ Text.maxUnsigned64 := by decide
    rw [List.drop_eq_nil_of_le (by omega), List.drop_eq_nil_of_le (by omega)]

/-- The bounds of a page, cut as they are, leave the slice that the page stands for. -/
theorem window_eq_slice (p : Page) {rows : List Row} (h : rows.length ≤ Text.maxSigned64) :
    p.window rows = p.slice rows := by
  rw [Page.window, skipping_cut_offset p h, bounded_cut _ (by rw [List.length_drop]; omega)]
  rfl

namespace Table

variable (t : Table) (q : Query)

theorem sorted_perm (order : Option Filter.Order) (rows : List Row) :
    (t.sorted order rows).Perm rows := by
  cases order with
  | none => exact List.Perm.refl rows
  | some sort => exact List.mergeSort_perm rows _

/-- Ordering again what a limit has left of ordered rows changes nothing. -/
theorem sorted_take_sorted (order : Option Filter.Order) (n : Nat) (rows : List Row) :
    t.sorted order ((t.sorted order rows).take n) = (t.sorted order rows).take n := by
  cases order with
  | none => rfl
  | some sort =>
    have h := List.pairwise_mergeSort (t.precedes_trans sort) (t.precedes_total sort) rows
    exact List.mergeSort_of_pairwise (h.take)

/-- The rows that a query selects, in order, before its limit cuts them. -/
def selected (visited : List Row) : List Row := t.sorted q.order (visited.filter (t.selects q))

theorem length_selected_le : (t.selected q (t.visited q)).length ≤ t.rows.length := by
  rw [selected, (t.sorted_perm q.order _).length_eq, ← (t.visited_perm q).length_eq]
  exact List.length_filter_le _ _

theorem matching_eq (ht : t.IsBounded) :
    t.matching q = match q.limit with
      | none => t.selected q (t.visited q)
      | some n => (t.selected q (t.visited q)).take n := by
  have hle := (t.length_selected_le q).trans ht
  unfold matching
  cases q.limit with
  | none => rfl
  | some n => exact bounded_cut n hle

theorem length_matching_le (ht : t.IsBounded) : (t.matching q).length ≤ Text.maxSigned64 := by
  have hle := (t.length_selected_le q).trans ht
  rw [matching_eq t q ht]
  cases q.limit with
  | none => exact hle
  | some n => exact (List.length_take_le' n _).trans hle

/-- A page of the database is the slice of the matching rows that the page stands for, whatever
its number and size and whatever the limit. -/
theorem page_eq_slice (ht : t.IsBounded) (p : Page) :
    t.page q p.perPage p.offset = p.slice (t.matching q) := by
  have hagain : (if q.limit.isSome then t.sorted q.order (t.matching q) else t.matching q) =
      t.matching q := by
    -- only what a limit has cut is sorted twice
    rw [matching_eq t q ht]
    cases q.limit with
    | none => rfl
    | some n => exact t.sorted_take_sorted q.order n _
  simp only [page, hagain]
  exact window_eq_slice p (t.length_matching_le q ht)

variable {t q} {visited : List Row}

theorem standsBefore_asymm (hvisited : visited.Nodup) {order : Option Filter.Order} {r s : Row}
    (h : t.standsBefore visited order r s) (h' : t.standsBefore visited order s r) : False := by
  cases order with
  | none => exact not_pair_sublist_swap hvisited h h'
  | some sort =>
    have hswap := t.sortCompare_swap sort r s
    -- the sort decides both or neither, and then each would have to be visited before the other
    rcases h with h | ⟨h, hvisit⟩ <;> rcases h' with h' | ⟨h', hvisit'⟩ <;>
      rw [h, h'] at hswap
    · exact absurd hswap (by decide)
    · exact absurd hswap (by decide)
    · exact absurd hswap (by decide)
    · exact not_pair_sublist_swap hvisited hvisit hvisit'

/-- A query has one listing for each order in which the rows may be visited. -/
theorem isListing_iff (hvisited : visited.Nodup) (hperm : visited.Perm t.rows) {rows : List Row} :
    t.IsListing visited q rows ↔ rows = match q.limit with
      | none => t.selected q visited
      | some n => (t.selected q visited).take n := by
  have hselected : (t.selected q visited).Perm (t.rows.filter (t.selects q)) :=
    (t.sorted_perm q.order _).trans (hperm.filter _)
  have hpairwise : (t.selected q visited).Pairwise (t.standsBefore visited q.order) :=
    t.pairwise_sorted q.order hvisited List.filter_sublist
  constructor
  · rintro ⟨all, hall, hord, rfl⟩
    have heq : all = t.selected q visited := List.Perm.eq_of_pairwise
      (fun _ _ _ _ h h' => (standsBefore_asymm hvisited h h').elim) hord hpairwise
      (hall.trans hselected.symm)
    rw [heq]
  · exact fun h => ⟨t.selected q visited, hselected, hpairwise, h⟩

end Table

/-- Slices of one size, one after the other, are the list up to where the last one ends. -/
theorem flatMap_slice {α : Type} (size pages : Nat) (l : List α) :
    ((List.range pages).flatMap fun i => Page.slice ⟨i + 1, size⟩ l) = l.take (pages * size) := by
  induction pages with
  | zero => simp
  | succ pages ih =>
    rw [List.range_succ, List.flatMap_append, ih, Nat.succ_mul, List.take_add]
    simp [Page.slice]

theorem slice_eq_nil {α : Type} {p : Page} {l : List α}
    (h : l.length ≤ (p.number - 1) * p.perPage) : p.slice l = [] := by
  rw [Page.slice, List.drop_eq_nil_of_le h, List.take_nil]

/-- The pages of a pagination hold every row. -/
theorem total_le_totalPages_mul (p : Page) (total count : Nat) (h : 1 ≤ p.perPage) :
    total ≤ (Api.pagination p total count).totalPages * p.perPage := by
  have hsize : max p.perPage 1 = p.perPage := Nat.max_eq_left h
  have hdiv := Nat.div_add_mod (total + p.perPage - 1) p.perPage
  have hmod := Nat.mod_lt (total + p.perPage - 1) h
  have hmax : (total + p.perPage - 1) / p.perPage * p.perPage ≤
      max ((total + p.perPage - 1) / p.perPage) 1 * p.perPage :=
    Nat.mul_le_mul_right _ (Nat.le_max_left _ _)
  simp only [Api.pagination, hsize]
  rw [Nat.mul_comm] at hdiv
  omega

/-- What the store of a database lists: a count of the matching rows and one page of them. -/
theorem list_databaseStore {d : Database} {ref : TableRef} {t : Table} (q : Query) (p : Page)
    (hd : d.table? ref.name = some t) :
    (databaseStore.list ref q p).run d =
      (.ok ((t.page q p.perPage p.offset).map t.record, (t.matching q).length), d) := by
  have hcount : (send (.count ref.name q)).run d = (.ok (.count (t.matching q).length), d) := by
    simp [StateT.run, send, Database.execute, Database.find, hd, Except.map]
  have hpage : (send (.page ref.name q p.perPage p.offset)).run d =
      (.ok (.records ((t.page q p.perPage p.offset).map t.record)), d) := by
    simp [StateT.run, send, Database.execute, Database.find, hd, Except.map]
  simp only [databaseStore, RecordStore.sending]
  rw [StateT.run_bind, hcount]
  refine (StateT.run_bind _ _ d).trans ?_
  rw [hpage]
  rfl

def threePosts : Table :=
  { name := "posts",
    columns := [{ name := "id", type := "INTEGER", primaryKey := true },
      { name := "title", type := "TEXT" }],
    rows := [⟨1, [.integer 1, .text "b"]⟩, ⟨2, [.integer 2, .text "a"]⟩,
      ⟨3, [.integer 3, .text "b"]⟩] }

theorem inIdOrder_threePosts : threePosts.InIdOrder := by
  unfold Table.InIdOrder
  decide

end TableApi.Store
