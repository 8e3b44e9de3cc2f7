import Mathlib.Data.List.Sort
import TableApi.Api.Resource
import TableApi.Proofs.Store.Paging
import TableApi.Proofs.Store.Selection

namespace TableApi.Api

open TableApi.Filter (Clause Parameters Translation)
open Store (Database Page Row Table databaseStore)

theorem eq_ok_of_toOption {ε α : Type} {x : Except ε α} {a : α} (h : x.toOption = some a) :
    x = .ok a := by
  cases x with
  | error e => simp [Except.toOption] at h
  | ok b => exact congrArg Except.ok (Option.some.inj h)

namespace Resource

variable (r : Resource)

theorem query_order_limit (req : Request) (tr : Translation) :
    (r.query req tr).order = tr.sort ∧ (r.query req tr).limit = tr.limit := by
  simp [query, Filter.ofClauses_eq, Filter.ofTranslation_eq, Sql.Query.andGroup]

/-- The query of a listing selects the rows that satisfy the scope and the filters. -/
theorem selects_query (t : Table) (row : Row) (req : Request) (tr : Translation) :
    t.selects (r.query req tr) row ↔
      t.Satisfies row (r.policy.scope req) ∧ t.Satisfies row tr.clauses := by
  have hscope : ∀ x ∈ (({} : Sql.Query).andGroup (.ofClauses (r.policy.scope req))).conditions,
      x.1 = Filter.Conjunction.and := by
    simp only [Sql.Query.andGroup]
    split <;> simp [Sql.Query.add]
  have hempty : Store.conditionsTruth t row [] = some true := by rw [Store.conditionsTruth]
  unfold query
  rw [t.selects_andGroup row _ hscope, t.selects_andGroup row _ (by simp)]
  simp only [hempty, true_and, Table.selects, decide_eq_true_eq, Filter.ofClauses_eq,
    Filter.ofTranslation_eq, t.conditionsTruth_clauses]

/-- The answer to a listing that is authorized, whose paging can be read and whose filters can be
translated. -/
theorem run_index {d : Database} {t : Table} {req : Request} {page : Page} {tr : Translation}
    (hd : d.table? r.table.name = some t) (hpage : r.listedPage req = .ok page)
    (htr : (r.translate (Parameters.ofPairs req.pairs)).result = .ok tr) :
    (r.index databaseStore req).run d =
      ({ response := r.listing req page
          ((t.page (r.query req tr) page.perPage page.offset).map t.record)
          (t.matching (r.query req tr)).length
         warnings := (r.translate (Parameters.ofPairs req.pairs)).warnings }, d) := by
  have hlist := Store.list_databaseStore (r.query req tr) page hd
  unfold index
  simp only [hpage, htr]
  rw [StateT.run_bind, hlist]
  rfl

/-- A listing without a limit shows, all pages together, the rows that satisfy the scope and the
filters, each once. -/
theorem index_lists_rows_in_scope (d : Database) (t : Table) (scope : List Clause)
    (tr : Translation) (hd : d.table? r.table.name = some t) (hlimit : tr.limit = none) :
    ∃ found : List Row,
      found.Perm
        (t.rows.filter fun row => t.Satisfies row scope ∧ t.Satisfies row tr.clauses) ∧
      (∀ row ∈ t.rows, row ∈ found ↔ t.Satisfies row scope ∧ t.Satisfies row tr.clauses) ∧
      (∀ (req : Request) (page : Page), r.listedPage req = .ok page →
        r.policy.scope req = scope →
        (r.translate (Parameters.ofPairs req.pairs)).result = .ok tr →
        (r.index databaseStore req).run d =
          ({ response := r.listing req page ((page.window found).map t.record) found.length
             warnings := (r.translate (Parameters.ofPairs req.pairs)).warnings }, d)) ∧
      (t.IsBounded → ∀ size pages, found.length ≤ pages * size →
        ((List.range pages).flatMap fun i => Page.window ⟨i + 1, size⟩ found) = found) := by
  let q : Sql.Query := (({} : Sql.Query).andGroup (.ofClauses scope)).andGroup (.ofTranslation tr)
  let kept := (t.visited q).filter fun row => t.Satisfies row scope ∧ t.Satisfies row tr.clauses
  have hperm : (t.sorted tr.sort kept).Perm
      (t.rows.filter fun row => t.Satisfies row scope ∧ t.Satisfies row tr.clauses) :=
    (t.sorted_perm tr.sort kept).trans ((t.visited_perm q).filter _)
  refine ⟨t.sorted tr.sort kept, hperm, ?_, ?_, ?_⟩
  · intro row hrow
    rw [hperm.mem_iff, List.mem_filter]
    simp [hrow]
  · intro req page hpage hscope htr
    have hquery : r.query req tr = q := by rw [query, hscope]
    obtain ⟨horder, hnone⟩ := r.query_order_limit req tr
    rw [hquery] at horder hnone
    -- without a limit the matching rows are those kept, sorted
    have hselects : (t.visited q).filter (t.selects q) = kept := by
      apply List.filter_congr
      intro row _
      rw [Bool.eq_iff_iff, ← hquery, r.selects_query t row req tr, hscope, decide_eq_true_eq]
    have hmatching : t.matching q = t.sorted tr.sort kept := by
      simp only [Table.matching, hnone, hlimit, horder, hselects]
    rw [r.run_index hd hpage htr, hquery, hmatching]
    simp only [Table.page, hnone, hlimit, hmatching]
    rfl
  · intro hbound size pages hpages
    have hlength : (t.sorted tr.sort kept).length ≤ Text.maxSigned64 :=
      hperm.length_eq ▸ (List.length_filter_le _ _).trans hbound
    simp only [Store.window_eq_slice _ hlength]
    rw [Store.flatMap_slice, List.take_of_length_le hpages]

def postsInScope : Resource :=
  { table := { name := "posts", primaryKey := "id" }, fields := { allowed := ["title"] },
    policy :=
      { authorizes := fun _ _ => true
        scope := fun _ => [⟨"title", .and, .compare .eq (.text "b")⟩] } }

def eitherTitle : Request :=
  { method := "GET", uri := { path := "/posts", query := some "title=a&or_title=b" } }

/-- The post with the other title is not shown. -/
theorem index_of_eitherTitle :
    ∃ found : List Row, (∀ row ∈ Store.threePosts.rows, row ∈ found ↔ row.id ≠ 2) ∧
      (postsInScope.index databaseStore eitherTitle).run [Store.threePosts] =
        ({ response := postsInScope.listing eitherTitle ⟨1, 15⟩
            ((Page.window ⟨1, 15⟩ found).map Store.threePosts.record) found.length
           warnings := (postsInScope.translate (Parameters.ofPairs eitherTitle.pairs)).warnings },
          [Store.threePosts]) := by
  let tr : Translation :=
    { clauses := [⟨"title", .and, .compare .eq (.text "a")⟩,
        ⟨"title", .or, .compare .eq (.text "b")⟩] }
  have hd : Database.table? [Store.threePosts] postsInScope.table.name = some Store.threePosts := by
    decide
  have hpage : (postsInScope.listedPage eitherTitle).toOption = some ⟨1, 15⟩ := by decide +kernel
  have htr : (postsInScope.translate (Parameters.ofPairs eitherTitle.pairs)).result.toOption =
      some tr := by decide +kernel
  have hrows : ∀ row ∈ Store.threePosts.rows,
      Store.threePosts.Satisfies row (postsInScope.policy.scope eitherTitle) ∧
        Store.threePosts.Satisfies row tr.clauses ↔ row.id ≠ 2 := by decide +kernel
  obtain ⟨found, -, hfound, hindex, -⟩ := postsInScope.index_lists_rows_in_scope
    [Store.threePosts] Store.threePosts (postsInScope.policy.scope eitherTitle) tr hd rfl
  refine ⟨found, fun row hrow => (hfound row hrow).trans (hrows row hrow), ?_⟩
  exact hindex eitherTitle ⟨1, 15⟩ (eq_ok_of_toOption hpage) rfl (eq_ok_of_toOption htr)

end Resource

end TableApi.Api
