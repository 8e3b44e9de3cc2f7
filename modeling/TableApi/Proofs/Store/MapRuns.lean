import TableApi.Proofs.Store.MapCalls

/-!
Calls one after the other on a table with an integer primary key: their answers are those of a map
from keys to rows.
-/

namespace TableApi.Store

def afterCalls (ref : TableRef) (d : Database) (calls : List Call) : Database :=
  calls.foldl (fun d call => ((call.perform ref).run d).2) d

/-- Calls with their answers, each made to the database that the ones before it have left. -/
def history (ref : TableRef) : Database → List Call → List (Call × Except StoreError Outcome)
  | _, [] => []
  | d, call :: calls =>
    (call, ((call.perform ref).run d).1) :: history ref ((call.perform ref).run d).2 calls

/-- What answers to calls make of a map: each that succeeds agrees with the map, and one that fails
changes nothing. -/
inductive MapRun (t : Table) : KeyMap → List (Call × Except StoreError Outcome) → KeyMap → Prop
  | nil {m : KeyMap} : MapRun t m [] m
  | failed {m m' : KeyMap} {call : Call} {e : StoreError}
      {rest : List (Call × Except StoreError Outcome)} (hrest : MapRun t m rest m') :
      MapRun t m ((call, .error e) :: rest) m'
  | done {m m₁ m' : KeyMap} {call : Call} {outcome : Outcome}
      {rest : List (Call × Except StoreError Outcome)} (hstep : Agrees t m m₁ call outcome)
      (hrest : MapRun t m₁ rest m') : MapRun t m ((call, .ok outcome) :: rest) m'

theorem agrees_withRows (t : Table) (rows : List Row) (lastId : Int) :
    Agrees { t with rows, lastId } = Agrees t := rfl

theorem mapRun_withRows {t : Table} {rows : List Row} {lastId : Int} {m m' : KeyMap}
    {answered : List (Call × Except StoreError Outcome)}
    (h : MapRun { t with rows, lastId } m answered m') : MapRun t m answered m' := by
  induction h with
  | nil => exact .nil
  | failed _ ih => exact .failed ih
  | done hstep _ ih => exact .done (agrees_withRows t rows lastId ▸ hstep) ih

/-- Calls one after the other are a run of the map, and leave the other tables as they are. -/
theorem mapRun_history {d : Database} {ref : TableRef} {t : Table} (hd : d.IsNamed)
    (ht : d.table? ref.name = some t) (hkeyed : t.KeyedBy ref.primaryKey) {calls : List Call}
    (hcalls : ∀ call ∈ calls, call.IsSigned) :
    ∃ t', (afterCalls ref d calls).table? ref.name = some t' ∧
      (afterCalls ref d calls).IsNamed ∧ t' = { t with rows := t'.rows, lastId := t'.lastId } ∧
      t'.KeyedBy ref.primaryKey ∧
      (afterCalls ref d calls).filter (fun u => u.name ≠ t.name) =
        d.filter (fun u => u.name ≠ t.name) ∧
      MapRun t (KeyMap.ofRows t.rows) (history ref d calls) (KeyMap.ofRows t'.rows) := by
  induction calls generalizing d t with
  | nil => exact ⟨t, ht, hd, rfl, hkeyed, rfl, .nil⟩
  | cons call calls ih =>
    -- the first call leaves a keyed table, and the rest is a run from there
    obtain ⟨hcall, hcalls⟩ := List.forall_mem_cons.1 hcalls
    obtain ⟨t₁, hstep⟩ := steps_call hd ht hkeyed hcall
    have hname : t₁.name = t.name := by rw [hstep.table]
    rw [history, afterCalls, List.foldl_cons, ← afterCalls]
    generalize ((call.perform ref).run d).1 = answer at hstep ⊢
    generalize ((call.perform ref).run d).2 = d₁ at hstep ⊢
    have hd₁ : d₁.IsNamed := by
      rw [hstep.database, Database.IsNamed, Database.names_withTable]
      exact hd
    have ht₁ : d₁.table? ref.name = some t₁ := by
      rw [hstep.database]
      exact Database.table?_withTable ht hname
    obtain ⟨t', ht', hd', hsame, hkeyed', hothers, hrun⟩ := ih hd₁ ht₁ hstep.keyed hcalls
    have hothers₁ : d₁.filter (fun u => u.name ≠ t.name) = d.filter fun u => u.name ≠ t.name := by
      rw [hstep.database, ← hname]
      exact Database.others_withTable d t₁
    have hrun : MapRun t (KeyMap.ofRows t₁.rows) (history ref d₁ calls)
        (KeyMap.ofRows t'.rows) := by
      rw [hstep.table] at hrun
      exact mapRun_withRows hrun
    refine ⟨t', ht', hd', ?_, hkeyed', ?_, ?_⟩
    · rw [hsame, hstep.table]
    · rw [← hname] at hothers₁ ⊢
      exact hothers.trans hothers₁
    · cases answer with
      | error e =>
        rw [hstep.failed e rfl] at hrun
        exact .failed hrun
      | ok outcome => exact .done (hstep.agrees outcome rfl) hrun

namespace KeyMap

def IsKeyed (m : KeyMap) : Prop := ∀ id r, m id = some r → r.id = id

theorem isKeyed_ofRows (rows : List Row) : (ofRows rows).IsKeyed := fun _ _ h => id_of_ofRows h

theorem IsKeyed.update {m : KeyMap} (h : m.IsKeyed) (row : Row) :
    IsKeyed (Function.update m row.id (some row)) := by
  intro id r hr
  by_cases hid : id = row.id
  · rw [hid, Function.update_self] at hr
    rw [hid, Option.some.inj hr]
  · rw [Function.update_of_ne hid] at hr
    exact h id r hr

theorem IsKeyed.remove {m : KeyMap} (h : m.IsKeyed) (key : Int) :
    IsKeyed (Function.update m key none) := by
  intro id r hr
  by_cases hid : id = key
  · rw [hid, Function.update_self] at hr
    cases hr
  · rw [Function.update_of_ne hid] at hr
    exact h id r hr

end KeyMap

section MapRun

variable {t : Table} {m m' : KeyMap} {call : Call} {outcome : Outcome} {id : Int} {row : Row}

/-- No call puts a record under a key that is not its own. -/
theorem isKeyed_of_agrees (hm : m.IsKeyed) (h : Agrees t m m' call outcome) : m'.IsKeyed := by
  cases call <;> cases outcome <;> try exact h.elim
  case list.listed =>
    rw [h.1]
    exact hm
  case find.found =>
    rw [h.1]
    exact hm
  case insert.inserted =>
    obtain ⟨row, -, hmap, -⟩ := h
    rw [hmap]
    exact hm.update row
  case update.updated key record answer =>
    obtain ⟨hnone, -, hsome⟩ := h
    cases hselected : m.selected key with
    | none =>
      rw [(hnone hselected).1]
      exact hm
    | some row =>
      obtain ⟨row', -, -, hmap, -⟩ := hsome row hselected
      rw [hmap]
      exact (hm.remove row.id).update row'
  case delete.deleted key present =>
    rw [h.1, KeyMap.without]
    split
    · exact hm.remove _
    · exact hm

/-- A row stays as it is through a call that does not write it. -/
theorem stays_of_agrees (hm : m.IsKeyed) (h : Agrees t m m' call outcome)
    (hwrites : ¬ Call.Writes id (call, .ok outcome)) (hrow : m id = some row) :
    m' id = some row := by
  cases call <;> cases outcome <;> try exact h.elim
  case list.listed =>
    rw [h.1]
    exact hrow
  case find.found =>
    rw [h.1]
    exact hrow
  case insert.inserted =>
    obtain ⟨new, hnew, hmap, -⟩ := h
    have hne : id ≠ new.id := by
      rintro rfl
      rw [hrow] at hnew
      cases hnew
    rw [hmap, Function.update_of_ne hne]
    exact hrow
  case update.updated key record answer =>
    obtain ⟨hnone, hempty, hsome⟩ := h
    by_cases hrecord : record = []
    · rw [hempty hrecord]
      exact hrow
    cases hselected : m.selected key with
    | none =>
      rw [(hnone hselected).1]
      exact hrow
    | some old =>
      obtain ⟨new, -, hnew, hmap, -⟩ := hsome old hselected
      obtain ⟨k, hkey, hold⟩ := KeyMap.selected_eq_some_iff.1 hselected
      -- the key of the call is another one, and no row can be moved to a key that is taken
      have hold_ne : id ≠ old.id := by
        rintro rfl
        exact hwrites ⟨(hm k old hold).symm ▸ hkey, hrecord⟩
      have hnew_ne : id ≠ new.id := by
        rintro rfl
        rcases hnew with hnew | hnew
        · exact hold_ne hnew
        · rw [hrow] at hnew
          cases hnew
      rw [hmap, Function.update_of_ne hnew_ne, Function.update_of_ne hold_ne]
      exact hrow
  case delete.deleted key present =>
    rw [h.1, KeyMap.without]
    cases hkey : keyOf? key with
    | none => exact hrow
    | some k =>
      have hne : id ≠ k := by
        rintro rfl
        exact hwrites hkey
      dsimp only
      rw [Function.update_of_ne hne]
      exact hrow

/-- A row stays as it is until a call writes it. -/
theorem stays_of_mapRun {answered : List (Call × Except StoreError Outcome)} (hm : m.IsKeyed)
    (h : MapRun t m answered m') (hwrites : ∀ x ∈ answered, ¬ Call.Writes id x)
    (hrow : m id = some row) : m' id = some row := by
  induction h with
  | nil => exact hrow
  | failed _ ih => exact ih hm (List.forall_mem_cons.1 hwrites).2 hrow
  | done hstep _ ih =>
    obtain ⟨hfirst, hrest⟩ := List.forall_mem_cons.1 hwrites
    exact ih (isKeyed_of_agrees hm hstep) hrest (stays_of_agrees hm hstep hfirst hrow)

end MapRun

def postsRef : TableRef := { name := "posts", primaryKey := "id" }

theorem keyedBy_threePosts : threePosts.KeyedBy postsRef.primaryKey where
  column := ⟨0, { name := "id", type := "INTEGER", primaryKey := true }, by decide, rfl, by decide⟩
  names := by decide
  inIdOrder := by
    show threePosts.rows.Pairwise fun r s => r.id < s.id
    decide
  rows := by
    have hcolumn : ∀ (i : Nat) (c : Column), threePosts.columns[i]? = some c →
        c.holdsRowId = true → i = 0 := by
      intro i c hc hrowId
      match i with
      | 0 => rfl
      | 1 =>
        obtain rfl := Option.some.inj hc
        exact absurd hrowId (by decide)
      | n + 2 => cases hc
    have hrows : ∀ r ∈ threePosts.rows, Affinity.isSigned64 r.id = true ∧
        r.cells[0]? = some (.integer r.id) := by decide
    intro r hr
    refine ⟨(hrows r hr).1, ?_⟩
    intro i c hc hrowId
    obtain rfl := hcolumn i c hc hrowId
    exact (hrows r hr).2

/-- A post that is added gets the next id; two are changed and removed by other spellings of
theirs. -/
def postCalls : List Call :=
  [.insert [("title", .str "c")], .update " 2" [("title", .str "d")], .delete "1.0"]

end TableApi.Store
