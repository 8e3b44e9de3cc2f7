import TableApi.Proofs.Store.Execution

namespace TableApi.Store

def SameGiven (a b : Assignments) : Prop :=
  ∀ place, a.filter (fun x => x.1 = place) = b.filter (fun x => x.1 = place)

namespace SameGiven

open Table (firstGiven? lastGiven?)

variable {a b : Assignments}

theorem firstGiven?_eq (h : SameGiven a b) (place : Place) :
    firstGiven? a place = firstGiven? b place := by
  simp only [firstGiven?, ← List.head?_filter, h place]

theorem lastGiven?_eq (h : SameGiven a b) (place : Place) :
    lastGiven? a place = lastGiven? b place := by
  simp only [lastGiven?, firstGiven?, ← List.head?_filter, List.filter_reverse, h place]

theorem insert_eq (h : SameGiven a b) (t : Table) : t.insert a = t.insert b := by
  simp only [Table.insert, Table.newId, h.firstGiven?_eq, h.lastGiven?_eq]

theorem changed_eq (h : SameGiven a b) (t : Table) (r : Row) : t.changed a r = t.changed b r := by
  simp only [Table.changed, Table.changedId, h.lastGiven?_eq]

theorem updateRows_eq (h : SameGiven a b) (t : Table) (rows : List Row) :
    t.updateRows a rows = t.updateRows b rows := by
  induction rows generalizing t with
  | nil => rfl
  | cons r rest ih => simp only [Table.updateRows, Table.updateRow, h.changed_eq, ih]

end SameGiven

/-- The same entries, those whose names stand for one place in the same order. -/
structure Table.Reorders {α : Type} (t : Table) (a b : Entries α) : Prop where
  perm : a.Perm b
  places : ∀ place, a.filter (fun x => t.place? x.1 = some place) =
    b.filter (fun x => t.place? x.1 = some place)

namespace Table

variable {t : Table}

/-- Where no two names stand for one place, every order will do. -/
theorem reorders_of_perm {α : Type} {a b : Entries α} (h : a.Perm b)
    (hplaces : ∀ place, (a.filter fun x => t.place? x.1 = some place).length ≤ 1) :
    t.Reorders a b := by
  refine ⟨h, fun place => ?_⟩
  have hperm := h.filter fun x => t.place? x.1 = some place
  have hlength := hplaces place
  generalize a.filter (fun x => t.place? x.1 = some place) = given at hperm hlength
  rcases given with _ | ⟨x, _ | ⟨y, rest⟩⟩
  · exact (List.nil_perm.1 hperm).symm
  · exact List.singleton_perm.1 hperm
  · simp at hlength

theorem Reorders.boundValues {a b : Record} (h : t.Reorders a b) :
    t.Reorders (boundValues a) (boundValues b) := by
  refine ⟨h.perm.map _, fun place => ?_⟩
  simp only [Store.boundValues, List.filter_map]
  exact congrArg _ (h.places place)

/-- The values of one place keep the order in which the names gave them. -/
theorem filter_assignments {unknown : String → DatabaseError} {values : Entries Sql.Value}
    {assigned : Assignments} (h : t.assignments unknown values = .ok assigned) (place : Place) :
    assigned.filter (fun x => x.1 = place) =
      (values.filter fun x => t.place? x.1 = some place).map fun x =>
        (place, Cell.ofValue x.2) := by
  have hsteps := forall₂_of_mapM h
  clear h
  induction hsteps with
  | nil => rfl
  | @cons x y values assigned hx _ ih =>
    dsimp only at hx
    split at hx
    · rename_i found hfound
      obtain rfl := Except.ok.inj hx
      by_cases hplace : found = place <;> simp [hfound, hplace, ih]
    · cases hx

theorem resolves_of_assignments {unknown : String → DatabaseError} {values : Entries Sql.Value}
    {assigned : Assignments} (h : t.assignments unknown values = .ok assigned) :
    ∀ x ∈ values, ∃ place, t.place? x.1 = some place := by
  intro x hx
  obtain ⟨y, hy⟩ := exists_of_mapM h hx
  dsimp only at hy
  split at hy
  · exact ⟨_, by assumption⟩
  · cases hy

theorem assignments_of_resolves (unknown : String → DatabaseError) {values : Entries Sql.Value}
    (h : ∀ x ∈ values, ∃ place, t.place? x.1 = some place) :
    ∃ assigned, t.assignments unknown values = .ok assigned := by
  refine mapM_eq_ok fun x hx => ?_
  obtain ⟨place, hplace⟩ := h x hx
  exact ⟨(place, Cell.ofValue x.2), by simp only [hplace]⟩

/-- Both orders name something unknown, if not the same first, or both give every place the same. -/
theorem Reorders.assignments {a b : Entries Sql.Value} (h : t.Reorders a b)
    (unknown : String → DatabaseError) :
    (∃ e e', t.assignments unknown a = .error e ∧ t.assignments unknown b = .error e') ∨
      ∃ as bs, t.assignments unknown a = .ok as ∧ t.assignments unknown b = .ok bs ∧
        SameGiven as bs := by
  have hmem (x : String × Sql.Value) : x ∈ a ↔ x ∈ b := h.perm.mem_iff
  cases ha : t.assignments unknown a with
  | error e =>
    cases hb : t.assignments unknown b with
    | error e' => exact .inl ⟨e, e', rfl, rfl⟩
    | ok bs =>
      obtain ⟨as, has⟩ := assignments_of_resolves unknown fun x hx =>
        resolves_of_assignments hb x ((hmem x).1 hx)
      cases has.symm.trans ha
  | ok as =>
    obtain ⟨bs, hb⟩ := assignments_of_resolves unknown fun x hx =>
      resolves_of_assignments ha x ((hmem x).2 hx)
    refine .inr ⟨as, bs, rfl, hb, fun place => ?_⟩
    rw [filter_assignments ha, filter_assignments hb, h.places]

end Table

namespace Database

variable {d : Database} {name : String} {a b : Entries Sql.Value}

/-- Insertions that differ in order go through with the same result, or fail both. -/
theorem toOption_insert (h : ∀ t, d.table? name = some t → t.Reorders a b) :
    (d.execute (.insert name a)).toOption = (d.execute (.insert name b)).toOption := by
  simp only [execute, insert]
  cases hfind : d.find name with
  | error e => rfl
  | ok t =>
    rcases (h t (table?_of_find hfind)).assignments (.noColumnNamed name) with
      ⟨e, e', ha, hb⟩ | ⟨as, bs, ha, hb, hsame⟩
    · simp only [bind, Except.bind, ha, hb]
      rfl
    · simp only [bind, Except.bind, ha, hb, hsame.insert_eq]

theorem toOption_update (h : ∀ t, d.table? name = some t → t.Reorders a b) (key value : String) :
    (d.execute (.update name a key value)).toOption =
      (d.execute (.update name b key value)).toOption := by
  simp only [execute, update]
  cases hfind : d.find name with
  | error e => rfl
  | ok t =>
    rcases (h t (table?_of_find hfind)).assignments .noSuchColumn with
      ⟨e, e', ha, hb⟩ | ⟨as, bs, ha, hb, hsame⟩
    · simp only [bind, Except.bind, ha, hb]
      rfl
    · simp only [bind, Except.bind, ha, hb, hsame.updateRows_eq]

end Database

/-- Answers that do not differ but in the reason of a failure, with one database. -/
def SameOutcome {ε α : Type} (x y : Except ε α × Database) : Prop :=
  x.1.toOption = y.1.toOption ∧ x.2 = y.2

theorem sameOutcome_send {d : Database} {s s' : Sql.Statement}
    (h : (d.execute s).toOption = (d.execute s').toOption) :
    SameOutcome ((send s).run d) ((send s').run d) := by
  simp only [send, StateT.run]
  cases hs : d.execute s <;> cases hs' : d.execute s' <;>
    simp_all [SameOutcome, Except.toOption]

theorem SameOutcome.map {ε α β : Type} {d : Database} {x y : StateM Database (Except ε α)}
    (h : SameOutcome (x.run d) (y.run d)) (f : α → β) :
    SameOutcome ((do return (← x).map f : StateM Database (Except ε β)).run d)
      ((do return (← y).map f : StateM Database (Except ε β)).run d) := by
  rw [run_bind, run_bind]
  generalize x.run d = x' at h ⊢
  generalize y.run d = y' at h ⊢
  obtain ⟨_ | _, _⟩ := x' <;> obtain ⟨_ | _, _⟩ := y' <;> obtain ⟨hanswer, rfl⟩ := h
  · exact ⟨rfl, rfl⟩
  · cases hanswer
  · cases hanswer
  · obtain rfl := Option.some.inj hanswer
    exact ⟨rfl, rfl⟩

variable {d : Database} {ref : TableRef} {a b : Record}

theorem sameOutcome_insert (h : ∀ t, d.table? ref.name = some t → t.Reorders a b) :
    SameOutcome ((databaseStore.insert ref a).run d) ((databaseStore.insert ref b).run d) :=
  (sameOutcome_send (Database.toOption_insert fun t ht => (h t ht).boundValues)).map _

theorem sameOutcome_update (h : ∀ t, d.table? ref.name = some t → t.Reorders a b)
    (hempty : a.isEmpty = b.isEmpty) (key : String) :
    SameOutcome ((databaseStore.update ref key a).run d)
      ((databaseStore.update ref key b).run d) := by
  simp only [databaseStore, RecordStore.sending, hempty]
  refine SameOutcome.map ?_ _
  split
  · exact ⟨rfl, rfl⟩
  · exact sameOutcome_send (Database.toOption_update (fun t ht => (h t ht).boundValues) _ _)

end TableApi.Store
