import TableApi.Entries

namespace TableApi.Entries

variable {α : Type}

theorem alter_of_not_mem {e : Entries α} {name : String} (h : name ∉ e.names)
    (f : Option α → α) : e.alter name f = e ++ [(name, f none)] := by
  induction e with
  | nil => rfl
  | cons x rest ih =>
    obtain ⟨k, v⟩ := x
    obtain ⟨hk, hrest⟩ : name ≠ k ∧ name ∉ names rest := by
      simpa [names] using h
    rw [alter, if_neg hk.symm, ih hrest, List.cons_append]

theorem alter_append {before : Entries α} {name : String} (h : name ∉ before.names) (v : α)
    (after : Entries α) (f : Option α → α) :
    alter (before ++ (name, v) :: after) name f = before ++ (name, f (some v)) :: after := by
  induction before with
  | nil => exact if_pos rfl
  | cons x rest ih =>
    obtain ⟨k, w⟩ := x
    obtain ⟨hk, hrest⟩ : name ≠ k ∧ name ∉ names rest := by
      simpa [names] using h
    rw [List.cons_append, alter, if_neg hk.symm, ih hrest, List.cons_append]

/-- What holds of all values and of the changed one holds after the change. -/
theorem forall_alter {P : α → Prop} {e : Entries α} {f : Option α → α} (h : ∀ x ∈ e, P x.2)
    (hnew : P (f none)) (hold : ∀ v, P v → P (f (some v))) (name : String) :
    ∀ x ∈ e.alter name f, P x.2 := by
  induction e with
  | nil =>
    intro x hx
    obtain rfl : x = (name, f none) := List.mem_singleton.1 hx
    exact hnew
  | cons y rest ih =>
    obtain ⟨hy, hrest⟩ := List.forall_mem_cons.1 h
    rw [alter]
    split
    · exact List.forall_mem_cons.2 ⟨hold _ hy, hrest⟩
    · exact List.forall_mem_cons.2 ⟨hy, ih hrest⟩

theorem retain_cons (x : String × α) (e : Entries α) (keep : String → Bool) :
    retain (x :: e) keep = if keep x.1 then x :: e.retain keep else e.retain keep :=
  List.filter_cons

theorem get?_retain (e : Entries α) {keep : String → Bool} {name : String} (h : keep name = true) :
    (e.retain keep).get? name = e.get? name := by
  induction e with
  | nil => rfl
  | cons x rest ih =>
    obtain ⟨k, v⟩ := x
    rw [retain_cons, get?]
    by_cases hk : k = name
    · rw [hk, if_pos h, if_pos rfl, get?, if_pos rfl]
    · rw [if_neg hk]
      split
      · rw [get?, if_neg hk, ih]
      · exact ih

theorem retain_alter (e : Entries α) (keep : String → Bool) (name : String) (f : Option α → α) :
    (e.alter name f).retain keep =
      if keep name then (e.retain keep).alter name f else e.retain keep := by
  induction e with
  | nil => by_cases hname : keep name <;> simp [alter, retain, hname]
  | cons x rest ih =>
    obtain ⟨k, v⟩ := x
    by_cases hk : k = name
    · subst hk
      by_cases hkeep : keep k <;> simp [alter, retain_cons, hkeep]
    · have halter (e : Entries α) : alter ((k, v) :: e) name f = (k, v) :: e.alter name f := by
        simp [alter, hk]
      rw [halter, retain_cons, retain_cons, ih]
      by_cases hkeep : keep k
      · by_cases hname : keep name <;> simp [hkeep, hname, halter]
      · simp [hkeep]

theorem mem_of_get? {e : Entries α} {name : String} {v : α} (h : e.get? name = some v) :
    (name, v) ∈ e := by
  induction e with
  | nil => cases h
  | cons x rest ih =>
    obtain ⟨k, w⟩ := x
    rw [get?] at h
    split at h
    · rename_i hk
      obtain rfl := Option.some.inj h
      exact hk ▸ List.mem_cons_self
    · exact List.mem_cons_of_mem _ (ih h)

/-- A name that stands once has the value that it stands with. -/
theorem get?_of_mem {e : Entries α} (h : e.names.Nodup) {name : String} {v : α}
    (hmem : (name, v) ∈ e) : e.get? name = some v := by
  induction e with
  | nil => cases hmem
  | cons x rest ih =>
    obtain ⟨k, w⟩ := x
    obtain ⟨hk, hrest⟩ := List.nodup_cons.1 (show (k :: names rest).Nodup from h)
    rw [get?]
    rcases List.mem_cons.1 hmem with hfirst | hmem
    · obtain ⟨rfl, rfl⟩ := Prod.mk.inj hfirst
      rw [if_pos rfl]
    · have hother : k ≠ name := by
        rintro rfl
        exact hk (List.mem_map_of_mem hmem)
      rw [if_neg hother]
      exact ih hrest hmem

theorem get?_eq_some_iff_mem {e : Entries α} (h : e.names.Nodup) (name : String) (v : α) :
    e.get? name = some v ↔ (name, v) ∈ e := ⟨mem_of_get?, get?_of_mem h⟩

/-- Look-ups do not depend on the order of the entries. -/
theorem get?_of_perm {a b : Entries α} (h : a.Perm b) (hnames : a.names.Nodup) (name : String) :
    a.get? name = b.get? name := by
  have hnames' : b.names.Nodup := (h.map Prod.fst).nodup_iff.1 hnames
  ext v
  rw [get?_eq_some_iff_mem hnames, get?_eq_some_iff_mem hnames', h.mem_iff]

/-- The last entry moves, and that of the name goes. -/
theorem swapRemove_perm {e : Entries α} (h : e.names.Nodup) (name : String) :
    (e.swapRemove name).Perm (e.filter fun x => x.1 ≠ name) := by
  induction e with
  | nil => exact .refl _
  | cons x rest ih =>
    obtain ⟨k, v⟩ := x
    obtain ⟨hk, hrest⟩ := List.nodup_cons.1 (show (k :: names rest).Nodup from h)
    rw [swapRemove]
    split
    · rename_i hname
      subst hname
      have hothers : (rest.filter fun x => x.1 ≠ k) = rest :=
        List.filter_eq_self.2 fun y hy => by
          simpa using fun hy' : y.1 = k => hk (hy' ▸ List.mem_map_of_mem hy)
      rw [List.filter_cons_of_neg (by simp), hothers]
      split
      · rename_i hlast
        rw [List.getLast?_eq_none_iff.1 hlast]
      · rename_i last hlast
        obtain ⟨before, rfl⟩ := List.getLast?_eq_some_iff.1 hlast
        rw [List.dropLast_concat]
        exact (List.perm_append_singleton last before).symm
    · rename_i hname
      rw [List.filter_cons_of_pos (by simpa using hname)]
      exact (ih hrest).cons _

theorem foldl_put_of_nodup {e pairs : Entries α} (h : (e ++ pairs).names.Nodup) :
    pairs.foldl (fun e p => e.put p.1 p.2) e = e ++ pairs := by
  induction pairs generalizing e with
  | nil => exact (List.append_nil e).symm
  | cons p pairs ih =>
    have hp : p.1 ∉ e.names := by
      rw [names, List.map_append, List.nodup_append] at h
      intro hmem
      exact h.2.2 p.1 hmem p.1 List.mem_cons_self rfl
    rw [List.foldl_cons, put, alter_of_not_mem hp, ih (by simpa using h)]
    simp

theorem ofPairs_of_nodup {pairs : Entries α} (h : pairs.names.Nodup) : ofPairs pairs = pairs :=
  foldl_put_of_nodup h

theorem get?_ofPairs_of_mem {pairs : List (String × α)} {name : String} {value : α}
    (hnames : (pairs.map Prod.fst).Nodup) (h : (name, value) ∈ pairs) :
    (ofPairs pairs).get? name = some value := by
  rw [ofPairs_of_nodup hnames]
  exact get?_of_mem hnames h

end TableApi.Entries
