import Mathlib.Data.List.Forall2

namespace TableApi

/-- Steps give a value when each of them does. -/
theorem eq_ok_of_bind {ε α β : Type} {x : Except ε α} {f : α → Except ε β} {b : β}
    (h : x >>= f = .ok b) : ∃ a, x = .ok a ∧ f a = .ok b := by
  cases x with
  | error e => simp [bind, Except.bind] at h
  | ok a => exact ⟨a, rfl, h⟩

theorem eq_ok_of_map {ε α β : Type} {x : Except ε α} {f : α → β} {b : β}
    (h : x.map f = .ok b) : ∃ a, x = .ok a ∧ f a = b := by
  cases x with
  | error e => simp [Except.map] at h
  | ok a => exact ⟨a, rfl, Except.ok.inj h⟩

theorem map_eq_error_iff {ε α β : Type} {x : Except ε α} {f : α → β} {e : ε} :
    x.map f = .error e ↔ x = .error e := by
  cases x with
  | error e' => simp [Except.map]
  | ok a => simp [Except.map]

/-- Steps that give the same under `g` end in the same error, or in values that `g` does not tell
apart. -/
theorem map_eq_map_iff {ε α β : Type} {x y : Except ε α} {g : α → β} :
    x.map g = y.map g ↔
      (∃ e, x = .error e ∧ y = .error e) ∨ ∃ a b, x = .ok a ∧ y = .ok b ∧ g a = g b := by
  cases x <;> cases y <;> simp [Except.map, eq_comm]

section

variable {ε α β : Type} {f : α → Except ε β}

theorem mapM_singleton (f : α → Except ε β) (x : α) : [x].mapM f = (f x).map fun y => [y] := by
  rw [List.mapM_cons, List.mapM_nil]
  cases f x <;> rfl

theorem forall₂_of_mapM {xs : List α} {ys : List β} (h : xs.mapM f = .ok ys) :
    List.Forall₂ (fun x y => f x = .ok y) xs ys := by
  induction xs generalizing ys with
  | nil =>
    obtain rfl : [] = ys := Except.ok.inj h
    exact .nil
  | cons x xs ih =>
    rw [List.mapM_cons] at h
    obtain ⟨y, hy, h⟩ := eq_ok_of_bind h
    obtain ⟨rest, hrest, h⟩ := eq_ok_of_bind h
    obtain rfl : y :: rest = ys := Except.ok.inj h
    exact .cons hy (ih hrest)

theorem exists_of_mem_forall₂ {R : α → β → Prop} {xs : List α} {ys : List β}
    (h : List.Forall₂ R xs ys) {y : β} (hy : y ∈ ys) : ∃ x ∈ xs, R x y := by
  induction h with
  | nil => cases hy
  | @cons x _ _ _ hx _ ih =>
    rcases List.mem_cons.1 hy with rfl | hy
    · exact ⟨x, List.mem_cons_self, hx⟩
    · obtain ⟨x', hmem, hx'⟩ := ih hy
      exact ⟨x', List.mem_cons_of_mem _ hmem, hx'⟩

/-- What the steps give comes from one of them each. -/
theorem exists_of_mem_mapM {xs : List α} {ys : List β} (h : xs.mapM f = .ok ys) {y : β}
    (hy : y ∈ ys) : ∃ x ∈ xs, f x = .ok y := exists_of_mem_forall₂ (forall₂_of_mapM h) hy

theorem exists_of_mapM {xs : List α} {ys : List β} (h : xs.mapM f = .ok ys) {x : α}
    (hx : x ∈ xs) : ∃ y, f x = .ok y := by
  have hsteps : List.Forall₂ (fun y x => f x = .ok y) ys xs := (forall₂_of_mapM h).flip
  obtain ⟨y, -, hy⟩ := exists_of_mem_forall₂ hsteps hx
  exact ⟨y, hy⟩

theorem mapM_eq_ok {xs : List α} (h : ∀ x ∈ xs, ∃ y, f x = .ok y) :
    ∃ ys, xs.mapM f = .ok ys := by
  induction xs with
  | nil => exact ⟨[], rfl⟩
  | cons x xs ih =>
    obtain ⟨hx, hxs⟩ := List.forall_mem_cons.1 h
    obtain ⟨y, hy⟩ := hx
    obtain ⟨ys, hys⟩ := ih hxs
    refine ⟨y :: ys, ?_⟩
    rw [List.mapM_cons, hy, hys]
    rfl

/-- The first step that fails decides the error. -/
theorem mapM_eq_error {before : List α} {x : α} {e : ε} (after : List α)
    (hbefore : ∀ y ∈ before, ∃ z, f y = .ok z) (hx : f x = .error e) :
    (before ++ x :: after).mapM f = .error e := by
  induction before with
  | nil =>
    rw [List.nil_append, List.mapM_cons, hx]
    rfl
  | cons y before ih =>
    obtain ⟨⟨z, hz⟩, hrest⟩ := List.forall_mem_cons.1 hbefore
    rw [List.cons_append, List.mapM_cons, hz, ih hrest]
    rfl

/-- Every step succeeds, or there is a first one that fails. -/
theorem forall_ok_or_first_error (f : α → Except ε β) (xs : List α) :
    (∀ x ∈ xs, ∃ y, f x = .ok y) ∨
      ∃ before x after e, xs = before ++ x :: after ∧ (∀ y ∈ before, ∃ z, f y = .ok z) ∧
        f x = .error e := by
  induction xs with
  | nil => exact .inl (by simp)
  | cons x xs ih =>
    cases hx : f x with
    | error e => exact .inr ⟨[], x, xs, e, rfl, by simp, hx⟩
    | ok y =>
      rcases ih with hall | ⟨before, z, after, e, rfl, hbefore, hz⟩
      · exact .inl (List.forall_mem_cons.2 ⟨⟨y, hx⟩, hall⟩)
      · exact .inr ⟨x :: before, z, after, e, rfl, List.forall_mem_cons.2 ⟨⟨y, hx⟩, hbefore⟩, hz⟩

/-- The error of some steps is that of the first one that fails. -/
theorem mapM_eq_error_iff {xs : List α} {e : ε} :
    xs.mapM f = .error e ↔ ∃ before x after, xs = before ++ x :: after ∧
      (∀ y ∈ before, ∃ z, f y = .ok z) ∧ f x = .error e := by
  constructor
  · intro h
    rcases forall_ok_or_first_error f xs with hall | ⟨before, x, after, e', hxs, hbefore, hx⟩
    · obtain ⟨ys, hys⟩ := mapM_eq_ok hall
      rw [hys] at h
      cases h
    · have hfirst : xs.mapM f = .error e' := by
        rw [hxs]
        exact mapM_eq_error after hbefore hx
      obtain rfl : e' = e := Except.error.inj (hfirst.symm.trans h)
      exact ⟨before, x, after, hxs, hbefore, hx⟩
  · rintro ⟨before, x, after, rfl, hbefore, hx⟩
    exact mapM_eq_error after hbefore hx

/-- Steps that `g` does not tell apart one by one, it does not tell apart together. -/
theorem map_mapM_congr {γ : Type} {g : β → γ} {xs ys : List α}
    (h : List.Forall₂ (fun x y => (f x).map g = (f y).map g) xs ys) :
    (xs.mapM f).map (List.map g) = (ys.mapM f).map (List.map g) := by
  induction h with
  | nil => rfl
  | cons hstep hsteps ih =>
    rw [List.mapM_cons, List.mapM_cons]
    obtain ⟨e, hx, hy⟩ | ⟨a, b, hx, hy, hab⟩ := map_eq_map_iff.1 hstep
    · rw [hx, hy]
      rfl
    · rw [hx, hy]
      obtain ⟨e, hxs, hys⟩ | ⟨as, bs, hxs, hys, htail⟩ := map_eq_map_iff.1 ih
      · rw [hxs, hys]
        rfl
      · rw [hxs, hys]
        exact congrArg Except.ok (List.cons_eq_cons.2 ⟨hab, htail⟩)

end

end TableApi
