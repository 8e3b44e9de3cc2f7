namespace TableApi

/-- Named values in a fixed order. The operations below keep the names distinct. -/
abbrev Entries (α : Type) := List (String × α)

namespace Entries

variable {α : Type}

def names (e : Entries α) : List String := e.map Prod.fst

def get? (e : Entries α) (name : String) : Option α :=
  match e with
  | [] => none
  | (k, v) :: rest => if k = name then some v else get? rest name

def has (e : Entries α) (name : String) : Bool := (e.get? name).isSome

/-- Applies `f` to the value of a name where it stands, or adds the name at the end. -/
def alter (e : Entries α) (name : String) (f : Option α → α) : Entries α :=
  match e with
  | [] => [(name, f none)]
  | (k, v) :: rest => if k = name then (k, f (some v)) :: rest else (k, v) :: alter rest name f

/-- Sets the value of a name; a name that is present keeps its place. -/
def put (e : Entries α) (name : String) (value : α) : Entries α := e.alter name fun _ => value

def swapRemove (e : Entries α) (name : String) : Entries α :=
  match e with
  | [] => []
  | (k, v) :: rest =>
    if k = name then
      match rest.getLast? with
      | none => []
      | some last => last :: rest.dropLast
    else (k, v) :: swapRemove rest name

def retain (e : Entries α) (keep : String → Bool) : Entries α := e.filter fun x => keep x.1

/-- Builds entries from pairs: of two pairs with one name the later value wins and the earlier
place stays. -/
def ofPairs (pairs : List (String × α)) : Entries α :=
  pairs.foldl (fun e p => e.put p.1 p.2) []

@[simp] theorem get?_nil (name : String) : get? ([] : Entries α) name = none := rfl

theorem get?_alter (e : Entries α) (name key : String) (f : Option α → α) :
    (e.alter name f).get? key = if key = name then some (f (e.get? name)) else e.get? key := by
  induction e with
  | nil => simp only [alter, get?, @eq_comm _ name]
  | cons x rest ih =>
    obtain ⟨k, v⟩ := x
    by_cases hk : k = name
    · subst hk
      by_cases h : key = k
      · simp [alter, get?, h]
      · simp [alter, get?, h, Ne.symm h]
    · by_cases h : key = k
      · subst h
        simp [alter, get?, hk]
      · simp [alter, get?, hk, Ne.symm h, ih]

theorem names_alter (e : Entries α) (name : String) (f : Option α → α) :
    (e.alter name f).names = if name ∈ e.names then e.names else e.names ++ [name] := by
  induction e with
  | nil => simp [alter, names]
  | cons x rest ih =>
    obtain ⟨k, v⟩ := x
    by_cases hk : k = name
    · simp [alter, names, hk]
    · simp only [names] at ih ⊢
      by_cases h : name ∈ rest.map Prod.fst <;> simp [alter, hk, Ne.symm hk, ih, h]

theorem nodup_names_alter {e : Entries α} (h : e.names.Nodup) (name : String)
    (f : Option α → α) : (e.alter name f).names.Nodup := by
  rw [names_alter]
  split
  · exact h
  · rename_i hn
    rw [List.nodup_append]
    refine ⟨h, by simp, ?_⟩
    intro a ha b hb
    simp only [List.mem_singleton] at hb
    rintro rfl
    exact hn (hb ▸ ha)

end Entries

end TableApi
