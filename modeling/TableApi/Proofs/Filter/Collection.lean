import Mathlib.Data.List.Induction
import TableApi.Proofs.Filter.Accounting
import TableApi.Proofs.Text.Cuts

/-!
What pairs collect into. Each name stands once, where its first pair stands, with the values that its
pairs give in their order; it holds a single value only if its one pair gives one as it is. Nothing
is lost, made up or moved, and setting or leaving out parameters touches no others.
-/

namespace TableApi.Filter.Parameters

/-! ### Reading one pair -/

theorem splitBrackets_brackets (name : String) : splitBrackets (name ++ "[]") = (name, true) := by
  have hname : (name ++ "[]").toList = name.toList ++ ['[', ']'] := String.toList_append
  simp only [splitBrackets, hname, Text.dropEnding?_append, String.ofList_toList]

theorem splitBrackets_of_not_suffix {key : String} (h : ¬['[', ']'] <:+ key.toList) :
    splitBrackets key = (key, false) := by
  have hdrop : Text.dropEnding? ['[', ']'] key.toList = none := by
    rw [Text.dropEnding?, if_neg]
    rwa [List.isSuffixOf_iff_suffix]
  rw [splitBrackets, hdrop]

/-- A key has no brackets just when it is the name itself. -/
theorem splitBrackets_snd_eq_false_iff {key : String} :
    (splitBrackets key).2 = false ↔ (splitBrackets key).1 = key := by
  by_cases h : ['[', ']'] <:+ key.toList
  · obtain ⟨name, hname⟩ := h
    obtain rfl : String.ofList name ++ "[]" = key := by
      rw [← String.toList_inj, String.toList_append, String.toList_ofList]
      exact hname
    rw [splitBrackets_brackets]
    refine iff_of_false (by simp) ?_
    intro hself
    have hlength := congrArg String.length hself
    simp at hlength
  · simp [splitBrackets_of_not_suffix h]

theorem isSplit_iff {name value : String} :
    isSplit name value = true ↔ ['_', 'i', 'n'] <:+ name.toList ∧ ',' ∈ value.toList := by
  simp [isSplit]

/-- The values that a pair gives to the parameter of its name: under a name that ends in `_in` the
trimmed parts between the commas, if there are commas, and otherwise the value as it is. -/
inductive Gives (name value : String) : List String → Prop
  | parts (raw : List String) (hname : ['_', 'i', 'n'] <:+ name.toList)
    (hcomma : ',' ∈ value.toList) (hjoin : value = Text.join "," raw)
    (hraw : ∀ part ∈ raw, ',' ∉ part.toList) : Gives name value (raw.map Text.trim)
  | whole (h : ['_', 'i', 'n'] <:+ name.toList → ',' ∉ value.toList) : Gives name value [value]

/-- The values of a pair, as its name and its text have them. -/
theorem gives_pieces (name value : String) : Gives name value (pieces name value) := by
  unfold pieces
  split
  · rename_i hsplit
    obtain ⟨hname, hcomma⟩ := isSplit_iff.1 hsplit
    have hparts : ((value.toList.splitOn ',').map fun piece => String.ofList (Text.trimChars piece))
        = ((value.toList.splitOn ',').map String.ofList).map Text.trim := by
      simp [Text.trim]
    rw [hparts]
    have hseparator : ",".toList = [','] := rfl
    obtain ⟨-, hjoin, hraw⟩ := (Text.splitOn_eq_iff hseparator).1 rfl
    exact .parts _ hname hcomma hjoin hraw
  · rename_i hsplit
    refine .whole ?_
    intro hname hcomma
    exact hsplit (isSplit_iff.2 ⟨hname, hcomma⟩)

theorem pieces_of_gives {name value : String} {texts : List String}
    (h : Gives name value texts) : pieces name value = texts := by
  cases h with
  | parts raw hname hcomma hjoin hraw =>
    have hne : raw ≠ [] := by
      rintro rfl
      rw [hjoin] at hcomma
      cases hcomma
    have hseparator : ",".toList = [','] := rfl
    have hcut := (Text.splitOn_eq_iff hseparator).2 ⟨hne, hjoin, hraw⟩
    rw [pieces, if_pos (isSplit_iff.2 ⟨hname, hcomma⟩), ← hcut, List.map_map]
    simp [Text.trim]
  | whole hwhole =>
    rw [pieces, if_neg]
    intro hsplit
    obtain ⟨hname, hcomma⟩ := isSplit_iff.1 hsplit
    exact hwhole hname hcomma

/-! ### The pairs of one name -/

def under (name : String) (pairs : List (String × String)) : List (String × String) :=
  pairs.filter fun p => nameOf p = name

def begun (name : String) (p : String × String) : ParamValue :=
  if (splitBrackets p.1).2 || isSplit name p.2 then .many (pieces name p.2) else .single p.2

def gather (name : String) : List (String × String) → Option ParamValue
  | [] => none
  | [p] => some (begun name p)
  | pairs => some (.many (pairs.flatMap fun p => pieces name p.2))

theorem push_eq (params : Parameters) (p : String × String) :
    push params p.1 p.2 = Entries.alter params (nameOf p) fun old =>
      (old.map fun v => .many (v.values ++ pieces (nameOf p) p.2)).getD (begun (nameOf p) p) := by
  refine congrArg (Entries.alter params (nameOf p)) (funext fun old => ?_)
  cases old <;> rfl

theorem values_begun (name : String) (p : String × String) :
    (begun name p).values = pieces name p.2 := by
  unfold begun
  split
  · rfl
  · rename_i h
    have hsplit : isSplit name p.2 = false := by
      simp only [Bool.or_eq_true, not_or] at h
      exact eq_false_of_ne_true h.2
    rw [pieces, hsplit]
    rfl

theorem values_of_gather {name : String} {pairs : List (String × String)} {v : ParamValue}
    (h : gather name pairs = some v) : v.values = pairs.flatMap fun p => pieces name p.2 := by
  match pairs, h with
  | [p], h =>
    obtain rfl := Option.some.inj h
    rw [values_begun, List.flatMap_singleton]
  | p :: q :: rest, h =>
    obtain rfl := Option.some.inj h
    rfl

/-- The next pair of a name turns what was gathered into a list. -/
theorem gather_append (name : String) (pairs : List (String × String)) (p : String × String) :
    gather name (pairs ++ [p]) =
      some (((gather name pairs).map fun v =>
        .many (v.values ++ pieces name p.2)).getD (begun name p)) := by
  cases pairs with
  | nil => rfl
  | cons q rest =>
    obtain ⟨v, hv⟩ : ∃ v, gather name (q :: rest) = some v := by
      cases rest <;> exact ⟨_, rfl⟩
    have hmany : gather name (q :: rest ++ [p]) =
        some (.many ((q :: rest ++ [p]).flatMap fun p => pieces name p.2)) := by
      cases rest <;> rfl
    rw [hmany, hv, Option.map_some, Option.getD_some, values_of_gather hv, List.flatMap_append,
      List.flatMap_singleton]

/-! ### All pairs -/

theorem ofPairs_append (pairs : List (String × String)) (p : String × String) :
    ofPairs (pairs ++ [p]) = push (ofPairs pairs) p.1 p.2 := by
  rw [ofPairs, List.foldl_append]
  rfl

/-- Names stand in the order in which they first appear. -/
theorem names_ofPairs (pairs : List (String × String)) :
    Entries.names (ofPairs pairs) = (pairs.map nameOf).eraseDups := by
  induction pairs using List.reverseRecOn with
  | nil => rfl
  | append_singleton pairs p ih =>
    -- a name that is new goes to the end, as the last of the distinct names
    rw [ofPairs_append, push_eq, Entries.names_alter, ih, List.map_append, List.eraseDups_append]
    simp only [List.mem_eraseDups]
    split <;> rename_i hmem <;> simp [List.removeAll, List.eraseDups_cons, hmem]

/-- A look-up finds what the pairs of the name come to. -/
theorem get?_ofPairs (pairs : List (String × String)) (name : String) :
    Entries.get? (ofPairs pairs) name = gather name (under name pairs) := by
  induction pairs using List.reverseRecOn with
  | nil => rfl
  | append_singleton pairs p ih =>
    rw [ofPairs_append, push_eq, Entries.get?_alter, under, List.filter_append, ← under]
    by_cases hname : nameOf p = name
    · subst hname
      have hp : [p].filter (fun q => nameOf q = nameOf p) = [p] := by simp
      rw [if_pos rfl, hp, gather_append, ih]
    · have hp : [p].filter (fun q => nameOf q = name) = [] := by simp [hname]
      rw [if_neg (Ne.symm hname), hp, List.append_nil, ih]

structure Gathers (pairs : List (String × String)) (params : Parameters) : Prop where
  distinct : (Entries.names params).Nodup
  /-- The names of the pairs, each where it first occurs. -/
  names : Entries.names params = (pairs.map nameOf).eraseDups
  values : ∀ x ∈ params, ∃ given : List (List String),
    List.Forall₂ (fun p texts => Gives x.1 p.2 texts) (under x.1 pairs) given ∧
      x.2.values = given.flatten
  /-- A single value comes from one pair, with the name for its key and a value that is not cut. -/
  single : ∀ x ∈ params, (∃ value, x.2 = .single value) ↔
    ∃ value, under x.1 pairs = [(x.1, value)] ∧ isSplit x.1 value = false
  filled : ∀ x ∈ params, x.2 ≠ .many []

theorem begun_eq_single_iff {name : String} {p : String × String} (hp : nameOf p = name) :
    (∃ value, begun name p = .single value) ↔ p.1 = name ∧ isSplit name p.2 = false := by
  have hkey : (splitBrackets p.1).2 = false ↔ p.1 = name := by
    rw [splitBrackets_snd_eq_false_iff, ← hp, nameOf, eq_comm]
  rw [← hkey]
  unfold begun
  by_cases hmany : ((splitBrackets p.1).2 || isSplit name p.2) = true
  · rw [if_pos hmany]
    refine iff_of_false (by simp) ?_
    rintro ⟨hbrackets, hsplit⟩
    simp [hbrackets, hsplit] at hmany
  · rw [if_neg hmany]
    simpa using hmany

/-- A single value comes from one pair without brackets or commas. -/
theorem gather_eq_single_iff {name : String} {pairs : List (String × String)} {v : ParamValue}
    (hnames : ∀ p ∈ pairs, nameOf p = name) (h : gather name pairs = some v) :
    (∃ value, v = .single value) ↔
      ∃ value, pairs = [(name, value)] ∧ isSplit name value = false := by
  match pairs, h with
  | [p], h =>
    obtain rfl := Option.some.inj h
    rw [begun_eq_single_iff (hnames p List.mem_cons_self)]
    obtain ⟨key, value⟩ := p
    simp [Prod.ext_iff, and_assoc]
  | p :: q :: rest, h =>
    obtain rfl := Option.some.inj h
    simp

/-- Looking a name up gives what its pairs come to, wherever they stand. -/
theorem gathers_ofPairs (pairs : List (String × String)) : Gathers pairs (ofPairs pairs) := by
  have hcollected := collected_ofPairs pairs
  have hgather : ∀ x ∈ ofPairs pairs, gather x.1 (under x.1 pairs) = some x.2 := by
    intro x hx
    rw [← get?_ofPairs]
    exact Entries.get?_of_mem hcollected.nodup hx
  refine ⟨hcollected.nodup, names_ofPairs pairs, ?_, ?_, ?_⟩
  · intro x hx
    refine ⟨(under x.1 pairs).map fun p => pieces x.1 p.2, ?_, ?_⟩
    · rw [List.forall₂_map_right_iff]
      exact List.forall₂_same.2 fun p _ => gives_pieces x.1 p.2
    · rw [values_of_gather (hgather x hx)]
      rfl
  · intro x hx
    refine gather_eq_single_iff ?_ (hgather x hx)
    intro p hp
    simpa [under] using (List.mem_filter.1 hp).2
  · intro x hx hempty
    apply hcollected.filled x hx
    rw [hempty]
    rfl

/-! ### Setting and leaving out -/

theorem insert_of_not_mem {params : Parameters} {name : String}
    (h : name ∉ Entries.names params) (value : ParamValue) :
    insert params name value = params ++ [(name, value)] :=
  Entries.alter_of_not_mem h _

theorem insert_of_nodup {before after : Parameters} {name : String} {old : ParamValue}
    (h : (Entries.names (before ++ (name, old) :: after)).Nodup) (value : ParamValue) :
    insert (before ++ (name, old) :: after) name value = before ++ (name, value) :: after := by
  refine Entries.alter_append ?_ old after _
  intro hmem
  rw [Entries.names, List.map_append, List.nodup_append] at h
  exact h.2.2 name hmem name List.mem_cons_self rfl

theorem nodup_without {params : Parameters} (h : (Entries.names params).Nodup)
    (names : List String) : (Entries.names (without params names)).Nodup :=
  h.sublist (List.filter_sublist.map Prod.fst)

/-- What pairs collect into, and what changes when a parameter is set and when some are left out. -/
theorem collected_without_loss :
    (∀ name value, nameOf (name ++ "[]", value) = name) ∧
    (∀ key value, ¬['[', ']'] <:+ key.toList → nameOf (key, value) = key) ∧
    (∀ pairs, Gathers pairs (ofPairs pairs)) ∧
    (∀ (params : Parameters) (name : String) (value : ParamValue),
      (Entries.names params).Nodup →
        (Entries.names (insert params name value)).Nodup ∧
        (name ∉ Entries.names params → insert params name value = params ++ [(name, value)]) ∧
        ∀ before old after, params = before ++ (name, old) :: after →
          insert params name value = before ++ (name, value) :: after) ∧
    ∀ (params : Parameters) (names : List String), (Entries.names params).Nodup →
      (Entries.names (without params names)).Nodup ∧
      (without params names).Sublist params ∧
      ∀ x, x ∈ without params names ↔ x ∈ params ∧ x.1 ∉ names := by
  refine ⟨?_, ?_, gathers_ofPairs, ?_, ?_⟩
  · intro name value
    rw [nameOf, splitBrackets_brackets]
  · intro key value hkey
    rw [nameOf, splitBrackets_of_not_suffix hkey]
  · intro params name value hnodup
    refine ⟨Entries.nodup_names_alter hnodup name _, fun h => insert_of_not_mem h value, ?_⟩
    rintro before old after rfl
    exact insert_of_nodup hnodup value
  · intro params names hnodup
    refine ⟨nodup_without hnodup names, List.filter_sublist, ?_⟩
    intro x
    simp [without, Entries.retain]

/-- A list in two spellings with another name between them, and that name again in brackets. -/
def interleavedPairs : List (String × String) :=
  [("status_in[]", "a"), ("name", "x"), ("status_in", "b, c"), ("name[]", "y,z"), ("page", "2")]

def interleaved : Parameters :=
  [("status_in", .many ["a", "b", "c"]), ("name", .many ["x", "y,z"]), ("page", .single "2")]

theorem interleaved_without_loss :
    Gathers interleavedPairs interleaved ∧
    nameOf ("status", "a") = "status" ∧
    insert interleaved "name" (.single "w") =
      [("status_in", .many ["a", "b", "c"]), ("name", .single "w"), ("page", .single "2")] ∧
    insert interleaved "sort" (.single "w") = interleaved ++ [("sort", .single "w")] ∧
    (without interleaved ["name"]).Sublist interleaved ∧
    ("page", .single "2") ∈ without interleaved ["name"] := by
  obtain ⟨-, hkey, hgathers, hinsert, hwithout⟩ := collected_without_loss
  have hpairs : ofPairs interleavedPairs = interleaved := by decide +kernel
  have hnodup : (Entries.names interleaved).Nodup := by decide
  obtain ⟨-, -, hset⟩ := hinsert interleaved "name" (.single "w") hnodup
  obtain ⟨-, hadd, -⟩ := hinsert interleaved "sort" (.single "w") hnodup
  obtain ⟨-, hsublist, hmem⟩ := hwithout interleaved ["name"] hnodup
  refine ⟨hpairs ▸ hgathers interleavedPairs, hkey "status" "a" (by decide), ?_, ?_, hsublist, ?_⟩
  · exact hset [("status_in", .many ["a", "b", "c"])] (.many ["x", "y,z"])
      [("page", .single "2")] rfl
  · exact hadd (by decide)
  · exact (hmem _).2 ⟨by decide, by decide⟩

end TableApi.Filter.Parameters
