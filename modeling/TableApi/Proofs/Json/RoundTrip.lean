import TableApi.Proofs.Json.Scanning
import TableApi.Proofs.Json.Values

/-!
The compact text of a value is read back as the value. All that can be lost on the way is a number
apart from the integers: a value is read back if each such number in it is.
-/

namespace TableApi.Json

/-! ### Tokens -/

theorem mem_itemTokens {items : List Json} {v : Json} (hv : v ∈ items) {t : Token}
    (ht : t ∈ v.tokens) : t ∈ itemTokens items := by
  induction items with
  | nil => cases hv
  | cons w rest ih =>
    rw [List.mem_cons] at hv
    cases rest with
    | nil =>
      obtain rfl : v = w := by simpa using hv
      exact ht
    | cons =>
      rw [itemTokens]
      rcases hv with rfl | hv
      · exact List.mem_append_left _ ht
      · exact List.mem_append_right _ (List.mem_cons_of_mem _ (ih hv))
      · simp

theorem mem_memberTokens {members : Record} {m : String × Json} (hm : m ∈ members) {t : Token}
    (ht : t ∈ m.2.tokens) : t ∈ memberTokens members := by
  induction members with
  | nil => cases hm
  | cons x rest ih =>
    rw [List.mem_cons] at hm
    cases rest with
    | nil =>
      obtain rfl : m = x := by simpa using hm
      rw [memberTokens]
      exact List.mem_cons_of_mem _ (List.mem_cons_of_mem _ ht)
    | cons =>
      rw [memberTokens]
      · apply List.mem_cons_of_mem _ (List.mem_cons_of_mem _ _)
        rcases hm with rfl | hm
        · exact List.mem_append_left _ ht
        · exact List.mem_append_right _ (List.mem_cons_of_mem _ (ih hm))
      · simp

theorem scans_itemTokens {items : List Json} (h : ∀ v ∈ items, Scans v.tokens) :
    Scans (itemTokens items) := by
  induction items with
  | nil => exact scans_nil
  | cons v rest ih =>
    obtain ⟨hv, hrest⟩ := List.forall_mem_cons.1 h
    cases rest with
    | nil => exact hv
    | cons => exact hv.append_symbol (isSymbol_of_mem (by simp)) (ih hrest)

theorem scans_memberTokens {members : Record} (h : ∀ m ∈ members, Scans m.2.tokens) :
    Scans (memberTokens members) := by
  induction members with
  | nil => exact scans_nil
  | cons m rest ih =>
    obtain ⟨hv, hrest⟩ := List.forall_mem_cons.1 h
    have hname := (returns_str m.1).scans
    cases rest with
    | nil => exact hname.append_symbol (isSymbol_of_mem (by simp)) hv
    | cons =>
      have hmembers := hv.append_symbol (isSymbol_of_mem (t := .comma) (by simp)) (ih hrest)
      exact hname.append_symbol (isSymbol_of_mem (by simp)) hmembers

/-- The compact text of a value is scanned to its tokens. -/
theorem scans_tokens {room : Nat} {v : Json} (hv : v.Within room)
    (hreals : ∀ x, .real x ∈ v.tokens → (Token.real x).Returns) : Scans v.tokens := by
  induction hv with
  | null => exact Token.Returns.scans rfl
  | bool b => cases b <;> exact Token.Returns.scans rfl
  | int hmin hmax => exact (returns_int hmin hmax).scans
  | real => exact (hreals _ List.mem_cons_self).scans
  | str s => exact (returns_str s).scans
  | arr _ ih =>
    have hitems := scans_itemTokens fun v hv => ih v hv fun x hx =>
      hreals x (List.mem_cons_of_mem _ (List.mem_append_left _ (mem_itemTokens hv hx)))
    have hclosed := hitems.append_symbol (isSymbol_of_mem (t := .closeBracket) (by simp)) scans_nil
    exact hclosed.cons_symbol (isSymbol_of_mem (by simp))
  | obj _ _ ih =>
    have hmembers := scans_memberTokens fun m hm => ih m hm fun x hx =>
      hreals x (List.mem_cons_of_mem _ (List.mem_append_left _ (mem_memberTokens hm hx)))
    have hclosed := hmembers.append_symbol (isSymbol_of_mem (t := .closeBrace) (by simp)) scans_nil
    exact hclosed.cons_symbol (isSymbol_of_mem (by simp))

/-! ### Trees -/

namespace Node

/-- A tree that the tokens of a value are read as, and whose value it is. -/
structure Writes (room : Nat) (n : Node) (v : Json) : Prop where
  value : n.value? room = some v
  accept : ∀ o rest, acceptAll (.value o) (v.tokens.map .token ++ rest) = acceptAll (.after n o) rest

/-- A value begins with a token that does not close an array. -/
theorem acceptAll_firstItem (v : Json) (o : List Frame) (rest : List Lexeme) :
    acceptAll (.firstItem o) (v.tokens.map .token ++ rest) =
      acceptAll (.value (.item [] :: o)) (v.tokens.map .token ++ rest) := by
  cases v <;> rfl

/-- Items that are read one after the other, after those that are done. -/
theorem accept_items {room : Nat} {f : Json → Node} {v : Json} {items : List Json}
    (h : ∀ w ∈ v :: items, (f w).Writes room w) (done : List Node) (o : List Frame)
    (rest : List Lexeme) :
    acceptAll (.value (.item done :: o))
        ((itemTokens (v :: items)).map .token ++ .token .closeBracket :: rest) =
      acceptAll (.after (.arr (done.reverse ++ (v :: items).map f)) o) rest := by
  induction items generalizing v done with
  | nil =>
    rw [itemTokens, (h v List.mem_cons_self).accept, acceptAll, accept]
    simp only [List.reverse_cons, List.map_cons, List.map_nil]
  | cons w items ih =>
    obtain ⟨hv, hrest⟩ := List.forall_mem_cons.1 h
    have htokens : itemTokens (v :: w :: items) = v.tokens ++ .comma :: itemTokens (w :: items) := by
      simp [itemTokens]
    rw [htokens, List.map_append, List.append_assoc, hv.accept, List.map_cons, List.cons_append,
      acceptAll, accept]
    simp only [ih hrest, List.reverse_cons, List.append_assoc, List.singleton_append, List.map_cons]

/-- The machine takes the members of an object one by one, whatever container is open around it. -/
theorem accept_members {room : Nat} {f : String × Json → Node} {m : String × Json} {members : Record}
    (h : ∀ x ∈ m :: members, (f x).Writes room x.2) (done : List (Option String × Node))
    (o : List Frame) (rest : List Lexeme) :
    acceptAll (.nextName done o)
        ((memberTokens (m :: members)).map .token ++ .token .closeBrace :: rest) =
      acceptAll (.after (.obj (done.reverse ++ (m :: members).map fun x => (some x.1, f x))) o)
        rest := by
  induction members generalizing m done with
  | nil =>
    simp only [memberTokens, List.map_cons, List.cons_append, acceptAll, accept, name?,
      Option.map_some, (h m List.mem_cons_self).accept, List.reverse_cons, List.map_nil]
  | cons x members ih =>
    obtain ⟨hm, hrest⟩ := List.forall_mem_cons.1 h
    have htokens : memberTokens (m :: x :: members) =
        .str m.1 :: .colon :: (m.2.tokens ++ .comma :: memberTokens (x :: members)) := by
      simp [memberTokens]
    simp only [htokens, List.map_cons, List.map_append, List.cons_append, List.append_assoc,
      acceptAll, accept, name?, Option.map_some, hm.accept, ih hrest, List.reverse_cons,
      List.nil_append]

/-- Items that are read back give their values in order. -/
theorem values?_map {room : Nat} {f : Json → Node} {items : List Json}
    (h : ∀ v ∈ items, (f v).Writes room v) (done : List Json) :
    values? room done (items.map f) = some (done.reverse ++ items) := by
  induction items generalizing done with
  | nil => simp [values?]
  | cons v items ih =>
    obtain ⟨hv, hrest⟩ := List.forall_mem_cons.1 h
    rw [List.map_cons, values?, hv.value]
    simp only [ih hrest, List.reverse_cons, List.append_assoc, List.singleton_append]

/-- Members with distinct names stay where they are. -/
theorem record?_map {room : Nat} {f : String × Json → Node} {members done : Record}
    (h : ∀ x ∈ members, (f x).Writes room x.2) (hnames : (done ++ members).names.Nodup) :
    record? room done (members.map fun x => (some x.1, f x)) = some (done ++ members) := by
  induction members generalizing done with
  | nil => simp [record?]
  | cons x members ih =>
    obtain ⟨hx, hrest⟩ := List.forall_mem_cons.1 h
    have hnew : x.1 ∉ done.names := by
      rw [Entries.names, List.map_append, List.nodup_append] at hnames
      intro hmem
      exact hnames.2.2 x.1 hmem x.1 List.mem_cons_self rfl
    have hput : done.put x.1 x.2 = done ++ [x] := Entries.alter_of_not_mem hnew _
    rw [List.map_cons, record?, hx.value]
    simp only [hput]
    rw [ih hrest (by simpa using hnames), List.append_assoc, List.singleton_append]

theorem writes_arr {room : Nat} {items : List Json} (h : ∀ v ∈ items, ∃ n : Node, n.Writes room v) :
    ∃ n : Node, n.Writes (room + 1) (.arr items) := by
  choose! f hf using h
  refine ⟨.arr (items.map f), ?_, fun o rest => ?_⟩
  · rw [value?, values?_map hf]
    rfl
  · rw [tokens, List.map_cons, List.cons_append, acceptAll, accept, begin?, List.map_append,
      List.append_assoc]
    cases items with
    | nil => rfl
    | cons v items =>
      have hfirst : ∃ (w : Json) (ts : List Token), itemTokens (v :: items) = w.tokens ++ ts := by
        cases items with
        | nil => exact ⟨v, [], (List.append_nil _).symm⟩
        | cons w items => exact ⟨v, .comma :: itemTokens (w :: items), by simp [itemTokens]⟩
      have hvalue := accept_items hf [] o rest
      obtain ⟨w, ts, htokens⟩ := hfirst
      rw [htokens, List.map_append, List.append_assoc] at hvalue ⊢
      exact (acceptAll_firstItem w o _).trans hvalue

theorem writes_obj {room : Nat} {members : Record} (hnames : members.names.Nodup)
    (h : ∀ m ∈ members, ∃ n : Node, n.Writes room m.2) :
    ∃ n : Node, n.Writes (room + 1) (.obj members) := by
  choose! f hf using h
  refine ⟨.obj (members.map fun x => (some x.1, f x)), ?_, fun o rest => ?_⟩
  · have hvalues : record? room [] (members.map fun x => (some x.1, f x)) = some ([] ++ members) :=
      record?_map hf hnames
    rw [value?, hvalues]
    rfl
  · rw [tokens, List.map_cons, List.cons_append, acceptAll, accept, begin?, List.map_append,
      List.append_assoc]
    cases members with
    | nil => rfl
    | cons m members =>
      have hmembers := accept_members hf [] o rest
      cases members <;> exact hmembers

/-- By induction on the value: each has a tree that its tokens are read as. -/
theorem exists_writes {room : Nat} {v : Json} (hv : v.Within room) : ∃ n : Node, n.Writes room v := by
  induction hv with
  | null => exact ⟨.leaf (some .null), rfl, fun _ _ => rfl⟩
  | bool b => exact ⟨.leaf (some (.bool b)), rfl, fun _ _ => rfl⟩
  | @int _ i => exact ⟨.leaf (some (.int i)), rfl, fun _ _ => rfl⟩
  | @real _ x => exact ⟨.leaf (some (.real x)), rfl, fun _ _ => rfl⟩
  | str s => exact ⟨.leaf (some (.str s)), rfl, fun _ _ => rfl⟩
  | arr _ ih => exact writes_arr ih
  | obj hnames _ ih => exact writes_obj hnames ih

end Node

/-! ### Texts -/

/-- The text of a value is read as the value, if each number apart from the integers is found in its
own text. -/
theorem read?_render {v : Json} (hv : v.Within maxDepth)
    (hreals : ∀ x, .real x ∈ v.tokens → (Token.real x).Returns) : read? v.render = some v := by
  have hends : EndsNumber [] := by simp [EndsNumber]
  have hfound := scans_tokens hv hreals [] [] hends
  obtain ⟨n, hvalue, haccept⟩ := Node.exists_writes hv
  have hscan : scan v.render.toList = some (v.tokens.map .token) := by
    rw [render, String.toList_ofList, scan, ← List.append_nil (v.tokens.flatMap _), hfound]
    simp [scanFrom, finish]
  have htree : Node.ofLexemes? (v.tokens.map .token) = some n := by
    have hall := haccept [] []
    rw [List.append_nil] at hall
    rw [Node.ofLexemes?, hall]
    rfl
  exact read?_of_scan hscan htree hvalue

end TableApi.Json
