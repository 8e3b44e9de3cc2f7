import TableApi.Json.Reader
import TableApi.Proofs.Entries
import TableApi.Proofs.Json.Numbers

namespace TableApi.Json

/-- A token whose number, if it is one, is in range: an integer of 64 bits, signed or unsigned, or a
finite number. -/
def Token.InRange : Token → Prop
  | .int i => Text.minSigned64 ≤ i ∧ i ≤ (Text.maxUnsigned64 : Int)
  | .real x => x.IsNumber
  | _ => True

def Lexeme.InRange : Lexeme → Prop
  | .token t => t.InRange
  | _ => True

/-- A place in a text at which no number out of range is owed. -/
def Place.InRange : Place → Prop
  | .word _ token => token.InRange
  | _ => True

variable {place place' : Place} {found found' : List Lexeme} {c : Char}

theorem inRange_of_numberLexeme? {read : List Char} {x : Lexeme}
    (h : numberLexeme? read = some x) : x.InRange := by
  obtain ⟨parts, -, rfl⟩ := Option.map_eq_some_iff.1 h
  split
  · exact Numeral.inRange_of_value? ‹_›
  · exact Numeral.isNumber_of_value? ‹_›
  · trivial

theorem inRange_stringLexeme (read : List Piece) : (stringLexeme read).InRange := by
  unfold stringLexeme
  split <;> trivial

theorem inRange_of_start (h : start c found = some (place', found')) (hfound : ∀ x ∈ found, x.InRange) :
    place'.InRange ∧ ∀ x ∈ found', x.InRange := by
  unfold start at h
  split at h
  case h_15 =>
    split at h
    · obtain ⟨rfl, rfl⟩ := Prod.mk.inj (Option.some.inj h)
      exact ⟨trivial, hfound⟩
    · cases h
  all_goals
    obtain ⟨rfl, rfl⟩ := Prod.mk.inj (Option.some.inj h)
    first
      | exact ⟨trivial, hfound⟩
      | exact ⟨trivial, List.forall_mem_cons.2 ⟨trivial, hfound⟩⟩

/-- One character leaves every number in range. -/
theorem inRange_of_step (h : step c place found = some (place', found')) (hplace : place.InRange)
    (hfound : ∀ x ∈ found, x.InRange) : place'.InRange ∧ ∀ x ∈ found', x.InRange := by
  cases place with
  | between => exact inRange_of_start h hfound
  | word owed token =>
    rcases owed with _ | ⟨x, _ | ⟨y, rest⟩⟩
    · exact inRange_of_start h (List.forall_mem_cons.2 ⟨hplace, hfound⟩)
    · rw [step] at h
      split at h
      · obtain ⟨rfl, rfl⟩ := Prod.mk.inj (Option.some.inj h)
        exact ⟨trivial, List.forall_mem_cons.2 ⟨hplace, hfound⟩⟩
      · cases h
    · rw [step] at h
      split at h
      · obtain ⟨rfl, rfl⟩ := Prod.mk.inj (Option.some.inj h)
        exact ⟨hplace, hfound⟩
      · cases h
      · simp
  | number read =>
    rw [step] at h
    split at h
    · obtain ⟨rfl, rfl⟩ := Prod.mk.inj (Option.some.inj h)
      exact ⟨trivial, hfound⟩
    · split at h
      · rename_i hlexeme
        exact inRange_of_start h (List.forall_mem_cons.2 ⟨inRange_of_numberLexeme? hlexeme, hfound⟩)
      · cases h
  | string read =>
    simp only [step] at h
    split_ifs at h
    · obtain ⟨rfl, rfl⟩ := Prod.mk.inj (Option.some.inj h)
      exact ⟨trivial, List.forall_mem_cons.2 ⟨inRange_stringLexeme read, hfound⟩⟩
    · obtain ⟨rfl, rfl⟩ := Prod.mk.inj (Option.some.inj h)
      exact ⟨trivial, hfound⟩
    · obtain ⟨rfl, rfl⟩ := Prod.mk.inj (Option.some.inj h)
      exact ⟨trivial, hfound⟩
  | escaped read =>
    rw [step] at h
    split at h
    · obtain ⟨rfl, rfl⟩ := Prod.mk.inj (Option.some.inj h)
      exact ⟨trivial, hfound⟩
    · obtain ⟨x, -, hx⟩ := Option.map_eq_some_iff.1 h
      obtain ⟨rfl, rfl⟩ := Prod.mk.inj hx
      exact ⟨trivial, hfound⟩
  | code read owed value =>
    rw [step] at h
    obtain ⟨digit, -, hdigit⟩ := Option.map_eq_some_iff.1 h
    simp only at hdigit
    split at hdigit
    · obtain ⟨rfl, rfl⟩ := Prod.mk.inj hdigit
      exact ⟨trivial, hfound⟩
    · obtain ⟨rfl, rfl⟩ := Prod.mk.inj hdigit
      exact ⟨trivial, hfound⟩

theorem inRange_of_scanFrom {s : List Char} (h : scanFrom place found s = some found')
    (hplace : place.InRange) (hfound : ∀ x ∈ found, x.InRange) : ∀ x ∈ found', x.InRange := by
  induction s generalizing place found with
  | nil =>
    rw [scanFrom] at h
    cases place with
    | between =>
      obtain rfl := Option.some.inj h
      exact hfound
    | number read =>
      obtain ⟨x, hx, rfl⟩ := Option.map_eq_some_iff.1 h
      exact List.forall_mem_cons.2 ⟨inRange_of_numberLexeme? hx, hfound⟩
    | word | string | escaped | code => cases h
  | cons c s ih =>
    rw [scanFrom] at h
    split at h
    · rename_i hstep
      obtain ⟨hplace, hfound⟩ := inRange_of_step hstep hplace hfound
      exact ih h hplace hfound
    · cases h

theorem inRange_of_scan {s : List Char} {lexemes : List Lexeme} (h : scan s = some lexemes) :
    ∀ x ∈ lexemes, x.InRange := by
  obtain ⟨found, hscan, rfl⟩ := Option.map_eq_some_iff.1 h
  have hrange := inRange_of_scanFrom hscan trivial (by simp)
  intro x hx
  exact hrange x (List.mem_reverse.1 hx)

inductive Within : Nat → Json → Prop
  | null {room : Nat} : Within room .null
  | bool {room : Nat} (b : Bool) : Within room (.bool b)
  | int {room : Nat} {i : Int} (hmin : Text.minSigned64 ≤ i)
    (hmax : i ≤ (Text.maxUnsigned64 : Int)) : Within room (.int i)
  | real {room : Nat} {x : Binary64} (h : x.IsNumber) : Within room (.real x)
  | str {room : Nat} (s : String) : Within room (.str s)
  | arr {room : Nat} {items : List Json} (h : ∀ v ∈ items, Within room v) :
    Within (room + 1) (.arr items)
  | obj {room : Nat} {members : Record} (hnames : members.names.Nodup)
    (h : ∀ m ∈ members, Within room m.2) : Within (room + 1) (.obj members)

namespace Node

def IsRead (n : Node) : Prop := ∀ room v, n.value? room = some v → v.Within room

theorem within_of_values? {room : Nat} {done values : List Json} {items : List Node}
    (hitems : ∀ n ∈ items, n.IsRead) (hdone : ∀ v ∈ done, v.Within room)
    (h : values? room done items = some values) : ∀ v ∈ values, v.Within room := by
  induction items generalizing done with
  | nil =>
    obtain rfl := Option.some.inj h
    simpa using hdone
  | cons n rest ih =>
    obtain ⟨hn, hrest⟩ := List.forall_mem_cons.1 hitems
    rw [values?] at h
    split at h
    · rename_i v hv
      exact ih hrest (List.forall_mem_cons.2 ⟨hn _ _ hv, hdone⟩) h
    · cases h

/-- Of a name that is repeated the last value counts. -/
theorem within_of_record? {room : Nat} {done record : Record}
    {members : List (Option String × Node)} (hmembers : ∀ m ∈ members, m.2.IsRead)
    (hnames : done.names.Nodup) (hdone : ∀ m ∈ done, m.2.Within room)
    (h : record? room done members = some record) :
    record.names.Nodup ∧ ∀ m ∈ record, m.2.Within room := by
  induction members generalizing done with
  | nil =>
    obtain rfl : done = record := by simpa [record?] using h
    exact ⟨hnames, hdone⟩
  | cons m rest ih =>
    obtain ⟨_ | k, n⟩ := m
    · simp [record?] at h
    · obtain ⟨hn, hrest⟩ := List.forall_mem_cons.1 hmembers
      rw [record?] at h
      split at h
      · rename_i v hv
        have hwithin := hn _ _ hv
        exact ih hrest (Entries.nodup_names_alter hnames k _)
          (Entries.forall_alter hdone hwithin (fun _ _ => hwithin) k) h
      · cases h

theorem isRead_arr {items : List Node} (h : ∀ n ∈ items, n.IsRead) : (arr items).IsRead := by
  intro room v hv
  cases room with
  | zero => simp [value?] at hv
  | succ room =>
    rw [value?, Option.map_eq_some_iff] at hv
    obtain ⟨values, hvalues, rfl⟩ := hv
    exact .arr (within_of_values? h (by simp) hvalues)

theorem isRead_obj {members : List (Option String × Node)} (h : ∀ m ∈ members, m.2.IsRead) :
    (obj members).IsRead := by
  intro room v hv
  cases room with
  | zero => simp [value?] at hv
  | succ room =>
    rw [value?, Option.map_eq_some_iff] at hv
    obtain ⟨record, hrecord, rfl⟩ := hv
    have hempty : (Entries.names ([] : Record)).Nodup := List.nodup_nil
    obtain ⟨hnames, hmembers⟩ := within_of_record? h hempty (by simp) hrecord
    exact .obj hnames hmembers

theorem isRead_of_ofLexeme? {x : Lexeme} {n : Node} (hx : x.InRange)
    (h : ofLexeme? x = some n) : n.IsRead := by
  intro room v hv
  unfold ofLexeme? at h
  split at h <;> cases h <;> rw [value?] at hv <;> cases hv
  · exact .null
  · exact .bool _
  · exact .int hx.1 hx.2
  · exact .real hx
  · exact .str _

def Frame.IsRead : Frame → Prop
  | .item done => ∀ n ∈ done, n.IsRead
  | .member done _ => ∀ m ∈ done, m.2.IsRead

def Expect.IsRead : Expect → Prop
  | .value o | .firstItem o | .firstName o => ∀ f ∈ o, f.IsRead
  | .nextName done o | .colon done _ o => (∀ m ∈ done, m.2.IsRead) ∧ ∀ f ∈ o, f.IsRead
  | .after n o => n.IsRead ∧ ∀ f ∈ o, f.IsRead

theorem isRead_of_begin? {o : List Frame} {x : Lexeme} {e : Expect} (hx : x.InRange)
    (ho : ∀ f ∈ o, f.IsRead) (h : begin? o x = some e) : e.IsRead := by
  unfold begin? at h
  split at h
  · obtain rfl := Option.some.inj h
    exact ho
  · obtain rfl := Option.some.inj h
    exact ho
  · obtain ⟨n, hn, rfl⟩ := Option.map_eq_some_iff.1 h
    exact ⟨isRead_of_ofLexeme? hx hn, ho⟩

/-- One lexeme leaves every open container with trees that have been read. -/
theorem isRead_of_accept {e e' : Expect} {x : Lexeme} (hx : x.InRange) (he : e.IsRead)
    (h : accept e x = some e') : e'.IsRead := by
  unfold accept at h
  split at h
  · exact isRead_of_begin? hx he h
  · obtain rfl := Option.some.inj h
    exact ⟨isRead_arr (by simp), he⟩
  · exact isRead_of_begin? hx (List.forall_mem_cons.2 ⟨by simp [Frame.IsRead], he⟩) h
  · obtain rfl := Option.some.inj h
    exact ⟨isRead_obj (by simp), he⟩
  · obtain ⟨k, -, rfl⟩ := Option.map_eq_some_iff.1 h
    exact ⟨by simp, he⟩
  · obtain ⟨k, -, rfl⟩ := Option.map_eq_some_iff.1 h
    exact he
  · obtain rfl := Option.some.inj h
    exact List.forall_mem_cons.2 he
  -- a value is done inside an open array, then inside an open object
  · obtain rfl := Option.some.inj h
    obtain ⟨hn, hopen⟩ := he
    obtain ⟨hdone, ho⟩ := List.forall_mem_cons.1 hopen
    have hitems := List.forall_mem_cons.2 ⟨hn, hdone⟩
    exact List.forall_mem_cons.2 ⟨hitems, ho⟩
  · obtain rfl := Option.some.inj h
    obtain ⟨hn, hopen⟩ := he
    obtain ⟨hdone, ho⟩ := List.forall_mem_cons.1 hopen
    have hitems := List.forall_mem_cons.2 ⟨hn, hdone⟩
    exact ⟨isRead_arr fun m hm => hitems m (List.mem_reverse.1 hm), ho⟩
  · rename_i n done k o
    obtain rfl := Option.some.inj h
    obtain ⟨hn, hopen⟩ := he
    obtain ⟨hdone, ho⟩ := List.forall_mem_cons.1 hopen
    have hmembers : ∀ m ∈ (k, n) :: done, m.2.IsRead := List.forall_mem_cons.2 ⟨hn, hdone⟩
    exact ⟨hmembers, ho⟩
  · rename_i n done k o
    obtain rfl := Option.some.inj h
    obtain ⟨hn, hopen⟩ := he
    obtain ⟨hdone, ho⟩ := List.forall_mem_cons.1 hopen
    have hmembers : ∀ m ∈ (k, n) :: done, m.2.IsRead := List.forall_mem_cons.2 ⟨hn, hdone⟩
    exact ⟨isRead_obj fun m hm => hmembers m (List.mem_reverse.1 hm), ho⟩
  · cases h

theorem isRead_of_acceptAll {e e' : Expect} {lexemes : List Lexeme} (hlexemes : ∀ x ∈ lexemes, x.InRange)
    (he : e.IsRead) (h : acceptAll e lexemes = some e') : e'.IsRead := by
  induction lexemes generalizing e with
  | nil =>
    obtain rfl := Option.some.inj h
    exact he
  | cons x rest ih =>
    obtain ⟨hx, hrest⟩ := List.forall_mem_cons.1 hlexemes
    rw [acceptAll] at h
    split at h
    · rename_i haccept
      exact ih hrest (isRead_of_accept hx he haccept) h
    · cases h

/-- A tree that is read from a text has values in range only. -/
theorem isRead_of_read? {s : String} {n : Node} (h : read? s = some n) : n.IsRead := by
  unfold read? at h
  split at h
  · rename_i lexemes hscan
    unfold ofLexemes? at h
    split at h
    · rename_i hall
      obtain rfl := Option.some.inj h
      have hstart : Expect.IsRead (.value []) := by simp [Expect.IsRead]
      exact (isRead_of_acceptAll (inRange_of_scan hscan) hstart hall).1
    · cases h
  · cases h

end Node

/-- A text is read by its lexemes. -/
theorem read?_of_scan {s : String} {lexemes : List Lexeme} {n : Node} {v : Json}
    (hscan : scan s.toList = some lexemes) (hn : Node.ofLexemes? lexemes = some n)
    (hv : n.value? maxDepth = some v) : read? s = some v := by
  rw [read?, Node.read?, hscan]
  dsimp only
  rw [hn, Option.bind_some, hv]

/-- A value that is read consists of such values. -/
theorem within_of_read? {s : String} {v : Json} (h : read? s = some v) : v.Within maxDepth := by
  obtain ⟨n, hn, hvalue⟩ := Option.bind_eq_some_iff.1 h
  exact Node.isRead_of_read? hn _ _ hvalue

theorem Within.of_mem {room : Nat} {record : Record} (h : Within (room + 1) (.obj record))
    {x : String × Json} (hx : x ∈ record) : x.2.Within room := by
  cases h with
  | obj hnames hmembers => exact hmembers x hx

theorem Within.mono {room room' : Nat} {v : Json} (h : v.Within room) (hle : room ≤ room') :
    v.Within room' := by
  induction h generalizing room' with
  | null => exact .null
  | bool b => exact .bool b
  | int hmin hmax => exact .int hmin hmax
  | real h => exact .real h
  | str s => exact .str s
  | arr _ ih =>
    obtain ⟨less, rfl⟩ := Nat.exists_eq_add_one_of_ne_zero (Nat.ne_zero_of_lt hle)
    exact .arr fun v hv => ih v hv (Nat.le_of_succ_le_succ hle)
  | obj hnames _ ih =>
    obtain ⟨less, rfl⟩ := Nat.exists_eq_add_one_of_ne_zero (Nat.ne_zero_of_lt hle)
    exact .obj hnames fun m hm => ih m hm (Nat.le_of_succ_le_succ hle)

/-- An object that is read has each name once. -/
theorem nodup_names_of_read? {s : String} {record : Record}
    (h : read? s = some (.obj record)) : record.names.Nodup := by
  generalize hv : Json.obj record = v at h
  cases within_of_read? h with
  | obj hnames => exact Json.obj.inj hv ▸ hnames
  | null | bool | int | real | str | arr => cases hv

/-- A value in which every number apart from the integers is finite. -/
inductive Fits : Json → Prop
  | null : Fits .null
  | bool (b : Bool) : Fits (.bool b)
  | int (i : Int) : Fits (.int i)
  | real {x : Binary64} (h : x.IsNumber) : Fits (.real x)
  | str (s : String) : Fits (.str s)
  | arr {items : List Json} (h : ∀ v ∈ items, Fits v) : Fits (.arr items)
  | obj {members : List (String × Json)} (h : ∀ m ∈ members, Fits m.2) : Fits (.obj members)

theorem Within.fits {room : Nat} {v : Json} (h : v.Within room) : v.Fits := by
  induction h with
  | null => exact .null
  | bool b => exact .bool b
  | int => exact .int _
  | real h => exact .real h
  | str s => exact .str s
  | arr _ ih => exact .arr ih
  | obj _ _ ih => exact .obj ih

/-- Every number in a value that is read, apart from the integers, is finite. -/
theorem fits_of_get? {s : String} {record : Record} (h : read? s = some (.obj record)) {name : String}
    {v : Json} (hv : record.get? name = some v) : v.Fits :=
  ((within_of_read? h).of_mem (Entries.mem_of_get? hv)).fits

end TableApi.Json
