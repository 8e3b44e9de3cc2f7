import TableApi.Proofs.Sql.Tokens
import TableApi.Store.Basic

/-!
The texts of statements that write. Names between quotes, with commas between, are read back one by
one whatever characters they have; so an insertion and a change read back as they were built, with
every value at the question mark of its column.
-/

namespace TableApi.Sql

open Store (Answer RecordStore StoreError TableRef boundValues)
open Store.Schema (Token tokens)

/-! ### Reading statements -/

/-- What is left of the tokens of a text and of the values that are bound to it. -/
abbrev Input := List Token × List Value

def readName? : Input → Option (String × Input)
  | (.name n :: rest, values) => some (n, rest, values)
  | _ => none

def readMark? : Input → Option (Value × Input)
  | (.symbol '?' :: rest, v :: values) => some (v, rest, values)
  | _ => none

def readAssignment? : Input → Option ((String × Value) × Input)
  | (.name n :: .symbol '=' :: rest, values) =>
    (readMark? (rest, values)).map fun x => ((n, x.1), x.2)
  | _ => none

/-- Reads elements with commas between, as long as a comma follows. Each step reads one of them. -/
def readListUpTo? {α : Type} (readOne? : Input → Option (α × Input)) :
    Nat → Input → Option (List α × Input)
  | 0, _ => none
  | steps + 1, input =>
    match readOne? input with
    | some (a, .symbol ',' :: rest, values) =>
      (readListUpTo? readOne? steps (rest, values)).map fun x => (a :: x.1, x.2)
    | some (a, rest) => some ([a], rest)
    | none => none

def readList? {α : Type} (readOne? : Input → Option (α × Input)) (input : Input) :
    Option (List α × Input) := readListUpTo? readOne? input.1.length input

/-- Reads an insertion or a change with the values that are bound to it. All values have to be taken,
and an insertion needs one for each column. -/
def readWrite? : Input → Option Statement
  | (.word "INSERT" :: .word "INTO" :: .name table :: .symbol '(' :: rest, values) =>
    match readList? readName? (rest, values) with
    | some (names, .symbol ')' :: .word "VALUES" :: .symbol '(' :: rest, values) =>
      match readList? readMark? (rest, values) with
      | some (bound, [.symbol ')', .word "RETURNING", .symbol '*'], []) =>
        if names.length = bound.length then some (.insert table (names.zip bound)) else none
      | _ => none
    | _ => none
  | (.word "UPDATE" :: .name table :: .word "SET" :: rest, values) =>
    match readList? readAssignment? (rest, values) with
    | some (entries, [.word "WHERE", .name key, .symbol '=', .symbol '?', .word "RETURNING",
        .symbol '*'], [.text value]) => some (.update table entries key value)
    | _ => none
  | _ => none

/-! ### Reading lists -/

section

variable {α : Type} {readOne? : Input → Option (α × Input)} {written : α → List Token}
  {bound : α → List Value} {items : List α} {rest : List Token}

/-- A list is read up to its end when what follows does not begin with a comma. -/
theorem readListUpTo?_separated (hwritten : ∀ a, written a ≠ [])
    (hone : ∀ a rest more, readOne? (written a ++ rest, bound a ++ more) = some (a, rest, more))
    (hne : items ≠ []) {steps : Nat} (hsteps : (separated written items).length ≤ steps)
    (hrest : rest.head? ≠ some (.symbol ',')) (more : List Value) :
    readListUpTo? readOne? steps (separated written items ++ rest, items.flatMap bound ++ more) =
      some (items, rest, more) := by
  -- on the elements: the first one and its comma take tokens, so there are steps left for the others
  fun_induction separated written items generalizing steps with
  | case1 => exact absurd rfl hne
  | case2 a =>
    have hpos : 0 < (written a).length := List.length_pos_iff.2 (hwritten a)
    obtain ⟨steps, rfl⟩ : ∃ n, steps = n + 1 := ⟨steps - 1, by omega⟩
    rw [readListUpTo?, List.flatMap_singleton, hone]
    -- what stands behind the last element is no comma
    split <;> simp_all
  | case3 a b items ih =>
    rw [List.length_append, List.length_cons] at hsteps
    obtain ⟨steps, rfl⟩ : ∃ n, steps = n + 1 := ⟨steps - 1, by omega⟩
    rw [readListUpTo?, List.flatMap_cons, List.append_assoc, List.append_assoc, hone,
      List.cons_append]
    simp only [ih (List.cons_ne_nil _ _) (show _ ≤ steps by omega), Option.map_some]

/-- Elements with commas between are read back, and each of them takes its values. -/
theorem readList?_separated (hwritten : ∀ a, written a ≠ [])
    (hone : ∀ a rest more, readOne? (written a ++ rest, bound a ++ more) = some (a, rest, more))
    (hne : items ≠ []) (hrest : rest.head? ≠ some (.symbol ',')) (more : List Value) :
    readList? readOne? (separated written items ++ rest, items.flatMap bound ++ more) =
      some (items, rest, more) :=
  readListUpTo?_separated hwritten hone hne (List.length_append ▸ Nat.le_add_right _ _) hrest more

end

def assignmentTokens (x : String × Value) : List Token := [.name x.1, .symbol '=', .symbol '?']

section

variable {rest : List Token} (hrest : rest.head? ≠ some (.symbol ','))

include hrest

theorem readList?_names {names : List String} (hne : names ≠ []) (values : List Value) :
    readList? readName? (separated (fun n => [Token.name n]) names ++ rest, values) =
      some (names, rest, values) := by
  have hone (n : String) (rest : List Token) (more : List Value) :
      readName? ([.name n] ++ rest, [] ++ more) = some (n, rest, more) := rfl
  -- names take no values
  have hnone : names.flatMap (fun _ => ([] : List Value)) = [] :=
    List.flatMap_eq_nil_iff.2 fun _ _ => rfl
  have hread := readList?_separated (fun _ => List.cons_ne_nil _ _) hone hne hrest values
  rwa [hnone, List.nil_append] at hread

theorem readList?_marks {values : List Value} (hne : values ≠ []) (more : List Value) :
    readList? readMark? (separated (fun _ => [Token.symbol '?']) values ++ rest, values ++ more) =
      some (values, rest, more) := by
  have hone (v : Value) (rest : List Token) (more : List Value) :
      readMark? ([.symbol '?'] ++ rest, [v] ++ more) = some (v, rest, more) := rfl
  have hread := readList?_separated (fun _ => List.cons_ne_nil _ _) hone hne hrest more
  rwa [List.flatMap_singleton'] at hread

theorem readList?_assignments {entries : Entries Value} (hne : entries ≠ []) (more : List Value) :
    readList? readAssignment?
        (separated assignmentTokens entries ++ rest, entries.map Prod.snd ++ more) =
      some (entries, rest, more) := by
  have hone (x : String × Value) (rest : List Token) (more : List Value) :
      readAssignment? (assignmentTokens x ++ rest, [x.2] ++ more) = some (x, rest, more) := rfl
  have hread := readList?_separated (fun _ => List.cons_ne_nil _ _) hone hne hrest more
  rwa [← List.map_eq_flatMap] at hread

end

/-! ### The tokens of statements -/

/-- Names between quotes, with commas between, are read back whatever follows them but a quote. -/
theorem lexed_names (names : List String) {rest : List Char} (hrest : rest.head? ≠ some '"') :
    lexed ((Text.join ", " (names.map quote)).toList ++ rest) =
      separated (fun n => [.name n]) names ++ lexed rest :=
  lexed_join (fun _ => by simp) lexed_quote names hrest

theorem separated_singletons {α : Type} (f : α → Token) (items : List α) :
    separated (fun a => [f a]) items = (items.map f).intersperse (.symbol ',') := by
  fun_induction separated (fun a => [f a]) items with
  | case1 => rfl
  | case2 a => rfl
  | case3 a b items ih => exact congrArg (f a :: .symbol ',' :: ·) ih

/-- A name between quotes before a blank. -/
theorem lexed_quoteBlank (name : String) (rest : List Char) :
    lexed ((quote name).toList ++ ' ' :: rest) = .name name :: lexed rest := by
  rw [lexed_quote name _ (by simp), lexed_blank]

theorem lexed_assignment (name : String) (rest : List Char) :
    lexed ((quote name).toList ++ (" = ?".toList ++ rest)) =
      .name name :: .symbol '=' :: .symbol '?' :: lexed rest := by
  have hmark : lexed ('=' :: ' ' :: '?' :: rest) = .symbol '=' :: .symbol '?' :: lexed rest := by
    rw [lexed_symbol (by decide), lexed_blank, lexed_symbol (by decide)]
  exact (lexed_quoteBlank name _).trans (congrArg _ hmark)

theorem lexed_assignments (entries : Entries Value) (rest : List Char) :
    lexed ((Statement.assignmentList entries).toList ++ rest) =
      separated assignmentTokens entries ++ lexed rest := by
  have hone (name : String) (rest : List Char) (_ : True) :
      lexed ((quote name ++ " = ?").toList ++ rest) =
        [.name name, .symbol '=', .symbol '?'] ++ lexed rest := by
    rw [String.toList_append, List.append_assoc, lexed_assignment]
    rfl
  have hjoin : lexed ((Statement.assignmentList entries).toList ++ rest) = _ :=
    lexed_join (fun _ => trivial) hone entries.names trivial
  rwa [Entries.names, separated_map] at hjoin

/-- A word before a blank. -/
theorem lexed_wordBlank {c : Char} (word : List Char)
    (hc : ∀ s, Store.Schema.next? (c :: s) =
      some (some (.word (String.ofList (c :: s.takeWhile Store.Schema.isWordChar))),
        s.dropWhile Store.Schema.isWordChar))
    (hword : word.all Store.Schema.isWordChar) (rest : List Char) :
    lexed (c :: (word ++ ' ' :: rest)) = .word (String.ofList (c :: word)) :: lexed rest := by
  rw [lexed_word word hc hword (breaksWord_blank rest), lexed_blank]

section

variable (s : List Char)

theorem lexed_insert :
    lexed ("INSERT INTO ".toList ++ s) = .word "INSERT" :: .word "INTO" :: lexed s := by
  have hinto : lexed ("INTO".toList ++ ' ' :: s) = .word "INTO" :: lexed s :=
    lexed_wordBlank ['N', 'T', 'O'] (fun _ => rfl) (by decide) s
  have hinsert : lexed ("INSERT".toList ++ ' ' :: ("INTO".toList ++ ' ' :: s)) =
      .word "INSERT" :: lexed ("INTO".toList ++ ' ' :: s) :=
    lexed_wordBlank ['N', 'S', 'E', 'R', 'T'] (fun _ => rfl) (by decide) _
  rw [hinto] at hinsert
  exact hinsert

theorem lexed_values : lexed (") VALUES (".toList ++ s) =
    .symbol ')' :: .word "VALUES" :: .symbol '(' :: lexed s := by
  have hvalues : lexed ("VALUES".toList ++ ' ' :: '(' :: s) = .word "VALUES" :: lexed ('(' :: s) :=
    lexed_wordBlank ['A', 'L', 'U', 'E', 'S'] (fun _ => rfl) (by decide) _
  rw [lexed_symbol (by decide)] at hvalues
  exact (lexed_symbol (by decide) _).trans (congrArg _ ((lexed_blank _).trans hvalues))

end

theorem lexed_returning : lexed " RETURNING *".toList = [.word "RETURNING", .symbol '*'] := by
  have hstar : lexed ['*'] = [.symbol '*'] := rfl
  have hreturning : lexed ("RETURNING".toList ++ ' ' :: ['*']) = .word "RETURNING" :: lexed ['*'] :=
    lexed_wordBlank ['E', 'T', 'U', 'R', 'N', 'I', 'N', 'G'] (fun _ => rfl) (by decide) _
  rw [hstar] at hreturning
  exact (lexed_blank _).trans hreturning

/-- The tokens of an insertion, whatever characters its names have. -/
theorem tokens_insert (table : String) {entries : Entries Value} (hne : entries ≠ []) :
    tokens (Statement.insert table entries).text =
      .word "INSERT" :: .word "INTO" :: .name table :: .symbol '(' ::
        (separated (fun n => [.name n]) entries.names ++
          .symbol ')' :: .word "VALUES" :: .symbol '(' ::
            (separated (fun _ => [.symbol '?']) (entries.map Prod.snd) ++
              [.symbol ')', .word "RETURNING", .symbol '*'])) := by
  have htable (s : List Char) : lexed ((quote table).toList ++ (" (".toList ++ s)) =
      .name table :: .symbol '(' :: lexed s :=
    (lexed_quoteBlank table _).trans (congrArg _ (lexed_symbol (by decide) s))
  have hcolumns (s : List Char) :
      lexed ((Statement.columnList entries).toList ++ (") VALUES (".toList ++ s)) =
        separated (fun n => [.name n]) entries.names ++
          .symbol ')' :: .word "VALUES" :: .symbol '(' :: lexed s := by
    rw [Statement.columnList, lexed_names _ (by simp), lexed_values]
  have hend : lexed ") RETURNING *".toList = [.symbol ')', .word "RETURNING", .symbol '*'] :=
    (lexed_symbol (by decide) _).trans (congrArg _ lexed_returning)
  have htext : (Statement.insert table entries).text =
      "INSERT INTO " ++ quote table ++ " (" ++ Statement.columnList entries ++ ") VALUES (" ++
        placeholders (entries.map Prod.snd).length ++ ") RETURNING *" := by
    obtain ⟨x, entries, rfl⟩ := List.exists_cons_of_ne_nil hne
    rw [List.length_map]
    rfl
  rw [tokens_eq_lexed, htext]
  simp only [String.toList_append, List.append_assoc]
  rw [lexed_insert, htable, hcolumns, lexed_marks, hend]

theorem tokens_update (table : String) (entries : Entries Value) (key value : String) :
    tokens (Statement.update table entries key value).text =
      .word "UPDATE" :: .name table :: .word "SET" ::
        (separated assignmentTokens entries ++
          [.word "WHERE", .name key, .symbol '=', .symbol '?', .word "RETURNING",
            .symbol '*']) := by
  have hupdate (s : List Char) : lexed ("UPDATE ".toList ++ s) = .word "UPDATE" :: lexed s :=
    lexed_wordBlank ['P', 'D', 'A', 'T', 'E'] (fun _ => rfl) (by decide) s
  have hset (s : List Char) : lexed ((quote table).toList ++ (" SET ".toList ++ s)) =
      .name table :: .word "SET" :: lexed s :=
    (lexed_quoteBlank table _).trans
      (congrArg _ (lexed_wordBlank ['E', 'T'] (fun _ => rfl) (by decide) s))
  have hwhere (s : List Char) : lexed (" WHERE ".toList ++ s) = .word "WHERE" :: lexed s :=
    (lexed_blank _).trans (lexed_wordBlank ['H', 'E', 'R', 'E'] (fun _ => rfl) (by decide) s)
  have htext : (Statement.update table entries key value).text =
      "UPDATE " ++ quote table ++ " SET " ++ Statement.assignmentList entries ++
        (" WHERE " ++ quote key ++ " = ?") ++ " RETURNING *" := rfl
  rw [tokens_eq_lexed, htext]
  simp only [String.toList_append, List.append_assoc]
  rw [hupdate, hset, lexed_assignments, hwhere, lexed_assignment, lexed_returning]

/-! ### Statements that write -/

/-- An insertion reads back with every value at the column that it was given for. -/
theorem readWrite?_insert (table : String) {entries : Entries Value} (hne : entries ≠ []) :
    readWrite? (tokens (Statement.insert table entries).text,
      (Statement.insert table entries).values) = some (.insert table entries) := by
  have hnames : entries.names ≠ [] := by simpa [Entries.names] using hne
  have hvalues : entries.map Prod.snd ≠ [] := by simpa using hne
  have hzip : entries.names.zip (entries.map Prod.snd) = entries :=
    (List.zip_of_prod rfl rfl).symm
  -- both lists end before a bracket, the second with all values taken
  have hend : [Token.symbol ')', .word "RETURNING", .symbol '*'].head? ≠ some (.symbol ',') := by
    decide
  have hmarks := readList?_marks hend hvalues []
  rw [List.append_nil] at hmarks
  rw [tokens_insert table hne, Statement.values, readWrite?, readList?_names (by simp) hnames]
  simp only [hmarks]
  rw [Entries.names, List.length_map, List.length_map, if_pos rfl, ← Entries.names, hzip]

theorem readWrite?_update (table : String) {entries : Entries Value} (hne : entries ≠ [])
    (key value : String) :
    readWrite? (tokens (Statement.update table entries key value).text,
      (Statement.update table entries key value).values) =
        some (.update table entries key value) := by
  rw [tokens_update, Statement.values, readWrite?, readList?_assignments (by simp) hne]
  rfl

/-! ### Question marks -/

theorem count_separated {α : Type} {written : α → List Token} {marks : Nat}
    (h : ∀ a, (written a).count (.symbol '?') = marks) (items : List α) :
    (separated written items).count (.symbol '?') = items.length * marks := by
  fun_induction separated written items with
  | case1 => simp
  | case2 a => simp [h]
  | case3 a b items ih =>
    have hcomma (tokens : List Token) :
        (Token.symbol ',' :: tokens).count (.symbol '?') = tokens.count (.symbol '?') :=
      List.count_cons_of_ne (by decide)
    rw [List.count_append, hcomma, h, ih, Nat.add_comm, ← Nat.succ_mul]
    rfl

theorem count_insert (table : String) {entries : Entries Value} (hne : entries ≠ []) :
    (tokens (Statement.insert table entries).text).count (.symbol '?') = entries.length := by
  have hnames := count_separated (fun n => (rfl : [Token.name n].count (.symbol '?') = 0))
    entries.names
  have hmarks := count_separated (fun _ => (rfl : [Token.symbol '?'].count (.symbol '?') = 1))
    (entries.map Prod.snd)
  rw [tokens_insert table hne]
  simp [hnames, hmarks]

theorem count_update (table : String) (entries : Entries Value) (key value : String) :
    (tokens (Statement.update table entries key value).text).count (.symbol '?') =
      entries.length + 1 := by
  have hassignments := count_separated
    (fun x => (rfl : (assignmentTokens x).count (.symbol '?') = 1)) entries
  rw [tokens_update]
  simp [hassignments]

/-! ### Records -/

/-- The statements that an operation of the store sends, when they are answered so. -/
def sent {α : Type} (answer : Statement → Except StoreError Answer)
    (operation : RecordStore (StateM (List Statement)) → StateM (List Statement) α) :
    List Statement :=
  ((operation (.sending fun s before => (answer s, before ++ [s]))).run []).2

/-- Names between quotes, with commas between, are read back whatever follows them but a quote. So a
record is stored by one statement with its keys for columns, whatever they are: it reads back as an
insertion or a change that gives each key its value, in the order of the record, and has a question
mark for each of them and, in a change, one for the key of the row. -/
theorem record_writes_read_back :
    (∀ (names : List String) (rest : List Char), rest.head? ≠ some '"' →
      lexed ((Text.join ", " (names.map quote)).toList ++ rest) =
        (names.map Token.name).intersperse (.symbol ',') ++ lexed rest) ∧
    ∀ (t : TableRef) (record : Record) (answer : Statement → Except StoreError Answer),
      record ≠ [] →
      (∃ s, sent answer (fun store => store.insert t record) = [s] ∧
        (tokens s.text).count (.symbol '?') = record.length ∧
        readWrite? (tokens s.text, s.values) =
          some (.insert t.name (record.map fun x => (x.1, Value.ofJson x.2)))) ∧
      ∀ key, ∃ s, sent answer (fun store => store.update t key record) = [s] ∧
        (tokens s.text).count (.symbol '?') = record.length + 1 ∧
        readWrite? (tokens s.text, s.values) =
          some (.update t.name (record.map fun x => (x.1, Value.ofJson x.2)) t.primaryKey key) := by
  constructor
  · intro names rest hrest
    rw [lexed_names names hrest, separated_singletons]
  · intro t record answer hne
    have hvalues : boundValues record ≠ [] := by simpa [boundValues] using hne
    have hlength : (boundValues record).length = record.length := List.length_map _
    have hfilled : record.isEmpty = false := List.isEmpty_eq_false_iff.2 hne
    constructor
    · refine ⟨.insert t.name (boundValues record), rfl, ?_, readWrite?_insert t.name hvalues⟩
      rw [count_insert t.name hvalues, hlength]
    · intro key
      refine ⟨.update t.name (boundValues record) t.primaryKey key, ?_, ?_,
        readWrite?_update t.name hvalues t.primaryKey key⟩
      · simp only [sent, RecordStore.sending, hfilled]
        rfl
      · rw [count_update, hlength]

def quotedRecord : Record := [("a\", \"b", .int 1), ("", .str "?"), ("x) VALUES (?", .null)]

theorem quoted_record_reads_back :
    lexed ((Text.join ", " (quotedRecord.names.map quote)).toList ++ [')', '"']) =
      [.name "a\", \"b", .symbol ',', .name "", .symbol ',', .name "x) VALUES (?", .symbol ')',
        .name ""] ∧
    quotedRecord ≠ [] ∧
    (Statement.insert "posts" (boundValues quotedRecord)).text =
      "INSERT INTO \"posts\" (\"a\"\", \"\"b\", \"\", \"x) VALUES (?\")" ++
        " VALUES (?, ?, ?) RETURNING *" ∧
    readWrite? (tokens (Statement.insert "posts" (boundValues quotedRecord)).text,
        [.integer 1, .text "?", .null]) =
      some (.insert "posts"
        [("a\", \"b", .integer 1), ("", .text "?"), ("x) VALUES (?", .null)]) := by
  have hne : quotedRecord ≠ [] := List.cons_ne_nil _ _
  obtain ⟨hnames, hrecord⟩ := record_writes_read_back
  obtain ⟨⟨s, hs, -, hread⟩, -⟩ :=
    hrecord ⟨"posts", "id"⟩ quotedRecord (fun _ => .ok (.changed 0)) hne
  obtain rfl : Statement.insert "posts" (boundValues quotedRecord) = s := (List.cons.inj hs).1
  exact ⟨hnames quotedRecord.names [')', '"'] (by decide), hne, by decide +kernel, hread⟩

end TableApi.Sql
