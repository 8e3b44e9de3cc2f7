import TableApi.Proofs.Sql.Expression
import TableApi.Proofs.Sql.Tokens

/-!
The items of conditions: the tokens of their texts, with the values that are bound at the question
marks. A value never stands anywhere else, and no other question mark is a token.
-/

namespace TableApi.Sql

open TableApi.Filter (Comparator Conjunction)
open Store.Schema (Token)

def Item.written : Item → Token
  | .token t => t
  | .value _ => .symbol '?'

def Item.value? : Item → Option String
  | .token _ => none
  | .value v => some v

def comparatorTokens : Comparator → List Token
  | .eq => [.symbol '=']
  | .ne => [.symbol '!', .symbol '=']
  | .lt => [.symbol '<']
  | .le => [.symbol '<', .symbol '=']
  | .gt => [.symbol '>']
  | .ge => [.symbol '>', .symbol '=']
  | .like => [.word "LIKE"]
  | .notLike => [.word "NOT", .word "LIKE"]

def conjunctionToken : Conjunction → Token
  | .and => .word "AND"
  | .or => .word "OR"

def memberTokens (negated : Bool) : List Token :=
  if negated then [.word "NOT", .word "IN"] else [.word "IN"]

def valueItems : List String → List Item
  | [] => []
  | [v] => [.value v]
  | v :: w :: rest => .value v :: .token (.symbol ',') :: valueItems (w :: rest)

mutual

def Condition.items : Condition → List Item
  | .compare field op value =>
    .token (.name field) :: (comparatorTokens op).map .token ++ [.value value]
  | .isNull field => [.token (.name field), .token (.word "IS"), .token (.word "NULL")]
  | .member _ negated [] =>
    [.token (.number "1"), .token (.symbol '='), .token (.number (if negated then "1" else "0"))]
  | .member field negated values =>
    .token (.name field) :: (memberTokens negated).map .token ++
      .token (.symbol '(') :: (valueItems values ++ [.token (.symbol ')')])
  | .group conditions =>
    .token (.symbol '(') :: (conditionsItems conditions ++ [.token (.symbol ')')])

def conditionsItems : Conditions → List Item
  | [] => []
  | (_, first) :: rest => first.items ++ joinedItems rest

def joinedItems : Conditions → List Item
  | [] => []
  | (conjunction, condition) :: rest =>
    .token (conjunctionToken conjunction) :: (condition.items ++ joinedItems rest)

end

/-! ### The tokens of the text -/

theorem lexed_comparator (op : Comparator) (rest : List Char) (hrest : BreaksWord rest) :
    lexed (op.text.toList ++ rest) = comparatorTokens op ++ lexed rest := by
  have hlike : lexed ("LIKE".toList ++ rest) = .word "LIKE" :: lexed rest :=
    lexed_word ['I', 'K', 'E'] (fun _ => rfl) (by decide) hrest
  have hequal : lexed ('=' :: rest) = .symbol '=' :: lexed rest := lexed_symbol (by decide) rest
  cases op with
  | eq => exact hequal
  | ne => exact (lexed_symbol (by decide) _).trans (congrArg _ hequal)
  | lt => exact lexed_symbol (by decide) rest
  | le => exact (lexed_symbol (by decide) _).trans (congrArg _ hequal)
  | gt => exact lexed_symbol (by decide) rest
  | ge => exact (lexed_symbol (by decide) _).trans (congrArg _ hequal)
  | like => exact hlike
  | notLike =>
    have hnot : lexed ("NOT".toList ++ ' ' :: ("LIKE".toList ++ rest)) =
        .word "NOT" :: lexed (' ' :: ("LIKE".toList ++ rest)) :=
      lexed_word ['O', 'T'] (fun _ => rfl) (by decide) (breaksWord_blank _)
    rw [lexed_blank, hlike] at hnot
    exact hnot

theorem lexed_conjunction (conjunction : Conjunction) (rest : List Char)
    (hrest : BreaksWord rest) :
    lexed (conjunction.text.toList ++ rest) = conjunctionToken conjunction :: lexed rest := by
  cases conjunction with
  | and => exact lexed_word ['N', 'D'] (fun _ => rfl) (by decide) hrest
  | or => exact lexed_word ['R'] (fun _ => rfl) (by decide) hrest

theorem map_written_valueItems (values : List String) :
    (valueItems values).map Item.written = separated (fun _ => [.symbol '?']) values := by
  fun_induction valueItems values with
  | case1 => rfl
  | case2 v => rfl
  | case3 v w values ih => exact congrArg (.symbol '?' :: .symbol ',' :: ·) ih

/-- Question marks with commas between, as many as there are values. -/
theorem lexed_placeholders (values : List String) (rest : List Char) :
    lexed ((placeholders values.length).toList ++ rest) =
      (valueItems values).map Item.written ++ lexed rest := by
  rw [lexed_marks, map_written_valueItems]

theorem lexed_isNull (rest : List Char) (hrest : BreaksWord rest) :
    lexed (" IS NULL".toList ++ rest) = .word "IS" :: .word "NULL" :: lexed rest := by
  have hnull : lexed ("NULL".toList ++ rest) = .word "NULL" :: lexed rest :=
    lexed_word ['U', 'L', 'L'] (fun _ => rfl) (by decide) hrest
  have his : lexed ("IS".toList ++ ' ' :: ("NULL".toList ++ rest)) =
      .word "IS" :: lexed (' ' :: ("NULL".toList ++ rest)) :=
    lexed_word ['S'] (fun _ => rfl) (by decide) (breaksWord_blank _)
  rw [lexed_blank, hnull] at his
  exact (lexed_blank _).trans his

theorem lexed_member (negated : Bool) (rest : List Char) :
    lexed ((if negated then " NOT IN (" else " IN (").toList ++ rest) =
      memberTokens negated ++ .symbol '(' :: lexed rest := by
  have hopen : lexed (' ' :: '(' :: rest) = .symbol '(' :: lexed rest := by
    rw [lexed_blank, lexed_symbol (by decide)]
  have hin : lexed ("IN".toList ++ ' ' :: '(' :: rest) = .word "IN" :: .symbol '(' :: lexed rest :=
    (lexed_word ['N'] (fun _ => rfl) (by decide) (breaksWord_blank _)).trans (congrArg _ hopen)
  cases negated with
  | false => exact (lexed_blank _).trans hin
  | true =>
    have hnot : lexed ("NOT".toList ++ ' ' :: ("IN".toList ++ ' ' :: '(' :: rest)) =
        .word "NOT" :: lexed (' ' :: ("IN".toList ++ ' ' :: '(' :: rest)) :=
      lexed_word ['O', 'T'] (fun _ => rfl) (by decide) (breaksWord_blank _)
    rw [lexed_blank, hin] at hnot
    exact (lexed_blank _).trans hnot

theorem lexed_constant (truth : Bool) (rest : List Char) (hrest : BreaksWord rest) :
    lexed ((if truth then "1 = 1" else "1 = 0").toList ++ rest) =
      [.number "1", .symbol '=', .number (if truth then "1" else "0")] ++ lexed rest := by
  have hsides (d : Char) (hd : d = '0' ∨ d = '1') : lexed ('1' :: ' ' :: '=' :: ' ' :: d :: rest) =
      .number "1" :: .symbol '=' :: .number (String.ofList [d]) :: lexed rest := by
    rw [lexed_digit (.inr rfl) (breaksWord_blank _), lexed_blank, lexed_symbol (by decide),
      lexed_blank, lexed_digit hd hrest]
  cases truth with
  | false => exact hsides '0' (.inl rfl)
  | true => exact hsides '1' (.inr rfl)

theorem breaksWord_joinedText (conditions : Conditions) (rest : List Char)
    (hrest : BreaksWord rest) : BreaksWord ((joinedText conditions).toList ++ rest) := by
  cases conditions with
  | nil => simpa [joinedText] using hrest
  | cons x conditions =>
    simp only [joinedText, String.toList_append, List.append_assoc]
    exact breaksWord_blank _

mutual

/-- The tokens of the text of a condition are its items, with a question mark for each value. -/
theorem lexed_condition (c : Condition) (rest : List Char) (hrest : BreaksWord rest) :
    lexed (c.text.toList ++ rest) = c.items.map Item.written ++ lexed rest := by
  -- every name and every word is followed by a blank, a bracket or the rest
  match c with
  | .compare field op value =>
    have hop := lexed_comparator op (' ' :: '?' :: rest) (breaksWord_blank _)
    rw [lexed_blank, lexed_symbol (by decide)] at hop
    simp only [Condition.text, String.toList_append, List.append_assoc]
    rw [lexed_quote field _ (by simp)]
    calc Token.name field :: lexed (' ' :: (op.text.toList ++ ' ' :: '?' :: rest))
        = .name field :: (comparatorTokens op ++ .symbol '?' :: lexed rest) := by
          rw [lexed_blank, hop]
      _ = _ := by simp [Condition.items, Item.written, Function.comp_def]
  | .isNull field =>
    simp only [Condition.text, String.toList_append, List.append_assoc]
    rw [lexed_quote field _ (by simp), lexed_isNull rest hrest]
    rfl
  | .member field negated [] =>
    rw [Condition.text, lexed_constant negated rest hrest]
    rfl
  | .member field negated (v :: values) =>
    have hhead : ((if negated then " NOT IN (" else " IN (").toList ++
        ((placeholders (v :: values).length).toList ++ ')' :: rest)).head? ≠ some '"' := by
      cases negated <;> simp
    simp only [Condition.text, String.toList_append, List.append_assoc]
    refine (lexed_quote field _ hhead).trans ?_
    rw [lexed_member, lexed_placeholders, lexed_symbol (by decide)]
    simp [Condition.items, Item.written, Function.comp_def]
  | .group conditions =>
    have hopen (s : List Char) : lexed ("(".toList ++ s) = .symbol '(' :: lexed s :=
      lexed_symbol (by decide) s
    have hclose : lexed (")".toList ++ rest) = .symbol ')' :: lexed rest :=
      lexed_symbol (by decide) rest
    have hbreak : BreaksWord (")".toList ++ rest) := breaksWord_close rest
    simp only [Condition.text, String.toList_append, List.append_assoc]
    rw [hopen, lexed_conditions conditions _ hbreak, hclose]
    simp [Condition.items, Item.written]

/-- The text of conditions has the tokens of their items. -/
theorem lexed_conditions (conditions : Conditions) (rest : List Char) (hrest : BreaksWord rest) :
    lexed ((conditionsText conditions).toList ++ rest) =
      (conditionsItems conditions).map Item.written ++ lexed rest := by
  match conditions with
  | [] => rfl
  | (_, first) :: conditions =>
    simp only [conditionsText, String.toList_append, List.append_assoc]
    rw [lexed_condition first _ (breaksWord_joinedText conditions rest hrest),
      lexed_joined conditions rest hrest]
    simp [conditionsItems]

theorem lexed_joined (conditions : Conditions) (rest : List Char) (hrest : BreaksWord rest) :
    lexed ((joinedText conditions).toList ++ rest) =
      (joinedItems conditions).map Item.written ++ lexed rest := by
  match conditions with
  | [] => rfl
  | (conjunction, condition) :: conditions =>
    have hblank (s t : List Char) : lexed (" ".toList ++ (s ++ (" ".toList ++ t))) =
        lexed (s ++ ' ' :: t) := lexed_blank _
    simp only [joinedText, String.toList_append, List.append_assoc]
    rw [hblank, lexed_conjunction conjunction _ (breaksWord_blank _), lexed_blank,
      lexed_condition condition _ (breaksWord_joinedText conditions rest hrest),
      lexed_joined conditions rest hrest]
    simp [joinedItems, Item.written]

end

/-! ### The values of the items -/

mutual

def Condition.values : Condition → List String
  | .compare _ _ value => [value]
  | .isNull _ => []
  | .member _ _ values => values
  | .group conditions => conditionsValues conditions

def conditionsValues : Conditions → List String
  | [] => []
  | (_, condition) :: rest => condition.values ++ conditionsValues rest

end

@[simp] theorem value?_token (t : Token) : (Item.token t).value? = none := rfl

@[simp] theorem filterMap_value?_token (t : Token) (items : List Item) :
    (Item.token t :: items).filterMap Item.value? = items.filterMap Item.value? := rfl

@[simp] theorem filterMap_value?_value (v : String) (items : List Item) :
    (Item.value v :: items).filterMap Item.value? = v :: items.filterMap Item.value? := rfl

@[simp] theorem filterMap_value?_valueItems (values : List String) :
    (valueItems values).filterMap Item.value? = values := by
  fun_induction valueItems values <;> simp_all

mutual

theorem values_eq_filterMap (c : Condition) : c.values = c.items.filterMap Item.value? := by
  match c with
  | .compare field op value =>
    simp [Condition.values, Condition.items]
  | .isNull field => rfl
  | .member field negated [] => rfl
  | .member field negated (v :: values) =>
    simp [Condition.values, Condition.items]
  | .group conditions =>
    simp [Condition.values, Condition.items, conditionsValues_eq_filterMap conditions]

theorem conditionsValues_eq_filterMap (conditions : Conditions) :
    conditionsValues conditions = (conditionsItems conditions).filterMap Item.value? := by
  match conditions with
  | [] => rfl
  | (_, first) :: rest =>
    simp [conditionsValues, conditionsItems, values_eq_filterMap first,
      joinedValues_eq_filterMap rest]

theorem joinedValues_eq_filterMap (conditions : Conditions) :
    conditionsValues conditions = (joinedItems conditions).filterMap Item.value? := by
  match conditions with
  | [] => rfl
  | (_, condition) :: rest =>
    simp [conditionsValues, joinedItems, values_eq_filterMap condition,
      joinedValues_eq_filterMap rest]

end

def Item.IsPlain (i : Item) : Prop := i ≠ .token (.symbol '?')

theorem isPlain_comparator (op : Comparator) :
    ∀ i ∈ (comparatorTokens op).map Item.token, i.IsPlain := by
  cases op <;> simp [comparatorTokens, Item.IsPlain]

theorem isPlain_valueItems (values : List String) : ∀ i ∈ valueItems values, i.IsPlain := by
  fun_induction valueItems values <;> simp_all [Item.IsPlain]

mutual

/-- No question mark of a condition is anything but a placeholder. -/
theorem isPlain_items (c : Condition) : ∀ i ∈ c.items, i.IsPlain := by
  match c with
  | .compare field op value =>
    have hop := isPlain_comparator op
    simp only [Condition.items, List.cons_append, List.forall_mem_cons, List.forall_mem_append]
    exact ⟨by simp [Item.IsPlain], hop, by simp [Item.IsPlain]⟩
  | .isNull field => simp [Condition.items, Item.IsPlain]
  | .member field negated [] => simp [Condition.items, Item.IsPlain]
  | .member field negated (v :: values) =>
    have hvalues := isPlain_valueItems (v :: values)
    simp only [Condition.items, List.cons_append, List.forall_mem_cons, List.forall_mem_append]
    refine ⟨by simp [Item.IsPlain], ?_, by simp [Item.IsPlain], hvalues, by simp [Item.IsPlain]⟩
    cases negated <;> simp [memberTokens, Item.IsPlain]
  | .group conditions =>
    simp only [Condition.items, List.forall_mem_cons, List.forall_mem_append]
    exact ⟨by simp [Item.IsPlain], isPlain_conditionsItems conditions, by simp [Item.IsPlain]⟩

theorem isPlain_conditionsItems (conditions : Conditions) :
    ∀ i ∈ conditionsItems conditions, i.IsPlain := by
  match conditions with
  | [] => simp [conditionsItems]
  | (_, first) :: rest =>
    simp only [conditionsItems, List.forall_mem_append]
    exact ⟨isPlain_items first, isPlain_joinedItems rest⟩

theorem isPlain_joinedItems (conditions : Conditions) :
    ∀ i ∈ joinedItems conditions, i.IsPlain := by
  match conditions with
  | [] => simp [joinedItems]
  | (conjunction, condition) :: rest =>
    simp only [joinedItems, List.forall_mem_cons, List.forall_mem_append]
    refine ⟨?_, isPlain_items condition, isPlain_joinedItems rest⟩
    cases conjunction <;> simp [conjunctionToken, Item.IsPlain]

end

/-- Items are found again from their tokens and their values. -/
theorem bind?_items {items : List Item} (h : ∀ i ∈ items, i.IsPlain) :
    bind? (items.map Item.written) (items.filterMap Item.value?) = some items := by
  induction items with
  | nil => rfl
  | cons i items ih =>
    rw [List.forall_mem_cons] at h
    cases i with
    | value v => simp [Item.written, bind?, ih h.2]
    | token t =>
      have ht : t ≠ .symbol '?' := fun ht => h.1 (ht ▸ rfl)
      simp [Item.written, bind?, ht, ih h.2]

/-- Binding succeeds only with a value for each question mark. -/
theorem count_of_bind? {tokens : List Token} {values : List String} {items : List Item}
    (h : bind? tokens values = some items) : tokens.count (.symbol '?') = values.length := by
  induction tokens generalizing values items with
  | nil => cases values <;> simp_all [bind?]
  | cons t tokens ih =>
    unfold bind? at h
    split at h
    · rename_i ht
      cases values with
      | nil => simp at h
      | cons v values =>
        obtain ⟨_, hrest, -⟩ := Option.map_eq_some_iff.1 h
        simp [ht, ih hrest]
    · rename_i ht
      obtain ⟨_, hrest, -⟩ := Option.map_eq_some_iff.1 h
      simp [ht, ih hrest]

end TableApi.Sql
