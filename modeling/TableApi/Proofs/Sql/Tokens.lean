import Mathlib.Tactic.FinCases
import TableApi.Proofs.Text.Cuts
import TableApi.Sql.Identifier
import TableApi.Store.Schema

/-!
The tokens of query texts. A quoted name is read back as the name, whatever characters it has, and
no text after it but a quote can become part of it.
-/

namespace TableApi.Sql

open Store.Schema (Token next? readQuoted tokensUpTo isWordChar)

def lexed (s : List Char) : List Token := tokensUpTo s.length s

theorem tokens_eq_lexed (s : String) : Store.Schema.tokens s = lexed s.toList := by
  rw [Store.Schema.tokens, lexed, String.length_toList]

theorem readQuoted_length_le (close : Char) (s : List Char) :
    (readQuoted close s).2.length ≤ s.length := by
  fun_induction readQuoted close s <;> simp_all <;> omega

theorem dropComment_length_le (s : List Char) :
    (Store.Schema.dropComment s).length ≤ s.length := by
  fun_induction Store.Schema.dropComment s <;> simp_all <;> omega

theorem dropWhile_length_le (p : Char → Bool) (s : List Char) :
    (s.dropWhile p).length ≤ s.length := (List.dropWhile_sublist p).length_le

/-- Every token takes at least one character. -/
theorem length_lt_of_next? {s rest : List Char} {token : Option Token}
    (h : next? s = some (token, rest)) : rest.length < s.length := by
  unfold next? at h
  split at h
  · simp at h
  · have := dropWhile_length_le (· != '\n') ‹List Char›
    simp only [Option.some.injEq, Prod.mk.injEq] at h
    simp only [← h.2, List.length_cons]
    omega
  · have := dropComment_length_le ‹List Char›
    simp only [Option.some.injEq, Prod.mk.injEq] at h
    simp only [← h.2, List.length_cons]
    omega
  · -- whatever the first character begins, the rest is what stands behind it
    rename_i c tail _ _
    have hquoted {close : Char} {name after : List Char}
        (hread : readQuoted close tail = (name, after)) : after.length ≤ tail.length := by
      have := readQuoted_length_le close tail
      rwa [hread] at this
    have hword := dropWhile_length_le isWordChar tail
    have hname := dropWhile_length_le (· != ']') tail
    have hnumber := dropWhile_length_le (fun d => isWordChar d || d = '.') tail
    repeat' split at h
    all_goals
      simp only [Option.some.injEq, Prod.mk.injEq] at h
      simp only [← h.2, List.length_cons, List.length_drop]
      first
        | omega
        | exact Nat.lt_succ_of_le (hquoted (by assumption))

/-- Steps that are not needed change nothing. -/
theorem tokensUpTo_eq_lexed {steps : Nat} {s : List Char} (h : s.length ≤ steps) :
    tokensUpTo steps s = lexed s := by
  -- on the length of the text: both counts of steps leave enough for what the first token leaves
  induction hn : s.length using Nat.strong_induction_on generalizing steps s with
  | _ n ih =>
    unfold lexed
    cases steps with
    | zero =>
      obtain rfl : s = [] := List.eq_nil_of_length_eq_zero (by omega)
      rfl
    | succ steps =>
      cases s with
      | nil => rfl
      | cons c tail =>
        rw [tokensUpTo, List.length_cons, tokensUpTo]
        cases hnext : next? (c :: tail) with
        | none => rfl
        | some x =>
          obtain ⟨token, rest⟩ := x
          have hlt := length_lt_of_next? hnext
          simp only [List.length_cons] at hlt hn h
          dsimp only
          have hleft : tokensUpTo steps rest = lexed rest :=
            ih rest.length (by omega) (by omega) rfl
          have hright : tokensUpTo tail.length rest = lexed rest :=
            ih rest.length (by omega) (by omega) rfl
          rw [hleft, hright]

/-- Tokens are taken off the front of a text one by one. -/
theorem lexed_of_next? {s rest : List Char} {token : Option Token}
    (h : next? s = some (token, rest)) : lexed s = token.toList ++ lexed rest := by
  have hlt := length_lt_of_next? h
  cases hs : s.length with
  | zero => omega
  | succ n =>
    rw [lexed, hs, tokensUpTo, h]
    dsimp only
    rw [tokensUpTo_eq_lexed (by omega)]

@[simp] theorem lexed_nil : lexed [] = [] := rfl

@[simp] theorem lexed_blank (rest : List Char) : lexed (' ' :: rest) = lexed rest := by
  have hnext : next? (' ' :: rest) = some (none, rest) := rfl
  exact lexed_of_next? hnext

def isSymbol (c : Char) : Bool := ['?', '(', ')', ',', '=', '!', '<', '>'].contains c

theorem lexed_symbol {c : Char} (h : isSymbol c) (rest : List Char) :
    lexed (c :: rest) = .symbol c :: lexed rest := by
  have hc : c ∈ ['?', '(', ')', ',', '=', '!', '<', '>'] := List.contains_iff_mem.1 h
  have hnext : next? (c :: rest) = some (some (.symbol c), rest) := by
    fin_cases hc <;> rfl
  exact lexed_of_next? hnext

/-- Whether a text does not continue a word or a number that stands before it. -/
def BreaksWord (rest : List Char) : Prop := ∀ c ∈ rest.head?, isWordChar c = false ∧ c ≠ '.'

theorem breaksWord_nil : BreaksWord [] := by simp [BreaksWord]

theorem breaksWord_blank (rest : List Char) : BreaksWord (' ' :: rest) := by
  simp only [BreaksWord, List.head?_cons, Option.mem_some_iff, forall_eq']
  decide

theorem breaksWord_close (rest : List Char) : BreaksWord (')' :: rest) := by
  simp only [BreaksWord, List.head?_cons, Option.mem_some_iff, forall_eq']
  decide

theorem lexed_word {c : Char} (word : List Char) {rest : List Char}
    (hc : ∀ s, next? (c :: s) =
      some (some (.word (String.ofList (c :: s.takeWhile isWordChar))), s.dropWhile isWordChar))
    (hword : word.all isWordChar) (hrest : BreaksWord rest) :
    lexed (c :: (word ++ rest)) = .word (String.ofList (c :: word)) :: lexed rest := by
  obtain ⟨htake, hdrop⟩ :=
    Text.takeWhile_dropWhile_append (List.all_eq_true.1 hword) fun c hc => (hrest c hc).1
  have h := lexed_of_next? (hc (word ++ rest))
  rw [htake, hdrop] at h
  exact h

theorem lexed_digit {c : Char} {rest : List Char} (hc : c = '0' ∨ c = '1')
    (hrest : BreaksWord rest) :
    lexed (c :: rest) = .number (String.ofList [c]) :: lexed rest := by
  let isPart (d : Char) : Bool := isWordChar d || d = '.'
  have hstop : ∀ d ∈ rest.head?, isPart d = false := fun d hd => by simpa [isPart] using hrest d hd
  obtain ⟨htake, hdrop⟩ := @Text.takeWhile_dropWhile_append isPart [] rest (by simp) hstop
  have hnext : next? (c :: rest) = some (some (.number (String.ofList (c :: rest.takeWhile isPart))),
      rest.dropWhile isPart) := by
    rcases hc with rfl | rfl <;> rfl
  have h := lexed_of_next? hnext
  rw [List.nil_append] at htake hdrop
  rw [htake, hdrop] at h
  exact h

/-- Quotes that are written twice are read back up to the quote that stands alone. -/
theorem readQuoted_doubled (name rest : List Char) (hrest : rest.head? ≠ some '"') :
    readQuoted '"' (doubled name ++ '"' :: rest) = (name, rest) := by
  induction name with
  | nil =>
    cases rest with
    | nil => simp [doubled, readQuoted]
    | cons c rest =>
      -- the quote that closes the name is not the first of two
      have hc : c ≠ '"' := by simpa using hrest
      simp [doubled, readQuoted, hc]
  | cons c name ih =>
    by_cases hc : c = '"'
    · simp [doubled, readQuoted, hc, ih]
    · rw [doubled, if_neg hc, List.cons_append]
      unfold readQuoted
      simp only [hc, ↓reduceIte, ih]

/-- A quoted name is one token, whatever follows it but another quote. -/
theorem lexed_quote (name : String) (rest : List Char) (hrest : rest.head? ≠ some '"') :
    lexed ((quote name).toList ++ rest) = .name name :: lexed rest := by
  have hnext : next? ('"' :: (doubled name.toList ++ '"' :: rest)) =
      some (some (.name name), rest) := by
    have hread := readQuoted_doubled name.toList rest hrest
    have hstep (s : List Char) : next? ('"' :: s) =
        some (some (.name (String.ofList (readQuoted '"' s).1)), (readQuoted '"' s).2) := rfl
    rw [hstep, hread, String.ofList_toList]
  have h := lexed_of_next? hnext
  simpa [quote] using h

/-! ### Lists -/

section

variable {α : Type}

def separated (written : α → List Token) : List α → List Token
  | [] => []
  | [a] => written a
  | a :: b :: rest => written a ++ .symbol ',' :: separated written (b :: rest)

theorem separated_map {β : Type} (f : α → β) (written : β → List Token) (items : List α) :
    separated written (items.map f) = separated (fun a => written (f a)) items := by
  fun_induction separated (fun a => written (f a)) items with
  | case1 => rfl
  | case2 a => rfl
  | case3 a b items ih => exact congrArg (written (f a) ++ .symbol ',' :: ·) ih

/-- Texts with commas between are read one by one, if each of them is read where a comma or the rest
stands behind it. -/
theorem lexed_join {text : α → String} {written : α → List Token} {Ends : List Char → Prop}
    (hcomma : ∀ rest, Ends (',' :: rest))
    (hwritten : ∀ a rest, Ends rest → lexed ((text a).toList ++ rest) = written a ++ lexed rest)
    (items : List α) {rest : List Char} (hrest : Ends rest) :
    lexed ((Text.join ", " (items.map text)).toList ++ rest) =
      separated written items ++ lexed rest := by
  unfold Text.join
  fun_induction separated written items with
  | case1 => simp
  | case2 a => simpa using hwritten a rest hrest
  | case3 a b items ih =>
    have hstep (s : List Char) : lexed ((text a).toList ++ (", ".toList ++ s)) =
        written a ++ .symbol ',' :: lexed s := by
      have hsymbol : lexed (',' :: ' ' :: s) = .symbol ',' :: lexed s := by
        rw [lexed_symbol (by decide), lexed_blank]
      exact (hwritten a _ (hcomma (' ' :: s))).trans (congrArg (written a ++ ·) hsymbol)
    simp only [List.map_cons] at ih ⊢
    rw [String.intercalate_cons_cons, String.toList_append, String.toList_append, List.append_assoc,
      List.append_assoc, hstep, ih]
    simp

/-- Question marks with commas between, one for each element. -/
theorem lexed_marks (items : List α) (rest : List Char) :
    lexed ((placeholders items.length).toList ++ rest) =
      separated (fun _ => [.symbol '?']) items ++ lexed rest := by
  have hmark (_ : α) (rest : List Char) (_ : True) :
      lexed ("?".toList ++ rest) = [.symbol '?'] ++ lexed rest := lexed_symbol (by decide) rest
  rw [placeholders, ← List.map_const']
  exact lexed_join (fun _ => trivial) hmark items trivial

end

end TableApi.Sql
