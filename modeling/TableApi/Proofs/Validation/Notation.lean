import TableApi.Proofs.Number.Grammar
import TableApi.Proofs.Steps
import TableApi.Validation.RuleSet

/-!
The notation of rules. A text spells a rule if, without the blanks at its ends, it is the name of
the rule, with an argument behind a colon where the rule looks at one; any other text is refused. The
rules of a field are such texts in an array, or between bars in one text, where blank ones do not
count. The first text that is refused decides the error.
-/

namespace TableApi.Validation

namespace Rule

def names : List String :=
  ["required", "sometimes", "nullable", "string", "integer", "numeric", "boolean", "email", "url",
    "date", "min", "max", "in"]

/-- A text with what stands before its first colon and, if there is a colon, behind it. -/
inductive Parts : String → String → Option String → Prop
  | bare {name : String} (hname : ':' ∉ name.toList) : Parts name name none
  | argued {name : String} (argument : String) (hname : ':' ∉ name.toList) :
    Parts (name ++ ":" ++ argument) name (some argument)

/-- Whether a rule is what its name makes of an argument. Bounds are numbers, options stand between
commas, and the other rules do not look at an argument. -/
def Takes : Rule → Option String → Prop
  | min bound, argument | max bound, argument =>
    ∃ text ∈ argument, Binary64.read? (Text.trim text).toList = some bound
  | oneOf options, argument =>
    ∃ parts : List String, parts ≠ [] ∧ argument = some (Text.join "," parts) ∧
      (∀ part ∈ parts, ',' ∉ part.toList) ∧ options = parts.map Text.trim
  | _, _ => True

def Spelled (s : String) (rule : Rule) : Prop :=
  ∃ argument, Parts (Text.trim s) rule.name argument ∧ rule.Takes argument

inductive Refused (s : String) : RuleError → Prop
  | unknown {name : String} {argument : Option String}
    (hparts : Parts (Text.trim s) name argument) (hname : name ∉ names) :
    Refused s (.unknown name)
  | missing {name : String} (hparts : Parts (Text.trim s) name none)
    (hname : name ∈ ["min", "max", "in"]) : Refused s (.missingArgument name)
  | invalid {name argument : String} (hparts : Parts (Text.trim s) name (some argument))
    (hname : name ∈ ["min", "max"]) (hnumber : ¬Binary64.IsText (Text.trim argument).toList) :
    Refused s (.invalidArgument name argument)

variable {s name : String} {argument : Option String} {rule : Rule} {e : RuleError}

/-! ### Names and arguments -/

theorem exists_parts (s : String) : ∃ name argument, Parts s name argument := by
  by_cases hcolon : ':' ∈ s.toList
  · obtain ⟨name, argument, hs, hname⟩ := List.eq_append_cons_of_mem hcolon
    have htext : s = String.ofList name ++ ":" ++ String.ofList argument := by
      rw [← String.toList_inj, hs]
      simp [String.toList_append]
    rw [htext]
    exact ⟨_, _, .argued _ (by rwa [String.toList_ofList])⟩
  · exact ⟨s, none, .bare hcolon⟩

theorem splitArgument_of_parts (h : Parts s name argument) :
    splitArgument s.toList = (name.toList, argument.map String.toList) := by
  cases h with
  | bare hname =>
    rw [splitArgument, Text.cutAt?_eq_none hname]
    rfl
  | argued argument hname =>
    have htext : (name ++ ":" ++ argument).toList = name.toList ++ ':' :: argument.toList := by
      rw [String.toList_append, String.toList_append, List.append_assoc]
      rfl
    rw [splitArgument, htext, Text.cutAt?_append hname]
    rfl

theorem splitArgument_of_trim (h : Parts (Text.trim s) name argument) :
    splitArgument (Text.trimChars s.toList) = (name.toList, argument.map String.toList) := by
  have hsplit := splitArgument_of_parts h
  rwa [Text.trim, String.toList_ofList] at hsplit

theorem toList_trim (s : String) : (Text.trim s).toList = Text.trimChars s.toList :=
  String.toList_ofList

/-! ### Texts that spell rules -/

theorem readOptions_join {name : String} {parts : List String} (hne : parts ≠ [])
    (hparts : ∀ part ∈ parts, ',' ∉ part.toList) :
    readOptions name (some (Text.join "," parts).toList) = .ok (parts.map Text.trim) := by
  have hcomma : ",".toList = [','] := rfl
  have hcut := (Text.splitOn_eq_iff hcomma).2 ⟨hne, rfl, hparts⟩
  have htrim : parts.map Text.trim = ((Text.join "," parts).toList.splitOn ',').map fun option =>
      String.ofList (Text.trimChars option) := by
    nth_rewrite 1 [← hcut]
    simp [Text.trim]
  rw [readOptions, htrim]

/-- A text that spells a rule is read as that rule. -/
theorem read_of_spelled (h : Spelled s rule) : read s = .ok rule := by
  obtain ⟨argument, hparts, htakes⟩ := h
  have hsplit := splitArgument_of_trim hparts
  cases rule with
  | min bound =>
    obtain ⟨text, rfl, hbound⟩ := htakes
    rw [toList_trim] at hbound
    simp only [read, hsplit, String.ofList_toList, Option.map_some, readBound, hbound, name]
    rfl
  | max bound =>
    obtain ⟨text, rfl, hbound⟩ := htakes
    rw [toList_trim] at hbound
    simp only [read, hsplit, String.ofList_toList, Option.map_some, readBound, hbound, name]
    rfl
  | oneOf options =>
    obtain ⟨parts, hne, rfl, hcommas, rfl⟩ := htakes
    simp only [read, hsplit, String.ofList_toList, Option.map_some, readOptions_join hne hcommas,
      name]
    rfl
  | _ => simp only [read, hsplit, String.ofList_toList, name]

/-! ### Texts that are refused -/

theorem read_of_refused (h : Refused s e) : read s = .error e := by
  cases h with
  | @unknown name argument hparts hname =>
    have hsplit := splitArgument_of_trim hparts
    simp only [read, hsplit, String.ofList_toList]
    split
    case h_14 => rfl
    all_goals exact absurd (by decide) hname
  | missing hparts hname =>
    have hsplit := splitArgument_of_trim hparts
    simp only [List.mem_cons, List.not_mem_nil, or_false] at hname
    rcases hname with rfl | rfl | rfl <;>
    · simp only [read, hsplit, String.ofList_toList]
      rfl
  | @invalid name argument hparts hname hnumber =>
    have hsplit := splitArgument_of_trim hparts
    have hnone : Binary64.read? (Text.trimChars argument.toList) = none := by
      rw [← toList_trim, ← Option.not_isSome_iff_eq_none, Binary64.isSome_read?_iff]
      exact hnumber
    simp only [List.mem_cons, List.not_mem_nil, or_false] at hname
    rcases hname with rfl | rfl <;>
    · simp only [read, hsplit, String.ofList_toList, Option.map_some, readBound, hnone]
      rfl

/-- A name with a number behind it spells a bound; without one it is refused. -/
theorem spelled_or_refused_of_bound (hparts : Parts (Text.trim s) name argument)
    {bounded : Binary64 → Rule} (hname : name ∈ ["min", "max"])
    (hbounded : ∀ x, (bounded x).name = name)
    (htakes : ∀ x, (bounded x).Takes argument ↔
      ∃ text ∈ argument, Binary64.read? (Text.trim text).toList = some x) :
    (∃ rule, Spelled s rule) ∨ ∃ e, Refused s e := by
  cases argument with
  | none => exact .inr ⟨_, .missing hparts (List.mem_append_left ["in"] hname)⟩
  | some argument =>
    by_cases hnumber : Binary64.IsText (Text.trim argument).toList
    · obtain ⟨x, hx⟩ := Option.isSome_iff_exists.1 (Binary64.isSome_read?_iff.2 hnumber)
      refine .inl ⟨bounded x, some argument, ?_, (htakes x).2 ⟨argument, rfl, hx⟩⟩
      rwa [hbounded x]
    · exact .inr ⟨_, .invalid hparts hname hnumber⟩

def plain : List Rule :=
  [required, sometimes, nullable, string, integer, numeric, boolean, email, url, date]

theorem names_eq : names = plain.map Rule.name ++ ["min", "max", "in"] := rfl

theorem takes_of_plain (h : rule ∈ plain) (argument : Option String) : rule.Takes argument := by
  simp only [plain, List.mem_cons, List.not_mem_nil, or_false] at h
  rcases h with rfl | rfl | rfl | rfl | rfl | rfl | rfl | rfl | rfl | rfl <;> trivial

/-- There is no third kind of text. -/
theorem spelled_or_refused (s : String) : (∃ rule, Spelled s rule) ∨ ∃ e, Refused s e := by
  -- the name decides whether the argument is looked at, and as what
  obtain ⟨name, argument, hparts⟩ := exists_parts (Text.trim s)
  by_cases hname : name ∈ names
  · rw [names_eq, List.mem_append] at hname
    rcases hname with hname | hname
    · obtain ⟨rule, hrule, rfl⟩ := List.mem_map.1 hname
      exact .inl ⟨rule, argument, hparts, takes_of_plain hrule argument⟩
    simp only [List.mem_cons, List.not_mem_nil, or_false] at hname
    rcases hname with rfl | rfl | rfl
    · exact spelled_or_refused_of_bound hparts (by decide) (fun x => (rfl : (min x).name = _))
        fun x => Iff.rfl
    · exact spelled_or_refused_of_bound hparts (by decide) (fun x => (rfl : (max x).name = _))
        fun x => Iff.rfl
    · cases argument with
      | none => exact .inr ⟨_, .missing hparts (by decide)⟩
      | some options =>
        have hcomma : ",".toList = [','] := rfl
        have hcut : (options.toList.splitOn ',').map String.ofList = _ := rfl
        obtain ⟨hne, hjoin, hcommas⟩ := (Text.splitOn_eq_iff hcomma).1 hcut
        exact .inl ⟨.oneOf _, some options, hparts, _, hne, congrArg some hjoin, hcommas, rfl⟩
  · exact .inr ⟨_, .unknown hparts hname⟩

theorem read_eq_ok_iff : read s = .ok rule ↔ Spelled s rule := by
  -- what is read is neither refused nor spells another rule
  refine ⟨fun h => ?_, read_of_spelled⟩
  obtain ⟨rule', hspelled⟩ | ⟨e, hrefused⟩ := spelled_or_refused s
  · obtain rfl : rule' = rule := Except.ok.inj ((read_of_spelled hspelled).symm.trans h)
    exact hspelled
  · rw [read_of_refused hrefused] at h
    cases h

theorem read_eq_error_iff : read s = .error e ↔ Refused s e := by
  refine ⟨fun h => ?_, read_of_refused⟩
  obtain ⟨rule, hspelled⟩ | ⟨e', hrefused⟩ := spelled_or_refused s
  · rw [read_of_spelled hspelled] at h
    cases h
  · obtain rfl : e' = e := Except.error.inj ((read_of_refused hrefused).symm.trans h)
    exact hrefused

theorem Parts.unique {name' : String} {argument' : Option String} (h : Parts s name argument)
    (h' : Parts s name' argument') : name' = name ∧ argument' = argument := by
  have hsplit := (splitArgument_of_parts h').symm.trans (splitArgument_of_parts h)
  obtain ⟨hname, hargument⟩ := Prod.mk.inj hsplit
  have hinj : Function.Injective String.toList := fun a b => String.toList_inj.1
  exact ⟨hinj hname, Option.map_injective hinj hargument⟩

theorem name_mem_names (rule : Rule) : rule.name ∈ names := by
  cases rule <;> simp [Rule.name, names]

/-- What a text has to be to spell a rule. -/
theorem exists_spelled_iff : (∃ rule, Spelled s rule) ↔
    ∃ name argument, Parts (Text.trim s) name argument ∧ name ∈ names ∧
      (name ∈ ["min", "max"] →
        ∃ text, argument = some text ∧ Binary64.IsText (Text.trim text).toList) ∧
      (name = "in" → ∃ text, argument = some text) := by
  constructor
  · rintro ⟨rule, argument, hparts, htakes⟩
    refine ⟨rule.name, argument, hparts, name_mem_names rule, ?_, ?_⟩
    · intro hname
      cases rule with
      | min bound | max bound =>
        obtain ⟨text, hargument, hbound⟩ := htakes
        refine ⟨text, hargument, Binary64.isSome_read?_iff.1 ?_⟩
        rw [hbound]
        rfl
      | _ => simp [Rule.name] at hname
    · intro hname
      cases rule with
      | oneOf options =>
        obtain ⟨parts, -, hargument, -⟩ := htakes
        exact ⟨_, hargument⟩
      | _ => simp [Rule.name] at hname
  · rintro ⟨name, argument, hparts, hname, hnumber, hoptions⟩
    obtain hspelled | ⟨e, hrefused⟩ := spelled_or_refused s
    · exact hspelled
    -- each way to be refused is one that the conditions leave out
    cases hrefused with
    | unknown hparts' hname' =>
      obtain ⟨rfl, -⟩ := hparts.unique hparts'
      exact absurd hname hname'
    | @missing name' hparts' hname' =>
      obtain ⟨rfl, rfl⟩ := hparts.unique hparts'
      obtain ⟨text, hnone⟩ : ∃ text, (none : Option String) = some text := by
        by_cases hin : name' = "in"
        · exact hoptions hin
        · obtain ⟨text, htext, -⟩ := hnumber (by simpa [hin] using hname')
          exact ⟨text, htext⟩
      cases hnone
    | invalid hparts' hname' hnumber' =>
      obtain ⟨rfl, rfl⟩ := hparts.unique hparts'
      obtain ⟨text, htext, hread⟩ := hnumber hname'
      obtain rfl := Option.some.inj htext
      exact absurd hread hnumber'

end Rule

namespace RuleSet

def listed (texts : Entries (List String)) : Record :=
  texts.map fun (field, rules) => (field, Json.strings rules)

def joined (texts : Entries (List String)) : Record :=
  texts.map fun (field, rules) => (field, .str (Text.join "|" rules))

def withoutBlanks (texts : Entries (List String)) : Entries (List String) :=
  texts.map fun (field, rules) => (field, rules.filter (!Text.allBlank ·))

/-- What comes of the texts of fields: all fields in their order, each with the rules that its texts
spell, or what is wrong with the first text that is refused in the first field that has one. -/
inductive Outcome (texts : Entries (List String)) : Except RuleError RuleSet → Prop
  | accepted {rules : RuleSet}
    (h : List.Forall₂ (fun field entry =>
      entry.1 = field.1 ∧ List.Forall₂ Rule.Spelled field.2 entry.2) texts rules) :
    Outcome texts (.ok rules)
  | refused {before after : Entries (List String)} {field : String} {early late : List String}
    {bad : String} {e : RuleError}
    (htexts : texts = before ++ (field, early ++ bad :: late) :: after)
    (hbefore : ∀ x ∈ before, ∀ s ∈ x.2, ∃ rule, Rule.Spelled s rule)
    (hearly : ∀ s ∈ early, ∃ rule, Rule.Spelled s rule) (hbad : Rule.Refused bad e) :
    Outcome texts (.error e)

/-! ### One field -/

theorem pieces_strings (field : String) (texts : List String) :
    pieces field (Json.strings texts) = .ok texts := by
  rw [Json.strings, pieces, List.mapM_map]
  induction texts with
  | nil => rfl
  | cons s texts ih =>
    rw [List.mapM_cons, ih]
    rfl

/-- The pieces between bars are the texts that were joined, apart from the blank ones. -/
theorem barPieces_join {texts : List String} (h : ∀ s ∈ texts, '|' ∉ s.toList) :
    barPieces (Text.join "|" texts) = texts.filter (!Text.allBlank ·) := by
  by_cases hnil : texts = []
  · -- nothing joined is the empty text, whose one piece is blank
    subst hnil
    rfl
  · have hbar : "|".toList = ['|'] := rfl
    rw [barPieces, (Text.splitOn_eq_iff hbar).2 ⟨hnil, rfl, h⟩]

theorem readField_join (field : String) {texts : List String} (h : ∀ s ∈ texts, '|' ∉ s.toList) :
    readField field (.str (Text.join "|" texts)) =
      readField field (Json.strings (texts.filter (!Text.allBlank ·))) := by
  rw [readField, readField, pieces_strings, pieces, barPieces_join h]

/-! ### All fields -/

theorem read_listed (texts : Entries (List String)) :
    read (listed texts) =
      texts.mapM fun x => (x.2.mapM Rule.read).map fun rules => (x.1, rules) := by
  rw [read, listed, List.mapM_map]
  congr 1
  funext x
  simp only [Function.comp_apply, readField, pieces_strings]
  rfl

/-- The rules of fields are read in order, up to the first text that is refused. -/
theorem outcome_read_listed (texts : Entries (List String)) :
    Outcome texts (read (listed texts)) := by
  rw [read_listed]
  cases hread : texts.mapM fun x => (x.2.mapM Rule.read).map fun rules => (x.1, rules) with
  | ok rules =>
    refine .accepted ((forall₂_of_mapM hread).imp ?_)
    intro field entry hentry
    obtain ⟨rules, hrules, rfl⟩ := eq_ok_of_map hentry
    exact ⟨rfl, (forall₂_of_mapM hrules).imp fun s rule h => Rule.read_eq_ok_iff.1 h⟩
  | error e =>
    -- the first field that fails does so at its first text that fails
    obtain ⟨before, x, after, rfl, hbefore, hx⟩ := mapM_eq_error_iff.1 hread
    obtain ⟨early, bad, late, htexts, hearly, hbad⟩ := mapM_eq_error_iff.1 (map_eq_error_iff.1 hx)
    have hspelled {s : String} (h : ∃ rule, Rule.read s = .ok rule) : ∃ rule, Rule.Spelled s rule :=
      h.imp fun rule => Rule.read_eq_ok_iff.1
    have hcut : before ++ x :: after = before ++ (x.1, early ++ bad :: late) :: after := by
      rw [← htexts]
    refine .refused hcut ?_ (fun s hs => hspelled (hearly s hs)) (Rule.read_eq_error_iff.1 hbad)
    intro y hy s hs
    obtain ⟨entry, hentry⟩ := hbefore y hy
    obtain ⟨rules, hrules, -⟩ := eq_ok_of_map hentry
    exact hspelled (exists_of_mapM hrules hs)

/-- Bars join texts as an array does, as long as no text has one. -/
theorem read_joined {texts : Entries (List String)}
    (h : ∀ x ∈ texts, ∀ s ∈ x.2, '|' ∉ s.toList) :
    read (joined texts) = read (listed (withoutBlanks texts)) := by
  induction texts with
  | nil => rfl
  | cons x texts ih =>
    obtain ⟨hx, htexts⟩ := List.forall_mem_cons.1 h
    have hrest := ih htexts
    simp only [read, joined, listed, withoutBlanks, List.map_cons, List.mapM_cons] at hrest ⊢
    rw [readField_join x.1 hx, hrest]

/-- Texts between bars are read as those in an array, blank ones left out: both give all fields with
their rules in order, or the error of the first text that is refused. A text is accepted just when,
trimmed, it has one of the names before its first colon, and behind it a number for a bound and any
text for options. -/
theorem notations_agree :
    (∀ texts : Entries (List String), (∀ x ∈ texts, ∀ s ∈ x.2, '|' ∉ s.toList) →
      read (joined texts) = read (listed (withoutBlanks texts)) ∧
        Outcome (withoutBlanks texts) (read (joined texts))) ∧
    ∀ s : String, (∃ rule, Rule.read s = .ok rule) ↔
      ∃ name argument, Rule.Parts (Text.trim s) name argument ∧ name ∈ Rule.names ∧
        (name ∈ ["min", "max"] →
          ∃ text, argument = some text ∧ Binary64.IsText (Text.trim text).toList) ∧
        (name = "in" → ∃ text, argument = some text) := by
  constructor
  · intro texts h
    have hread := read_joined h
    rw [hread]
    exact ⟨rfl, outcome_read_listed (withoutBlanks texts)⟩
  · intro s
    rw [← Rule.exists_spelled_iff]
    simp only [Rule.read_eq_ok_iff]

/-- A blank text among the rules of one field, and two that are refused among those of the next. -/
def articleTexts : Entries (List String) :=
  [("title", ["required", " ", "max: 5"]), ("tags", ["in:a, b", "min", "unique"])]

theorem notations_agree_on_article :
    (∀ x ∈ articleTexts, ∀ s ∈ x.2, '|' ∉ s.toList) ∧
    joined articleTexts =
      [("title", .str "required| |max: 5"), ("tags", .str "in:a, b|min|unique")] ∧
    read (joined articleTexts) = .error (.missingArgument "min") ∧
    read (listed (withoutBlanks articleTexts)) = .error (.missingArgument "min") := by
  have hbars : ∀ x ∈ articleTexts, ∀ s ∈ x.2, '|' ∉ s.toList := by decide
  have herror : read (joined articleTexts) = .error (.missingArgument "min") := by decide +kernel
  obtain ⟨hagree, -⟩ := notations_agree.1 articleTexts hbars
  exact ⟨hbars, rfl, herror, hagree ▸ herror⟩

end RuleSet

end TableApi.Validation
