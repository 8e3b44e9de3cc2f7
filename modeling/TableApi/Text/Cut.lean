namespace TableApi.Text

def cutAt? (c : Char) (s : List Char) : Option (List Char × List Char) :=
  match s.dropWhile (· != c) with
  | [] => none
  | _ :: rest => some (s.takeWhile (· != c), rest)

def cutAtLast? (c : Char) (s : List Char) : Option (List Char × List Char) :=
  (cutAt? c s.reverse).map fun (after, before) => (before.reverse, after.reverse)

def dropOpening? (opening s : List Char) : Option (List Char) :=
  if opening.isPrefixOf s then some (s.drop opening.length) else none

def dropEnding? (ending s : List Char) : Option (List Char) :=
  if ending.isSuffixOf s then some (s.take (s.length - ending.length)) else none

theorem dropOpening?_append (a s : List Char) : dropOpening? a (a ++ s) = some s := by
  simp [dropOpening?]

theorem dropEnding?_append (s a : List Char) : dropEnding? a (s ++ a) = some s := by
  simp [dropEnding?]

theorem append_of_dropEnding? {a s r : List Char} (h : dropEnding? a s = some r) :
    s = r ++ a := by
  unfold dropEnding? at h
  split at h
  · rename_i hs
    obtain ⟨t, rfl⟩ := List.isSuffixOf_iff_suffix.1 hs
    simp_all
  · simp at h

def anyTail (p : List Char → Bool) : List Char → Bool
  | [] => p []
  | c :: rest => p (c :: rest) || anyTail p rest

def join (separator : String) (texts : List String) : String := separator.intercalate texts

end TableApi.Text
