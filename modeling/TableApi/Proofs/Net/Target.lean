import TableApi.Net.Uri

namespace TableApi.Net

open Uri (isPathChar isQueryChar)

structure IsPath (path : String) : Prop where
  opens : ∃ rest, path.toList = '/' :: rest
  chars : ∀ c ∈ path.toList, isPathChar c = true

theorem isPath_root : IsPath "/" where
  opens := ⟨[], rfl⟩
  chars := by
    have hall : "/".toList.all isPathChar = true := by decide
    exact List.all_eq_true.1 hall

def shownQuery (query : String) : String :=
  String.ofList (query.toList.takeWhile (· != '#'))

def readBehind (path query : String) : Except UriError Uri :=
  if (shownQuery query).toList.all isQueryChar then .ok { path, query := some (shownQuery query) }
  else .error .invalidCharacter

theorem ne_end_of_isPathChar {c : Char} (h : isPathChar c = true) :
    (c != '?' && c != '#') = true := by
  rw [Bool.and_eq_true, bne_iff_ne, bne_iff_ne]
  constructor
  · rintro rfl
    exact absurd h (by decide)
  · rintro rfl
    exact absurd h (by decide)

variable {path query : String}

/-- A query is read in the same way behind every path. -/
theorem readPath_append (hpath : IsPath path) :
    Uri.readPath (path.toList ++ '?' :: query.toList) = readBehind path query := by
  have hends : ∀ c ∈ path.toList, (c != '?' && c != '#') = true := by
    intro c hc
    exact ne_end_of_isPathChar (hpath.chars c hc)
  have htake : (path.toList ++ '?' :: query.toList).takeWhile (fun c => c != '?' && c != '#') =
      path.toList := by
    rw [List.takeWhile_append_of_pos hends]
    simp
  have hdrop : (path.toList ++ '?' :: query.toList).dropWhile (fun c => c != '?' && c != '#') =
      '?' :: query.toList := by
    rw [List.dropWhile_append_of_pos hends]
    simp
  have hchars : path.toList.all isPathChar = true := List.all_eq_true.2 hpath.chars
  have hfilled : path.toList.isEmpty = false := by
    obtain ⟨rest, hrest⟩ := hpath.opens
    rw [hrest]
    rfl
  simp only [Uri.readPath, htake, hdrop, hchars, hfilled, readBehind, shownQuery,
    String.toList_ofList, String.ofList_toList, Bool.not_true, Bool.false_eq_true, if_false]

def target (path query : String) : String := path ++ "?" ++ query

theorem read_target (hpath : IsPath path) :
    Uri.read (target path query) =
      if Uri.maxLength < (target path query).utf8ByteSize then .error .tooLong
      else readBehind path query := by
  obtain ⟨rest, hrest⟩ := hpath.opens
  have hlist : (target path query).toList = path.toList ++ '?' :: query.toList := by
    simp [target]
  rw [← readPath_append hpath, Uri.read, hlist, hrest]
  rfl

theorem utf8ByteSize_target (path query : String) :
    (target path query).utf8ByteSize = path.utf8ByteSize + 1 + query.utf8ByteSize := by
  rw [target, String.utf8ByteSize_append, String.utf8ByteSize_append]
  rfl

/-- What is read behind a path is read behind a shorter one. -/
theorem read_shorter {path' : String} {u : Uri} (hpath : IsPath path) (hpath' : IsPath path')
    (hlength : path'.utf8ByteSize ≤ path.utf8ByteSize)
    (h : Uri.read (target path query) = .ok u) :
    u.path = path ∧ Uri.read (target path' query) = .ok { u with path := path' } := by
  rw [read_target hpath] at h
  split at h
  · cases h
  · rename_i hfits
    have hfits' : ¬Uri.maxLength < (target path' query).utf8ByteSize := by
      rw [utf8ByteSize_target] at hfits ⊢
      omega
    rw [read_target hpath', if_neg hfits']
    unfold readBehind at h ⊢
    split at h
    · rename_i hquery
      obtain rfl := Except.ok.inj h
      rw [if_pos hquery]
      exact ⟨rfl, rfl⟩
    · cases h

end TableApi.Net
