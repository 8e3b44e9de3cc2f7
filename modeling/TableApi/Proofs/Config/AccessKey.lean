import TableApi.Command.Line
import TableApi.Config.Resource
import TableApi.Proofs.Api.Guard

/-!
The key of the site. It is to be the one that the highest layer supplies, an empty key supplies
nothing, and only switching the checks off is to leave a supplied key unused. This holds unless the
overrides give an empty key: that hides the key of the file, and every action is open.
-/

namespace TableApi.Config

open Api (Action KeyGuard Request)

/-- A layer supplies a key when it gives one that is not empty. -/
def Supplies (layer : Option String) (key : String) : Prop := layer = some key ∧ key ≠ ""

/-- There is no key where checks are switched off or no layer supplies one, and otherwise it is that
of the highest layer which supplies one. -/
structure KeyLayered (o : Overrides) (d : Document) (key : Option String) : Prop where
  none_iff : key = none ↔
    o.noAuth = true ∨ (∀ k, ¬Supplies o.apiKey k) ∧ ∀ k, ¬Supplies d.auth.apiKey k
  highest : ∀ k, key = some k →
    Supplies o.apiKey k ∨ (∀ k', ¬Supplies o.apiKey k') ∧ Supplies d.auth.apiKey k

/-- Checks are on, and the overrides give an empty key over one that the file supplies. -/
structure Blanked (o : Overrides) (d : Document) : Prop where
  checked : o.noAuth = false
  empty : o.apiKey = some ""
  supplied : ∃ k, Supplies d.auth.apiKey k

/-! ### The resolved key -/

section

variable {o : Overrides} {d : Document}

theorem resolvedKey_eq_some_iff {k : String} :
    resolvedKey o d = some k ↔ o.noAuth = false ∧ k ≠ "" ∧
      (o.apiKey = some k ∨ o.apiKey = none ∧ d.auth.apiKey = some k) := by
  unfold resolvedKey
  cases o.noAuth with
  | true => simp
  | false =>
    simp only [Bool.false_eq_true, if_false, Option.filter_eq_some_iff, Option.or_eq_some_iff,
      bne_iff_ne, ne_eq, true_and]
    exact and_comm

theorem resolvedKey_of_blanked (h : Blanked o d) : resolvedKey o d = none := by
  rw [Option.eq_none_iff_forall_ne_some]
  intro k hk
  obtain ⟨-, hne, hgiven | ⟨hnone, -⟩⟩ := resolvedKey_eq_some_iff.1 hk
  · exact hne (Option.some.inj (hgiven.symm.trans h.empty))
  · rw [h.empty] at hnone
    cases hnone

/-- Overrides that supply no key leave that of the file, unless what they give is empty. -/
theorem resolvedKey_of_supplied (hblank : ¬Blanked o d) (hchecked : o.noAuth = false) {k : String}
    (hfile : Supplies d.auth.apiKey k) : ∃ k', resolvedKey o d = some k' := by
  obtain ⟨hk, hne⟩ := hfile
  cases hover : o.apiKey with
  | none => exact ⟨k, resolvedKey_eq_some_iff.2 ⟨hchecked, hne, .inr ⟨hover, hk⟩⟩⟩
  | some k' =>
    have hne' : k' ≠ "" := by
      rintro rfl
      exact hblank ⟨hchecked, hover, k, hk, hne⟩
    exact ⟨k', resolvedKey_eq_some_iff.2 ⟨hchecked, hne', .inl hover⟩⟩

/-- The resolution of keys fails in one case alone. -/
theorem keyLayered_iff : KeyLayered o d (resolvedKey o d) ↔ ¬Blanked o d := by
  constructor
  · intro h hblank
    obtain ⟨k, hk⟩ := hblank.supplied
    rcases h.none_iff.1 (resolvedKey_of_blanked hblank) with hoff | ⟨-, hfile⟩
    · rw [hblank.checked] at hoff
      cases hoff
    · exact hfile k hk
  · intro hblank
    constructor
    · constructor
      · intro hnone
        cases hchecked : o.noAuth with
        | true => exact .inl rfl
        | false =>
          -- a key that some layer supplied would have been resolved
          refine .inr ⟨?_, ?_⟩
          · rintro k ⟨hk, hne⟩
            rw [resolvedKey_eq_some_iff.2 ⟨hchecked, hne, .inl hk⟩] at hnone
            cases hnone
          · intro k hk
            obtain ⟨k', hk'⟩ := resolvedKey_of_supplied hblank hchecked hk
            rw [hk'] at hnone
            cases hnone
      · intro hreason
        rw [Option.eq_none_iff_forall_ne_some]
        intro k hk
        obtain ⟨hchecked, hne, hgiven⟩ := resolvedKey_eq_some_iff.1 hk
        rcases hreason with hoff | ⟨hover, hfile⟩
        · rw [hoff] at hchecked
          cases hchecked
        · rcases hgiven with hgiven | ⟨-, hgiven⟩
          · exact hover k ⟨hgiven, hne⟩
          · exact hfile k ⟨hgiven, hne⟩
    · intro k hk
      obtain ⟨-, hne, hgiven | ⟨hnone, hgiven⟩⟩ := resolvedKey_eq_some_iff.1 hk
      · exact .inl ⟨hgiven, hne⟩
      · refine .inr ⟨?_, hgiven, hne⟩
        rintro k' ⟨hk', -⟩
        rw [hnone] at hk'
        cases hk'

end

/-! ### Guarded resources -/

theorem auth_of_resolve {l : Location} {o : Overrides} {d : Document} {s : Settings}
    (h : (resolve l o d).result = .ok s) :
    s.auth = { apiKey := resolvedKey o d, publicActions := d.auth.publicActions } := by
  obtain ⟨resources, -, rfl⟩ := eq_ok_of_map h
  rfl

/-- A resource is guarded by the key of the settings and opens their public actions. -/
theorem ResourceSettings.exists_keyGuard {r : ResourceSettings} {auth : AuthSettings}
    {resource : Api.Resource} (h : r.resource auth = .ok resource) :
    ∃ g : KeyGuard, g.key = auth.apiKey ∧ g.publicActions = auth.publicActions ∧
      resource.policy = g.policy := by
  obtain ⟨createRules, -, h⟩ := eq_ok_of_bind h
  obtain ⟨updateRules, -, h⟩ := eq_ok_of_bind h
  obtain rfl := Except.ok.inj h
  exact ⟨{ key := auth.apiKey, publicActions := auth.publicActions, createRules, updateRules },
    rfl, rfl, rfl⟩

/-- A resource with a key asks for it on every action that is not public. -/
theorem ResourceSettings.authorizes_of_key {r : ResourceSettings} {auth : AuthSettings}
    {resource : Api.Resource} (h : r.resource auth = .ok resource) {key : String}
    (hkey : auth.apiKey = some key) {action : Action} (haction : action ∉ auth.publicActions)
    {req : Request} (hreq : KeyGuard.presented? req = none) :
    resource.policy.authorizes action req = false := by
  obtain ⟨g, hgkey, hgpublic, hpolicy⟩ := exists_keyGuard h
  rw [hpolicy]
  refine KeyGuard.authorizes_eq_false (hgkey.trans hkey) ?_ ?_
  · rw [hreq]
    simp
  · rw [hgpublic]
    exact haction

theorem ResourceSettings.authorizes_of_no_key {r : ResourceSettings} {auth : AuthSettings}
    {resource : Api.Resource} (h : r.resource auth = .ok resource) (hkey : auth.apiKey = none)
    (action : Action) (req : Request) : resource.policy.authorizes action req = true := by
  obtain ⟨g, hgkey, -, hpolicy⟩ := exists_keyGuard h
  rw [hpolicy]
  simp [KeyGuard.policy, KeyGuard.authorizes, hgkey, hkey]

/-- The key of accepted settings is layered just when the overrides give no empty key over one of
the file. Then a key of the file guards every action that is not public, whatever else the overrides
say; in the other case nothing is guarded. -/
theorem key_layered_unless_blanked {l : Location} {o : Overrides} {d : Document} {s : Settings}
    (h : (resolve l o d).result = .ok s) :
    (KeyLayered o d s.auth.apiKey ↔ ¬Blanked o d) ∧
    (¬Blanked o d → o.noAuth = false → (∃ k, Supplies d.auth.apiKey k) →
      ∀ r ∈ s.resources, ∀ resource, r.resource s.auth = .ok resource →
        ∀ action ∉ s.auth.publicActions, ∀ req, KeyGuard.presented? req = none →
          resource.policy.authorizes action req = false) ∧
    (Blanked o d → s.auth.apiKey = none ∧
      ∀ r ∈ s.resources, ∀ resource, r.resource s.auth = .ok resource →
        ∀ action req, resource.policy.authorizes action req = true) := by
  have hkey : s.auth.apiKey = resolvedKey o d := by rw [auth_of_resolve h]
  refine ⟨?_, ?_, ?_⟩
  · rw [hkey]
    exact keyLayered_iff
  · rintro hblank hchecked ⟨k, hk⟩ r - resource hresource action haction req hreq
    obtain ⟨k', hk'⟩ := resolvedKey_of_supplied hblank hchecked hk
    exact ResourceSettings.authorizes_of_key hresource (hkey.trans hk') haction hreq
  · intro hblank
    have hnone : s.auth.apiKey = none := hkey.trans (resolvedKey_of_blanked hblank)
    refine ⟨hnone, ?_⟩
    intro r _ resource hresource action req
    exact ResourceSettings.authorizes_of_no_key hresource hnone action req

def secretDocument : Document :=
  { auth := { apiKey := some "secret", publicActions := [.viewAny] },
    resources := [{ name := "posts" }] }

def keylessPost : Request := { method := "POST", uri := ⟨"/api/v1/posts", none⟩ }

/-- An override of the port leaves the key of the file in force. -/
theorem key_of_secretDocument :
    ∃ s, (resolve { directory := "/" } { port := some 9000 } secretDocument).result = .ok s ∧
      KeyLayered { port := some 9000 } secretDocument s.auth.apiKey ∧
      ∀ r ∈ s.resources, ∀ resource, r.resource s.auth = .ok resource →
        resource.policy.authorizes .create keylessPost = false := by
  refine ⟨_, rfl, ?_⟩
  obtain ⟨hlayered, hguarded, -⟩ := key_layered_unless_blanked
    (show (resolve { directory := "/" } { port := some 9000 } secretDocument).result = .ok _ from rfl)
  have hblank : ¬Blanked { port := some 9000 } secretDocument := by
    intro h
    cases h.empty
  refine ⟨hlayered.2 hblank, ?_⟩
  intro r hr resource hresource
  exact hguarded hblank rfl ⟨"secret", rfl, by decide⟩ r hr resource hresource .create (by decide)
    keylessPost (by rfl)

/-- An empty key on the command line or in the environment is taken as it is, the file supplies one
and nothing switches the checks off: the settings are accepted without a key, and a request that
presents none may create a record. -/
theorem key_of_file_lost :
    Command.readLine [] ["--api-key="] = .ok { overrides := { apiKey := some "" } } ∧
    Command.readLine [("QUERYGATE_API_KEY", "")] [] =
      .ok { overrides := { apiKey := some "" } } ∧
    ∃ s, (resolve { directory := "/" } { apiKey := some "" } secretDocument).result = .ok s ∧
      ¬KeyLayered { apiKey := some "" } secretDocument s.auth.apiKey ∧
      ∃ r ∈ s.resources, ∃ resource, r.resource s.auth = .ok resource ∧
        resource.policy.authorizes .create keylessPost = true := by
  refine ⟨by decide +kernel, by decide +kernel, _, rfl, ?_, _, List.mem_singleton.2 rfl, _, rfl,
    by rfl⟩
  intro h
  have hnone : (none : Option String) = none := rfl
  rcases h.none_iff.1 hnone with hoff | ⟨-, hfile⟩
  · cases hoff
  · exact hfile "secret" ⟨rfl, by decide⟩

end TableApi.Config
