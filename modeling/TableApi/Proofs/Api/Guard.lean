import TableApi.Proofs.Api.Actions
import TableApi.Proofs.Api.Keys

/-!
A shared key. Whoever does not present it is refused every action that is not public before the
query, the body or the store is looked at: the refusal depends on the route alone, and the database
is what the public actions make of it.
-/

namespace TableApi

namespace Text

theorem Percent.decode_ne_nil {bytes : List UInt8} (h : bytes ≠ []) :
    Percent.decode bytes ≠ [] := by
  cases bytes with
  | nil => exact absurd rfl h
  | cons b rest =>
    unfold Percent.decode
    split
    · split
      · split <;> exact List.cons_ne_nil _ _
      · exact List.cons_ne_nil _ _
    · exact List.cons_ne_nil _ _

namespace Utf8

/-- A reader that has taken an octet holds a character, or the beginning of one. -/
def Reader.Begun (r : Reader) : Prop := r.read ≠ [] ∨ r.pending.isSome

theorem begun_begin (read : List (Option Char)) (b : UInt8) : (Reader.begin read b).Begun := by
  unfold Reader.begin
  split
  · exact .inl (List.cons_ne_nil _ _)
  · exact .inr rfl

/-- After any octet the reader holds a character, an ill-formed one or the beginning of one. -/
theorem begun_step (r : Reader) (b : UInt8) : (r.step b).Begun := by
  unfold Reader.step
  split
  · exact begun_begin _ _
  · split
    · dsimp only
      split
      · exact .inl (List.cons_ne_nil _ _)
      · exact .inr rfl
    · exact begun_begin _ _

/-- Octets never decode to nothing, so no segment but the empty one has an empty text. -/
theorem decode_ne_nil {bytes : List UInt8} (h : bytes ≠ []) : decode bytes ≠ [] := by
  have hbegun : (bytes.foldl Reader.step {}).Begun := by
    obtain ⟨before, b, hbytes⟩ := (List.eq_nil_or_concat bytes).resolve_left h
    rw [hbytes, List.concat_eq_append, List.foldl_concat]
    exact begun_step _ b
  unfold decode Reader.finish
  rw [ne_eq, List.reverse_eq_nil_iff]
  rcases hbegun with hread | hpending
  · split
    · exact List.cons_ne_nil _ _
    · exact hread
  · rw [if_pos hpending]
    exact List.cons_ne_nil _ _

theorem ne_empty_of_decode? {bytes : List UInt8} {s : String} (h : bytes ≠ [])
    (hs : decode? bytes = some s) : s ≠ "" := by
  have hne := decode_ne_nil h
  unfold decode? at hs
  dsimp only at hs
  split at hs
  · rename_i hall
    obtain rfl := Option.some.inj hs
    intro hempty
    -- all that was read is a character, so an empty text was read from nothing
    have hnone : (decode bytes).filterMap id = [] := by
      simpa using congrArg String.toList hempty
    cases hread : decode bytes with
    | nil => exact hne hread
    | cons c rest =>
      rw [hread] at hall hnone
      cases c with
      | none => simp at hall
      | some c => simp at hnone
  · simp at hs

end Utf8

end Text

namespace Api

open Store (Database RecordStore databaseStore)

/-! ### Keys in paths -/

def decodedSegment? (segment : String) : Option String :=
  Text.Utf8.decode? (Text.Percent.decode (Text.Utf8.encode segment.toList))

/-- Whether a route has a segment that is no text, or too long a text. -/
def Route.isUnreadable : Route → Bool
  | .collection => false
  | .member segment => (decodedSegment? segment).all fun key => maxKeyLength < key.utf8ByteSize

/-- What is answered on a route to whoever may not do what they ask for. -/
def Route.refusal : Route → Failure
  | .collection => .unauthorized
  | .member segment =>
    match readKey segment with
    | .error f => f
    | .ok _ => .unauthorized

theorem decodedSegment?_ne_empty {segment key : String} (hsegment : segment ≠ "")
    (h : decodedSegment? segment = some key) : key ≠ "" := by
  have hencoded : Text.Utf8.encode segment.toList ≠ [] := by
    intro hnil
    cases hchars : segment.toList with
    | nil => exact hsegment (String.toList_eq_nil_iff.1 hchars)
    | cons c rest =>
      rw [hchars, Text.Utf8.encode, List.flatMap_cons, List.append_eq_nil_iff] at hnil
      exact String.utf8EncodeChar_ne_nil hnil.1
  exact Text.Utf8.ne_empty_of_decode? (Text.Percent.decode_ne_nil hencoded) h

theorem ne_empty_of_read? {path : List Char} {segment : String}
    (h : Route.read? path = some (.member segment)) : segment ≠ "" := by
  unfold Route.read? at h
  split at h
  · simp at h
  · rename_i chars
    split at h
    · simp at h
    · rename_i hchars
      obtain rfl := Route.member.inj (Option.some.inj h)
      intro hempty
      have hnil : chars = [] := by simpa using congrArg String.toList hempty
      simp [hnil] at hchars
  · simp at h

/-- A refusal tells only whether the segment of the route can be read. -/
theorem status_refusal {path : List Char} {route : Route} (h : Route.read? path = some route) :
    route.refusal.status = if route.isUnreadable then 400 else 401 := by
  cases route with
  | collection => rfl
  | member segment =>
    have hsegment := ne_empty_of_read? h
    rw [Route.refusal, Route.isUnreadable]
    cases hkey : decodedSegment? segment with
    | none =>
      rw [decodedSegment?] at hkey
      simp [readKey, hkey, Failure.status]
    | some key =>
      have hne := decodedSegment?_ne_empty hsegment hkey
      rw [decodedSegment?] at hkey
      by_cases hlong : maxKeyLength < key.utf8ByteSize
      · have hnot : ¬ key.utf8ByteSize ≤ maxKeyLength := by omega
        simp [readKey, hkey, isKey, hlong, hnot, Failure.status]
      · have hfits : key.utf8ByteSize ≤ maxKeyLength := by omega
        simp [readKey, hkey, isKey, hlong, hfits, hne, Failure.status]

/-! ### Refusals -/

namespace Resource

variable (r : Resource)

section Store

variable {m : Type → Type} [Monad m] [LawfulMonad m] (store : RecordStore m)

theorem atKey_of_refused {segment : String} {answer : String → m (Except Failure Response)}
    (h : ∀ key, answer key = pure (.error .unauthorized)) :
    atKey segment answer = pure (.ofResult (.error (Route.member segment).refusal)) := by
  simp only [atKey, Route.refusal]
  cases readKey segment with
  | error f => rfl
  | ok key => simp only [h key, pure_bind]

/-- A refused request is answered without its query, its body and the store. -/
theorem respond_of_refused {limit : Nat} {route : Route} {req : Request} {action : Action}
    (haction : route.action? req.method = some action)
    (hrefused : r.policy.authorizes action req = false) :
    r.respond store limit route req = pure (.ofResult (.error route.refusal)) := by
  have hauthorize : r.authorize action req = .error .unauthorized := by
    simp [authorize, hrefused]
  rw [respond_eq_perform, haction]
  cases route with
  | collection =>
    rcases Route.action?_collection haction with rfl | rfl
    · have hpage : r.listedPage req = .error .unauthorized := by
        rw [listedPage, hauthorize]
        rfl
      simp only [perform, index, hpage, Route.refusal]
    · have hbody : (r.authorize .create req >>= fun _ => r.bodyRecord .create limit req) =
          .error .unauthorized := by
        rw [hauthorize]
        rfl
      simp only [perform, create, hbody, Route.refusal, pure_bind]
  | member segment =>
    rcases Route.action?_member haction with rfl | rfl | rfl
    · exact atKey_of_refused fun key => by simp only [display, hauthorize]
    · exact atKey_of_refused fun key => by simp only [update, hauthorize]
    · exact atKey_of_refused fun key => by simp only [delete, hauthorize]

end Store

/-! ### Requests without the key -/

theorem afterAll_cons (limit : Nat) (d : Database) (x : Route × Request)
    (sent : List (Route × Request)) :
    r.afterAll limit d (x :: sent) = r.afterAll limit (r.after limit d x) sent := rfl

def replies (limit : Nat) : Database → List (Route × Request) → List Reply
  | _, [] => []
  | d, x :: sent =>
    ((r.respond databaseStore limit x.1 x.2).run d).1 :: replies limit (r.after limit d x) sent

theorem getElem?_replies (limit : Nat) (d : Database) (sent : List (Route × Request)) (i : Nat) :
    (r.replies limit d sent)[i]? =
      sent[i]?.map fun x =>
        ((r.respond databaseStore limit x.1 x.2).run (r.afterAll limit d (sent.take i))).1 := by
  induction sent generalizing d i with
  | nil => rfl
  | cons x sent ih =>
    cases i with
    | zero => rfl
    | succ i =>
      rw [replies, List.getElem?_cons_succ, List.getElem?_cons_succ, ih, List.take_succ_cons]
      simp only [afterAll_cons]

end Resource

namespace KeyGuard

def isPublic (g : KeyGuard) (x : Route × Request) : Bool :=
  (x.1.action? x.2.method).any g.publicActions.contains

/-- Two requests that differ in nothing but their query and their body. -/
def SameButContent (x y : Route × Request) : Prop :=
  x.1 = y.1 ∧ x.2.method = y.2.method ∧ x.2.uri.path = y.2.uri.path ∧ x.2.headers = y.2.headers

theorem presented?_of_headers {req req' : Request} (h : req.headers = req'.headers) :
    presented? req = presented? req' := by
  simp only [presented?, Request.bearerToken?, Request.header?, Request.rawHeader?, h]

theorem authorizes_eq_false {g : KeyGuard} {key : String} {action : Action} {req : Request}
    (hkey : g.key = some key) (hreq : presented? req ≠ some key)
    (haction : action ∉ g.publicActions) : g.authorizes action req = false := by
  simp [authorizes, hkey, hreq, haction]

section Guarded

variable {g : KeyGuard} {r : Resource} {key : String} (hpolicy : r.policy = g.policy)
  (hkey : g.key = some key) (limit : Nat)

include hpolicy hkey

/-- Without the key, an action that is not public is refused by its route alone. -/
theorem run_of_guarded (d : Database) {x : Route × Request} {action : Action}
    (hx : presented? x.2 ≠ some key) (haction : x.1.action? x.2.method = some action)
    (hpublic : action ∉ g.publicActions) :
    (r.respond databaseStore limit x.1 x.2).run d =
      (.ofResult (.error x.1.refusal), d) := by
  have hrefused : r.policy.authorizes action x.2 = false := by
    rw [hpolicy]
    exact authorizes_eq_false hkey hx hpublic
  rw [r.respond_of_refused databaseStore haction hrefused]
  rfl

theorem after_of_not_public (d : Database) {x : Route × Request}
    (hx : presented? x.2 ≠ some key) (hpublic : g.isPublic x = false) :
    r.after limit d x = d := by
  cases haction : x.1.action? x.2.method with
  | none =>
    apply r.after_of_reading
    intro action _
    simp [haction]
  | some action =>
    have hnot : action ∉ g.publicActions := by
      simpa [isPublic, haction] using hpublic
    exact congrArg Prod.snd (run_of_guarded hpolicy hkey limit d hx haction hnot)

/-- Of requests without the key only the public ones have an effect. -/
theorem afterAll_filter_isPublic (d : Database) (sent : List (Route × Request))
    (hsent : ∀ x ∈ sent, presented? x.2 ≠ some key) :
    r.afterAll limit d sent = r.afterAll limit d (sent.filter g.isPublic) := by
  induction sent generalizing d with
  | nil => rfl
  | cons x sent ih =>
    obtain ⟨hx, hsent'⟩ := List.forall_mem_cons.1 hsent
    rw [r.afterAll_cons, ih (r.after limit d x) hsent']
    by_cases hpublic : g.isPublic x
    · rw [List.filter_cons_of_pos hpublic, r.afterAll_cons]
    · rw [List.filter_cons_of_neg hpublic,
        after_of_not_public hpolicy hkey limit d hx (eq_false_of_ne_true hpublic)]

/-- When no write is public, nothing can be changed without the key. -/
theorem afterAll_of_no_public_writes (d : Database) (sent : List (Route × Request))
    (hsent : ∀ x ∈ sent, presented? x.2 ≠ some key)
    (hwrites : ∀ action ∈ [Action.create, .update, .delete], action ∉ g.publicActions) :
    r.afterAll limit d sent = d := by
  induction sent with
  | nil => rfl
  | cons x sent ih =>
    obtain ⟨hx, hsent'⟩ := List.forall_mem_cons.1 hsent
    have hsame : r.after limit d x = d := by
      by_cases hpublic : g.isPublic x
      · -- what is public only reads
        apply r.after_of_reading
        intro action haction hasked
        have hnot := hwrites action haction
        simp [isPublic, hasked, hnot] at hpublic
      · exact after_of_not_public hpolicy hkey limit d hx (eq_false_of_ne_true hpublic)
    rw [r.afterAll_cons, hsame]
    exact ih hsent'

end Guarded

/-- Without the key, what is not public is refused in one way whatever the database, the queries
and the bodies are, and only what is public changes the database. -/
theorem nothing_learnt_without_key (g : KeyGuard) (r : Resource) (hpolicy : r.policy = g.policy)
    {key : String} (hkey : g.key = some key) (limit : Nat) (sent : List (Route × Request))
    (hroutes : ∀ x ∈ sent, ∃ path, Route.read? path = some x.1)
    (hsent : ∀ x ∈ sent, presented? x.2 ≠ some key) :
    (∀ (d d' : Database) (sent' : List (Route × Request)),
      List.Forall₂ SameButContent sent sent' →
      ∀ (i : Nat) (x : Route × Request) (action : Action), sent[i]? = some x →
        x.1.action? x.2.method = some action → action ∉ g.publicActions →
        ∃ reply, (r.replies limit d sent)[i]? = some reply ∧
          (r.replies limit d' sent')[i]? = some reply ∧
          reply.response.status = if x.1.isUnreadable then 400 else 401) ∧
    (∀ d, r.afterAll limit d sent = r.afterAll limit d (sent.filter g.isPublic)) ∧
    ((∀ action ∈ [Action.create, .update, .delete], action ∉ g.publicActions) →
      ∀ d, r.afterAll limit d sent = d) := by
  refine ⟨?_, fun d => afterAll_filter_isPublic hpolicy hkey limit d sent hsent,
    fun hwrites d => afterAll_of_no_public_writes hpolicy hkey limit d sent hsent hwrites⟩
  intro d d' sent' hsame i x action hx haction hpublic
  have hmem := List.mem_of_getElem? hx
  -- the second run meets a request there that asks for the same in the same way
  obtain ⟨y, hy, hroute, hmethod, -, hheaders⟩ : ∃ y, sent'[i]? = some y ∧ SameButContent x y := by
    obtain ⟨hi, rfl⟩ := List.getElem?_eq_some_iff.1 hx
    have hi' : i < sent'.length := hsame.length_eq ▸ hi
    exact ⟨sent'[i], List.getElem?_eq_getElem hi', hsame.get hi hi'⟩
  have hpresented : presented? y.2 ≠ some key := by
    rw [← presented?_of_headers hheaders]
    exact hsent x hmem
  have haction' : y.1.action? y.2.method = some action := by
    rw [← hroute, ← hmethod]
    exact haction
  refine ⟨.ofResult (.error x.1.refusal), ?_, ?_, ?_⟩
  · rw [r.getElem?_replies, hx, Option.map_some,
      run_of_guarded hpolicy hkey limit _ (hsent x hmem) haction hpublic]
  · rw [r.getElem?_replies, hy, Option.map_some,
      run_of_guarded hpolicy hkey limit _ hpresented haction' hpublic, hroute]
  · obtain ⟨path, hpath⟩ := hroutes x hmem
    exact status_refusal hpath

def listingGuard : KeyGuard := { key := some "secret", publicActions := [.viewAny] }

def guardedPosts : Resource :=
  { table := { name := "posts", primaryKey := "id" }, policy := listingGuard.policy }

/-- A post with a wrong key, a removal whose bearer token is empty, and a segment that is no
text. -/
def withoutKey (body : String) : List (Route × Request) :=
  [(.collection,
      { method := "POST", uri := { path := "/posts", query := none },
        headers := [("X-Api-Key", "guess"), ("content-type", "application/json")], body }),
    (.member "1",
      { method := "DELETE", uri := { path := "/posts/1", query := none },
        headers := [("authorization", "Bearer  ")] }),
    (.member "%FF", { method := "GET", uri := { path := "/posts/%FF", query := none } })]

/-- Another body and an empty database change none of the answers, and all rows stay. -/
theorem nothing_learnt_of_posts :
    guardedPosts.afterAll standardLimit [Resource.posts] (withoutKey "") = [Resource.posts] ∧
    ∀ i status, (i, status) ∈ [(0, 401), (1, 401), (2, 400)] → ∃ reply : Reply,
      (guardedPosts.replies standardLimit [Resource.posts] (withoutKey ""))[i]? = some reply ∧
      (guardedPosts.replies standardLimit [] (withoutKey "\x7b\"title\":\"c\"\x7d"))[i]? =
        some reply ∧
      reply.response.status = status := by
  have hroutes : ∀ x ∈ withoutKey "", ∃ path, Route.read? path = some x.1 := by
    intro x hx
    fin_cases hx
    · exact ⟨[], rfl⟩
    · exact ⟨['/', '1'], by decide⟩
    · exact ⟨['/', '%', 'F', 'F'], by decide⟩
  have hsent : ∀ x ∈ withoutKey "", presented? x.2 ≠ some "secret" := by decide +kernel
  obtain ⟨hreplies, -, hstays⟩ := listingGuard.nothing_learnt_without_key guardedPosts rfl rfl
    standardLimit (withoutKey "") hroutes hsent
  refine ⟨hstays (by decide) _, ?_⟩
  have hsame : List.Forall₂ SameButContent (withoutKey "")
      (withoutKey "\x7b\"title\":\"c\"\x7d") :=
    .cons ⟨rfl, rfl, rfl, rfl⟩ (.cons ⟨rfl, rfl, rfl, rfl⟩ (.cons ⟨rfl, rfl, rfl, rfl⟩ .nil))
  intro i status hi
  fin_cases hi
  · exact hreplies _ _ _ hsame 0 _ .create rfl (by decide) (by decide)
  · exact hreplies _ _ _ hsame 1 _ .delete rfl (by decide) (by decide)
  · exact hreplies _ _ _ hsame 2 _ .view rfl (by decide) (by decide)

end KeyGuard

end Api

end TableApi
