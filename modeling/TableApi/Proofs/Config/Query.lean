import TableApi.Proofs.Api.Dates
import TableApi.Proofs.Config.Mounting
import TableApi.Proofs.Net.Target

/-!
The command that translates a query, and the listing that a request with this query asks for. Both
read the same pairs, whatever path stands before the query, and both translate them in one way: the
listing asks the store for what the command shows, and is refused for the date that the command
fails on.
-/

namespace TableApi.Config

open TableApi.Filter (InvalidDate Parameters Translation)
open Api (Reply Request Resource Response Site mountPath withoutPaging)
open Net (IsPath target)
open Store (Page RecordStore Service)

/-! ### Paths of resources -/

theorem isPathChar_of_isNameChar {c : Char} (h : isNameChar c = true) :
    Net.Uri.isPathChar c = true := by
  have hascii : ∀ n < 0x80, isNameChar (Char.ofNat n) →
      Net.Uri.isPathChar (Char.ofNat n) = true := by decide +kernel
  by_cases hc : c.toNat < 0x80
  · have hpath := hascii c.toNat hc
    rw [Char.ofNat_toNat] at hpath
    exact hpath h
  · -- a path may hold every character beyond
    have hbeyond : decide (0x80 ≤ c.toNat) = true := decide_eq_true (by omega)
    simp only [Net.Uri.isPathChar, hbeyond, Bool.or_true]

/-- The path of a resource can stand in a request target as it is. -/
theorem isPath_mountPath {name : String} (h : isResourceName name) : IsPath (mountPath name) where
  opens := ⟨"api/v1/".toList ++ name.toList, by simp [mountPath, Api.basePath]⟩
  chars := by
    have hname : ∀ c ∈ name.toList, isNameChar c = true := by
      simp only [isResourceName, Bool.and_eq_true, List.all_eq_true] at h
      exact h.2
    have hbase : (Api.basePath ++ "/").toList.all Net.Uri.isPathChar = true := by decide
    intro c hc
    rw [mountPath, String.toList_append] at hc
    rcases List.mem_append.1 hc with hc | hc
    · exact List.all_eq_true.1 hbase c hc
    · exact isPathChar_of_isNameChar (hname c hc)

theorem root_le_mountPath (name : String) :
    ("/" : String).utf8ByteSize ≤ (mountPath name).utf8ByteSize := by
  rw [mountPath, String.utf8ByteSize_append, String.utf8ByteSize_append]
  have hroot : ("/" : String).utf8ByteSize = 1 := rfl
  omega

/-! ### The command -/

/-- What became of the parameters of a query, as the command tells it. -/
def reported (outcome : Filter.Outcome) : Except TranslateError (Translation × List Warning) :=
  match outcome.result with
  | .error e => .error (.invalidDate e)
  | .ok t => .ok (t, outcome.warnings)

theorem reported_eq_ok {outcome : Filter.Outcome} {t : Translation} {warnings : List Warning}
    (h : reported outcome = .ok (t, warnings)) : outcome = { result := .ok t, warnings } := by
  obtain ⟨result, told⟩ := outcome
  cases result with
  | error e => simp [reported] at h
  | ok t' => simpa [reported] using h

theorem reported_eq_invalidDate_iff {outcome : Filter.Outcome} {e : InvalidDate} :
    reported outcome = .error (.invalidDate e) ↔ outcome.result = .error e := by
  obtain ⟨result, told⟩ := outcome
  cases result with
  | error e' => simp [reported]
  | ok t => simp [reported]

theorem date_of_reported {outcome : Filter.Outcome} {e : TranslateError}
    (h : reported outcome = .error e) : ∃ date, e = .invalidDate date := by
  obtain ⟨result, told⟩ := outcome
  cases result with
  | error date => exact ⟨date, (Except.error.inj h).symm⟩
  | ok t => simp [reported] at h

/-- The command reads a query just as a request target has it. -/
theorem readQuery_of_read {query : String} {u : Net.Uri} (hquery : query.toList.head? ≠ some '?')
    (h : Net.Uri.read ("/?" ++ query) = .ok u) :
    readQuery query = .ok (Parameters.ofPairs u.pairs) := by
  -- there are no question marks to leave out
  have hbare : query.toList.dropWhile (· = '?') = query.toList := by
    cases hlist : query.toList with
    | nil => rfl
    | cons c rest =>
      have hc : c ≠ '?' := by simpa [hlist] using hquery
      simp [hc]
  rw [readQuery, hbare, String.ofList_toList, h]
  rfl

section

variable {s : Settings} {name query : String} {settings : ResourceSettings} {resource : Resource}
  {u : Net.Uri}

theorem mem_of_resource? (h : s.resource? name = some settings) :
    settings ∈ s.resources ∧ settings.name = name :=
  ⟨List.mem_of_find?_eq_some h, by simpa using List.find?_some h⟩

theorem Settings.translate_of_read (hname : s.resource? name = some settings)
    (hresource : settings.resource s.auth = .ok resource)
    (hquery : query.toList.head? ≠ some '?') (h : Net.Uri.read ("/?" ++ query) = .ok u) :
    s.translate name query = reported (resource.translate (Parameters.ofPairs u.pairs)) := by
  simp only [Settings.translate, hname, hresource, readQuery_of_read hquery h]
  rfl

/-- The query behind the path of a resource is read as it is without the path. -/
theorem read_of_mountPath (hname : isResourceName name)
    (h : Net.Uri.read (mountPath name ++ "?" ++ query) = .ok u) :
    u.path = mountPath name ∧
      ∃ bare : Net.Uri, Net.Uri.read ("/?" ++ query) = .ok bare ∧ bare.pairs = u.pairs := by
  obtain ⟨hpath, hbare⟩ := Net.read_shorter (isPath_mountPath hname) Net.isPath_root
    (root_le_mountPath name) h
  exact ⟨hpath, { u with path := "/" }, hbare, rfl⟩

end

/-! ### Both together -/

/-- What an answer tells of a translation: a refusal for a date is for the one that it failed on,
and nothing else has this status. -/
def Tells (response : Response)
    (translated : Except TranslateError (Translation × List Warning)) : Prop :=
  (∀ e, response.RefusesDate e ↔ translated = .error (.invalidDate e)) ∧
    (response.status = 422 ↔ ∃ e, translated = .error (.invalidDate e))

/-- The listing that a request asks for goes by a translation. -/
structure Follows (r : Resource) (req : Request) (page : Page)
    (translated : Except TranslateError (Translation × List Warning)) : Prop where
  applied : ∀ t warnings, translated = .ok (t, warnings) →
    r.translate (Parameters.ofPairs req.pairs) = { result := .ok t, warnings } ∧
      ∀ {m : Type → Type} [Monad m] [LawfulMonad m] (store : RecordStore m),
        r.index store req = (do
          let response ← r.listTranslated store req page t
          return { response, warnings })
  failed : ∀ e, translated = .error e → ∃ date, e = .invalidDate date
  told : ∀ {σ : Type} (store : RecordStore (StateM σ)) (c : σ),
    Tells ((r.index store req).run c).1.response translated

/-- The listing asks the store for what the command reports. -/
theorem follows_reported {r : Resource} {req : Request} {page : Page}
    (hpage : r.listedPage req = .ok page) :
    Follows r req page (reported (r.translate (Parameters.ofPairs req.pairs))) where
  applied t warnings h := by
    have houtcome := reported_eq_ok h
    refine ⟨houtcome, ?_⟩
    intro m _ _ store
    rw [Resource.index_of_ok store hpage (congrArg Filter.Outcome.result houtcome), houtcome]
  failed e h := date_of_reported h
  told store c := by
    constructor
    · intro e
      rw [Resource.refusesDate_index_iff store c hpage, reported_eq_invalidDate_iff]
    · rw [Resource.status_index_iff store c hpage]
      simp only [reported_eq_invalidDate_iff]

theorem tells_finish {site : Site} {req : Request} {reply : Reply}
    {translated : Except TranslateError (Translation × List Warning)}
    (hmethod : req.method ≠ "HEAD") (h : Tells reply.response translated) :
    Tells (site.finish req reply).response translated := by
  unfold Tells
  simp only [site.refusesDate_finish reply hmethod, site.status_finish]
  exact h

theorem mounted_of_site {s : Settings} {site : Site} (h : s.site = .ok site) :
    s.resources.mapM (fun r => r.mounted s.auth) = .ok site.resources := by
  cases hmounted : s.resources.mapM (fun r => r.mounted s.auth) with
  | error e =>
    rw [Settings.site_of_unmounted hmounted] at h
    cases h
  | ok resources =>
    rw [Settings.site_of_mounted hmounted] at h
    split at h
    · cases h
    · obtain rfl := Except.ok.inj h
      rfl

/-- A request for a listing reaches the resource of its name. -/
theorem respond_of_listing {s : Settings} {site : Site} {settings : ResourceSettings}
    {resource : Resource} {req : Request} {m : Type → Type} [Monad m] (service : Service m)
    (hs : s.WellNamed) (hsite : s.site = .ok site) (hmem : settings ∈ s.resources)
    (hresource : settings.resource s.auth = .ok resource)
    (hpath : req.uri.path = mountPath settings.name) (hmethod : req.method = "GET") :
    site.respond service req = (do
      let reply ← resource.index service.toRecordStore req
      return site.finish req reply) := by
  -- the resource that is mounted under the name is the one that the settings describe
  obtain ⟨mounted, hmounted, hrespond⟩ :=
    (Settings.isServedBy_of_mounted hs (mounted_of_site hsite)).resource settings hmem
  obtain rfl : mounted = resource := Except.ok.inj (hmounted.symm.trans hresource)
  have hother : req.method ≠ "OPTIONS" := by
    rw [hmethod]
    decide
  rw [hrespond service req "" .collection (by rw [hpath, String.append_empty]) rfl hother]
  simp only [Resource.respond, hmethod]

/-- An authorized listing whose paging can be read goes by the translation that the command gives
of its query, on the site of the settings as well; neither of the two depends on the pairs of
paging. -/
theorem listing_follows_command {l : Location} {o : Overrides} {d : Document} {s : Settings}
    (hs : (resolve l o d).result = .ok s) {name : String} {settings : ResourceSettings}
    (hname : s.resource? name = some settings) {resource : Resource}
    (hresource : settings.resource s.auth = .ok resource) {query : String}
    (hquery : query.toList.head? ≠ some '?') {req : Request} (hmethod : req.method = "GET")
    (htarget : Net.Uri.read (mountPath name ++ "?" ++ query) = .ok req.uri) {page : Page}
    (hpage : resource.listedPage req = .ok page) :
    Follows resource req page (s.translate name query) ∧
    (∀ site, s.site = .ok site →
      (∀ {m : Type → Type} [Monad m] (service : Service m), site.respond service req = (do
        let reply ← resource.index service.toRecordStore req
        return site.finish req reply)) ∧
      ∀ {σ : Type} (service : Service (StateM σ)) (c : σ),
        Tells ((site.respond service req).run c).1.response (s.translate name query)) ∧
    (∀ query' u, query'.toList.head? ≠ some '?' → Net.Uri.read ("/?" ++ query') = .ok u →
      withoutPaging u.pairs = withoutPaging req.pairs →
        s.translate name query' = s.translate name query) ∧
    (∀ req' page', resource.listedPage req' = .ok page' →
      withoutPaging req'.pairs = withoutPaging req.pairs →
        Follows resource req' page' (s.translate name query)) := by
  have hnamed := wellNamed_of_resolve hs
  obtain ⟨hmem, rfl⟩ := mem_of_resource? hname
  obtain ⟨hpath, bare, hbare, hpairs⟩ := read_of_mountPath (hnamed.isName settings hmem) htarget
  -- the command and the listing read the same pairs
  have htranslate : s.translate settings.name query =
      reported (resource.translate (Parameters.ofPairs req.pairs)) := by
    calc s.translate settings.name query
      _ = reported (resource.translate (Parameters.ofPairs bare.pairs)) :=
        Settings.translate_of_read hname hresource hquery hbare
      _ = reported (resource.translate (Parameters.ofPairs req.uri.pairs)) := by rw [hpairs]
      _ = reported (resource.translate (Parameters.ofPairs req.pairs)) := rfl
  have hfollows := follows_reported hpage
  rw [htranslate]
  refine ⟨hfollows, ?_, ?_, ?_⟩
  · intro site hsite
    refine ⟨fun service => respond_of_listing service hnamed hsite hmem hresource hpath hmethod, ?_⟩
    intro σ service c
    have hhead : req.method ≠ "HEAD" := by
      rw [hmethod]
      decide
    rw [respond_of_listing service hnamed hsite hmem hresource hpath hmethod, Store.run_bind]
    exact tells_finish hhead (hfollows.told service.toRecordStore c)
  · intro query' u hquery' hread hsame
    calc s.translate settings.name query'
      _ = reported (resource.translate (Parameters.ofPairs u.pairs)) :=
        Settings.translate_of_read hname hresource hquery' hread
      _ = reported (resource.translate (Parameters.ofPairs req.pairs)) := by
        rw [resource.translate_congr hsame]
  · intro req' page' hpage' hsame
    rw [← resource.translate_congr hsame]
    exact follows_reported hpage'

def datedDocument : Document :=
  { resources := [{
      name := "posts", allowedFields := ["created_at"], dateFields := ["created_at"] }] }

def datedSettings : Settings :=
  { server := { host := defaultHost, port := defaultPort, origins := [] },
    database := { url := defaultUrl, maxConnections := defaultMaxConnections, schemaFile := none },
    auth := { apiKey := none, publicActions := [] },
    resources := [{
      name := "posts", table := "posts", primaryKey := "id",
      fields := { allowed := ["created_at"], dates := ["created_at"] },
      allowedAttributes := [], hidden := [], perPage := Api.defaultPerPage,
      createRules := [], updateRules := [] }] }

def datedPosts : Resource :=
  { table := { name := "posts", primaryKey := "id" },
    fields := { allowed := ["created_at"], dates := ["created_at"] },
    policy := ({} : Api.KeyGuard).policy }

def sinceSoon : Request :=
  { method := "GET",
    uri := { path := "/api/v1/posts", query := some "created_at_gte=soon&page=2" } }

/-- The command fails on the date, with the page and without, and the site refuses it. -/
theorem command_and_site_refuse_soon :
    datedSettings.translate "posts" "created_at_gte=soon&page=2" =
        .error (.invalidDate ⟨"created_at", "soon"⟩) ∧
      datedSettings.translate "posts" "created_at_gte=soon" =
        datedSettings.translate "posts" "created_at_gte=soon&page=2" ∧
      ∃ site, datedSettings.site = .ok site ∧
        ((site.respond Store.Connection.service sinceSoon).run {}).1.response.RefusesDate
          ⟨"created_at", "soon"⟩ := by
  have hs : (resolve { directory := "/" } {} datedDocument).result = .ok datedSettings := rfl
  have hsite : datedSettings.site = .ok { resources := [("posts", datedPosts)] } := rfl
  have hpage : datedPosts.listedPage sinceSoon = .ok ⟨2, 15⟩ := by decide +kernel
  have htarget : Net.Uri.read (mountPath "posts" ++ "?" ++ "created_at_gte=soon&page=2") =
      .ok sinceSoon.uri := by decide +kernel
  have hbare : Net.Uri.read ("/?" ++ "created_at_gte=soon") =
      .ok { path := "/", query := some "created_at_gte=soon" } := by decide +kernel
  have hsame : withoutPaging (Net.Uri.pairs { path := "/", query := some "created_at_gte=soon" }) =
      withoutPaging sinceSoon.pairs := by decide +kernel
  have htranslate : datedSettings.translate "posts" "created_at_gte=soon&page=2" =
      .error (.invalidDate ⟨"created_at", "soon"⟩) := by decide +kernel
  obtain ⟨-, hserved, hpaging, -⟩ := listing_follows_command hs
    (show datedSettings.resource? "posts" = some _ from rfl)
    (show ResourceSettings.resource _ _ = .ok datedPosts from rfl) (by decide) rfl htarget hpage
  have htells := (hserved _ hsite).2 Store.Connection.service {}
  exact ⟨htranslate, hpaging _ _ (by decide) hbare hsame, _, hsite, (htells.1 _).2 htranslate⟩

end TableApi.Config
