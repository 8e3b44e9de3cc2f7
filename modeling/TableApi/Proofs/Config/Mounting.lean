import Mathlib.Data.List.Nodup
import TableApi.Config.Site
import TableApi.Proofs.Api.Destinations
import TableApi.Proofs.Steps

/-!
Mounting resources. Settings that are accepted have distinct names that can stand in paths, so their
routes collide only with the route of the site's own health; and a list of origins may not name
every origin. Where neither happens a site is built, or the first rule that cannot be read is
reported, and the site answers under every name.
-/

namespace TableApi.Config

open Api (Destination Reply Request Resource Route Site basePath dropOpening?_mountPath
  everyOrigin healthName mountPath)
open Store (Service)

/-! ### Accepted names -/

/-- The names of the resources are distinct and can stand in paths. -/
structure Settings.WellNamed (s : Settings) : Prop where
  nodup : (s.resources.map ResourceSettings.name).Nodup
  isName : ∀ r ∈ s.resources, isResourceName r.name

theorem nodup_of_firstRepeated? {seen names : List String}
    (h : firstRepeated? seen names = none) : names.Nodup ∧ ∀ name ∈ names, name ∉ seen := by
  induction names generalizing seen with
  | nil => simp
  | cons name rest ih =>
    rw [firstRepeated?] at h
    split at h
    · simp at h
    · rename_i hnew
      obtain ⟨hrest, hseen⟩ := ih h
      constructor
      · refine List.nodup_cons.2 ⟨?_, hrest⟩
        intro hmem
        exact hseen name hmem List.mem_cons_self
      · intro other hother
        rcases List.mem_cons.1 hother with rfl | hother
        · simpa using hnew
        · intro hmem
          exact hseen other hother (List.mem_cons_of_mem _ hmem)

theorem isName_of_settings {section_ : ResourceSection} {r : ResourceSettings}
    (h : section_.settings = .ok r) : isResourceName r.name := by
  simp only [ResourceSection.settings] at h
  split at h
  · simp at h
  · rename_i hname
    split at h
    · simp at h
    · obtain rfl := Except.ok.inj h
      simpa using hname

/-- Settings that are accepted have been checked for the names of their resources. -/
theorem wellNamed_of_resolve {l : Location} {o : Overrides} {d : Document} {s : Settings}
    (h : (resolve l o d).result = .ok s) : s.WellNamed := by
  obtain ⟨resources, hresources, rfl⟩ := eq_ok_of_map h
  unfold resourceSettings at hresources
  split at hresources
  · simp at hresources
  · rename_i hmapM
    split at hresources
    · simp at hresources
    · rename_i hnames
      obtain rfl := Except.ok.inj hresources
      refine ⟨(nodup_of_firstRepeated? hnames).1, ?_⟩
      intro r hr
      obtain ⟨section_, -, hsettings⟩ := exists_of_mem_mapM hmapM hr
      exact isName_of_settings hsettings

/-! ### Handlers -/

/-- The handlers that every site has, each with its method and the path that it answers at. -/
def fixedHandlers : List (String × String) :=
  [("GET", mountPath healthName), ("GET", "/api/openapi.json"), ("GET", "/api/docs")]

/-- The handlers of a resource. The last segment of a member stands for any. -/
def resourceHandlers (name : String) : List (String × String) :=
  [("GET", mountPath name), ("POST", mountPath name)] ++
    ["GET", "PUT", "PATCH", "DELETE"].map fun method => (method, mountPath name ++ "/\x7bid\x7d")

/-- All handlers of a site, in the order in which they are given to the router. -/
def Settings.handlers (s : Settings) : List (String × String) :=
  fixedHandlers ++ s.resources.flatMap fun r => resourceHandlers r.name

def nameAt? (path : String) : Option (List Char) :=
  (Text.dropOpening? (basePath ++ "/").toList path.toList).map (List.takeWhile (· != '/'))

/-- A name ends before the first separator behind it. -/
theorem ne_separator_of_isName {name : String} (h : isResourceName name) :
    ∀ c ∈ name.toList, (c != '/') = true := by
  intro c hc
  simp only [isResourceName, Bool.and_eq_true, List.all_eq_true] at h
  have hchar := h.2 c hc
  rw [bne_iff_ne]
  rintro rfl
  exact absurd hchar (by decide)

theorem nameAt?_mountPath {name rest : String} (hname : isResourceName name)
    (hrest : rest.toList.takeWhile (· != '/') = []) :
    nameAt? (mountPath name ++ rest) = some name.toList := by
  rw [nameAt?, dropOpening?_mountPath, Option.map_some,
    List.takeWhile_append_of_pos (ne_separator_of_isName hname), hrest, List.append_nil]

/-- The routes of a resource begin with its name, which has no slash in it. -/
theorem nameAt?_of_mem_resourceHandlers {name : String} (hname : isResourceName name)
    {x : String × String} (hx : x ∈ resourceHandlers name) : nameAt? x.2 = some name.toList := by
  have hpath : x.2 = mountPath name ++ "" ∨ x.2 = mountPath name ++ "/\x7bid\x7d" := by
    simp only [resourceHandlers, List.map_cons, List.map_nil, List.cons_append, List.nil_append,
      List.mem_cons, List.not_mem_nil, or_false] at hx
    rcases hx with rfl | rfl | rfl | rfl | rfl | rfl <;> simp
  rcases hpath with hpath | hpath <;> rw [hpath]
  · exact nameAt?_mountPath hname (by decide)
  · exact nameAt?_mountPath hname (by decide)

theorem nodup_resourceHandlers (name : String) : (resourceHandlers name).Nodup := by
  have hlonger : mountPath name ≠ mountPath name ++ "/\x7bid\x7d" := by
    intro h
    have hlength := congrArg String.length h
    simp [String.length_append] at hlength
  simp [resourceHandlers, hlonger]

theorem nameAt?_of_mem_fixedHandlers {x : String × String} (hx : x ∈ fixedHandlers) :
    nameAt? x.2 = some healthName.toList ∨ nameAt? x.2 = none := by
  simp only [fixedHandlers, List.mem_cons, List.not_mem_nil, or_false] at hx
  rcases hx with rfl | rfl | rfl <;> decide

/-- No two handlers answer one method at one path unless a resource is named like the health of the
site. -/
theorem nodup_handlers_iff {s : Settings} (hs : s.WellNamed) :
    s.handlers.Nodup ↔ ∀ r ∈ s.resources, r.name ≠ healthName := by
  constructor
  · intro hnodup r hr hname
    have hdisjoint := List.disjoint_of_nodup_append hnodup
    have hfixed : ("GET", mountPath healthName) ∈ fixedHandlers := List.mem_cons_self
    refine hdisjoint hfixed (List.mem_flatMap.2 ⟨r, hr, ?_⟩)
    rw [hname]
    exact List.mem_cons_self
  · intro hnames
    have hfixed : fixedHandlers.Nodup := by decide
    have hresources : (s.resources.flatMap fun r => resourceHandlers r.name).Nodup := by
      refine List.nodup_flatMap.2 ⟨fun r _ => nodup_resourceHandlers r.name, ?_⟩
      refine (List.pairwise_map.1 hs.nodup).imp_of_mem ?_
      intro a b ha hb hne x hxa hxb
      -- one path cannot begin with two names
      have hname := (nameAt?_of_mem_resourceHandlers (hs.isName a ha) hxa).symm.trans
        (nameAt?_of_mem_resourceHandlers (hs.isName b hb) hxb)
      exact hne (String.toList_inj.1 (Option.some.inj hname))
    refine List.Nodup.append hfixed hresources ?_
    intro x hx hx'
    obtain ⟨r, hr, hxr⟩ := List.mem_flatMap.1 hx'
    have hname := nameAt?_of_mem_resourceHandlers (hs.isName r hr) hxr
    rcases nameAt?_of_mem_fixedHandlers hx with hhealth | hnone
    · have hsame := Option.some.inj (hname.symm.trans hhealth)
      exact hnames r hr (String.toList_inj.1 hsame)
    · simp [hname] at hnone

/-! ### Building -/

def ResourceSettings.HasReadableRules (r : ResourceSettings) : Prop :=
  (∃ rules, Validation.RuleSet.read r.createRules = .ok rules) ∧
    ∃ rules, Validation.RuleSet.read r.updateRules = .ok rules

theorem ResourceSettings.exists_resource_iff (r : ResourceSettings) (auth : AuthSettings) :
    (∃ resource, r.resource auth = .ok resource) ↔ r.HasReadableRules := by
  constructor
  · rintro ⟨resource, h⟩
    obtain ⟨create, hcreate, h⟩ := eq_ok_of_bind h
    obtain ⟨update, hupdate, -⟩ := eq_ok_of_bind h
    exact ⟨⟨create, hcreate⟩, update, hupdate⟩
  · rintro ⟨⟨create, hcreate⟩, update, hupdate⟩
    simp only [resource, hcreate, hupdate]
    exact ⟨_, rfl⟩

namespace ResourceSettings

theorem mounted_of_error {r : ResourceSettings} {auth : AuthSettings} {e : Validation.RuleError}
    (h : r.resource auth = .error e) : r.mounted auth = .error (.invalidRules r.name e) := by
  rw [mounted, h]

theorem mounted_of_resource {r : ResourceSettings} {auth : AuthSettings}
    {resource : Resource} (h : r.resource auth = .ok resource) :
    r.mounted auth =
      if r.name = healthName then .error (.reservedName r.name) else .ok (r.name, resource) := by
  rw [mounted, h]

theorem resource_of_mounted {r : ResourceSettings} {auth : AuthSettings} {x : String × Resource}
    (h : r.mounted auth = .ok x) :
    x.1 = r.name ∧ r.resource auth = .ok x.2 ∧ r.name ≠ healthName := by
  cases hresource : r.resource auth with
  | error e =>
    rw [mounted_of_error hresource] at h
    cases h
  | ok resource =>
    rw [mounted_of_resource hresource] at h
    split at h
    · cases h
    · rename_i hname
      obtain rfl := Except.ok.inj h
      exact ⟨rfl, rfl, hname⟩

/-- Under distinct names each resource is found by its own. -/
theorem resource?_of_mounted {auth : AuthSettings} {rs : List ResourceSettings} {site : Site}
    (h : rs.mapM (fun r => r.mounted auth) = .ok site.resources)
    (hnames : (rs.map ResourceSettings.name).Nodup) {r : ResourceSettings} (hr : r ∈ rs) :
    ∃ resource, r.resource auth = .ok resource ∧ site.resource? r.name = some resource := by
  rw [Site.resource?]
  have hsteps := forall₂_of_mapM h
  generalize site.resources = resources at hsteps
  clear h
  induction hsteps with
  | nil => cases hr
  | @cons first x rs resources hx _ ih =>
    obtain ⟨hfirst, hrest⟩ := List.nodup_cons.1 hnames
    obtain ⟨hname, hresource, -⟩ := resource_of_mounted hx
    rw [List.find?_cons]
    rcases List.mem_cons.1 hr with rfl | hr
    · rw [hname, decide_eq_true rfl]
      exact ⟨x.2, hresource, rfl⟩
    · have hother : first.name ≠ r.name := by
        intro hsame
        exact hfirst (hsame ▸ List.mem_map_of_mem hr)
      rw [hname, decide_eq_false hother]
      exact ih hrest hr

end ResourceSettings

namespace Settings

variable {s : Settings}

theorem site_of_unmounted {e : SiteError}
    (h : s.resources.mapM (fun r => r.mounted s.auth) = .error e) : s.site = .error e := by
  rw [site, h]
  rfl

/-- Once every resource is built, only the origins can stand in the way. -/
theorem site_of_mounted {resources : List (String × Resource)}
    (h : s.resources.mapM (fun r => r.mounted s.auth) = .ok resources) :
    s.site = if everyOrigin ∈ s.server.origins then .error .wildcardOrigin
      else .ok { resources, origins := Api.Origins.ofList s.server.origins } := by
  have hstar : Api.Origins.isUsable everyOrigin = true := by decide
  rw [site, h]
  cases horigins : s.server.origins with
  | nil => rfl
  | cons origin rest =>
    have hlisted : Api.Origins.ofList (origin :: rest) =
        .listed ((origin :: rest).filter Api.Origins.isUsable) := rfl
    have hcontains : ((origin :: rest).filter Api.Origins.isUsable).contains everyOrigin =
        decide (everyOrigin ∈ origin :: rest) := by
      rw [List.contains_eq_mem]
      simp only [List.mem_filter, hstar, and_true]
    simp only [hlisted, bind, Except.bind, hcontains, decide_eq_true_eq]
    split
    · rfl
    · rfl

/-- A site does what some settings say: it answers for its own health, and each resource answers
under its name. -/
structure IsServedBy (s : Settings) (site : Site) : Prop where
  health : ∀ {m : Type → Type} [Monad m] (service : Service m) (req : Request),
    req.uri.path = mountPath healthName → req.method = "GET" ∨ req.method = "HEAD" →
      site.respond service req = (do
        let reply ← Api.health service
        return site.finish req reply)
  resource : ∀ r ∈ s.resources, ∃ resource, r.resource s.auth = .ok resource ∧
    ∀ {m : Type → Type} [Monad m] (service : Service m) (req : Request) (rest : String)
      (route : Route), req.uri.path = mountPath r.name ++ rest →
      Route.read? rest.toList = some route → req.method ≠ "OPTIONS" →
        site.respond service req = (do
          let reply ← resource.respond service.toRecordStore Api.bodyLimit route req
          return site.finish req reply)

/-- Distinct names lead to distinct resources, so each is found under its own. -/
theorem isServedBy_of_mounted {site : Site} (hs : s.WellNamed)
    (h : s.resources.mapM (fun r => r.mounted s.auth) = .ok site.resources) :
    s.IsServedBy site where
  health service req hpath hmethod := by
    have hother : req.method ≠ "OPTIONS" := by
      rcases hmethod with h | h <;> rw [h] <;> decide
    have hreads : (req.method = "GET" || req.method = "HEAD") = true := by simpa using hmethod
    rw [site.respond_of_destination hother, hpath, site.destination_health, Destination.answer,
      Api.readOnly, if_pos hreads]
  resource r hr := by
    obtain ⟨resource, hresource, hfound⟩ := ResourceSettings.resource?_of_mounted h hs.nodup hr
    have hother : r.name ≠ healthName := by
      obtain ⟨x, hx⟩ := exists_of_mapM h hr
      exact (ResourceSettings.resource_of_mounted hx).2.2
    refine ⟨resource, hresource, ?_⟩
    intro m _ service req rest route hpath hroute hmethod
    have hname := ne_separator_of_isName (hs.isName r hr)
    rw [site.respond_of_destination hmethod, hpath,
      site.destination_resource hname hother hfound hroute, Destination.answer]

theorem exists_mounted_of_rules (hnames : ∀ r ∈ s.resources, r.name ≠ healthName)
    {r : ResourceSettings} (hr : r ∈ s.resources) (hrules : r.HasReadableRules) :
    ∃ x, r.mounted s.auth = .ok x := by
  obtain ⟨resource, hresource⟩ := (r.exists_resource_iff s.auth).2 hrules
  refine ⟨(r.name, resource), ?_⟩
  rw [ResourceSettings.mounted_of_resource hresource, if_neg (hnames r hr)]

/-- No more is needed for a site that does what its settings say. -/
theorem site_of_rules (hs : s.WellNamed) (hnames : ∀ r ∈ s.resources, r.name ≠ healthName)
    (hrules : ∀ r ∈ s.resources, r.HasReadableRules)
    (horigins : everyOrigin ∉ s.server.origins) :
    ∃ site, s.site = .ok site ∧ s.IsServedBy site := by
  have hmounted : ∀ r ∈ s.resources, ∃ x, r.mounted s.auth = .ok x := by
    intro r hr
    exact exists_mounted_of_rules hnames hr (hrules r hr)
  obtain ⟨resources, hall⟩ := mapM_eq_ok hmounted
  refine ⟨{ resources, origins := Api.Origins.ofList s.server.origins }, ?_,
    isServedBy_of_mounted hs hall⟩
  rw [site_of_mounted hall, if_neg horigins]

/-- The first rule that cannot be read is reported, whatever the origins are. -/
theorem site_of_unreadable_rules (hnames : ∀ r ∈ s.resources, r.name ≠ healthName)
    (hrules : ¬∀ r ∈ s.resources, r.HasReadableRules) :
    ∃ before r after e, s.resources = before ++ r :: after ∧
      (∀ x ∈ before, x.HasReadableRules) ∧ r.resource s.auth = .error e ∧
      s.site = .error (.invalidRules r.name e) := by
  rcases forall_ok_or_first_error (fun r => r.resource s.auth) s.resources with
    hall | ⟨before, r, after, e, hresources, hbefore, he⟩
  · exact absurd (fun r hr => (r.exists_resource_iff s.auth).1 (hall r hr)) hrules
  · have hreadable : ∀ x ∈ before, x.HasReadableRules := by
      intro x hx
      exact (x.exists_resource_iff s.auth).1 (hbefore x hx)
    refine ⟨before, r, after, e, hresources, hreadable, he, site_of_unmounted ?_⟩
    rw [hresources]
    refine mapM_eq_error after ?_ (ResourceSettings.mounted_of_error he)
    intro x hx
    have hmem : x ∈ s.resources := hresources ▸ List.mem_append_left _ hx
    exact exists_mounted_of_rules hnames hmem (hreadable x hx)

end Settings

/-- The ends of building that are no answer: two handlers meet, or a list names every origin. -/
def SiteError.IsAbort : SiteError → Prop
  | invalidRules _ _ => False
  | reservedName _ | wildcardOrigin => True

/-- Readable rules are looked at first, so it is the routes or the origins that end the building. -/
theorem Settings.site_aborts {s : Settings} (hrules : ∀ r ∈ s.resources, r.HasReadableRules)
    (h : (∃ r ∈ s.resources, r.name = healthName) ∨ everyOrigin ∈ s.server.origins) :
    ∃ e, s.site = .error e ∧ e.IsAbort := by
  rcases forall_ok_or_first_error (fun r => r.mounted s.auth) s.resources with
    hall | ⟨before, r, after, e, hresources, hbefore, he⟩
  · -- every resource is built, so none has the reserved name
    have horigins : everyOrigin ∈ s.server.origins := by
      refine h.resolve_left ?_
      rintro ⟨r, hr, hname⟩
      obtain ⟨x, hx⟩ := hall r hr
      exact (ResourceSettings.resource_of_mounted hx).2.2 hname
    obtain ⟨resources, hall⟩ := mapM_eq_ok hall
    refine ⟨.wildcardOrigin, ?_, trivial⟩
    rw [site_of_mounted hall, if_pos horigins]
  · have hr : r ∈ s.resources := hresources ▸ List.mem_append_right _ List.mem_cons_self
    have habort : e.IsAbort := by
      obtain ⟨resource, hresource⟩ := (r.exists_resource_iff s.auth).2 (hrules r hr)
      rw [ResourceSettings.mounted_of_resource hresource] at he
      split at he
      · obtain rfl := Except.error.inj he
        trivial
      · cases he
    refine ⟨e, site_of_unmounted ?_, habort⟩
    rw [hresources]
    exact mapM_eq_error after hbefore he

/-- Accepted settings whose handlers do not meet and whose origins do not name every origin give a
site that serves them all, or else the first rule that cannot be read; with rules that can be read,
all others end in an abort. -/
theorem site_of_accepted_settings {l : Location} {o : Overrides} {d : Document} {s : Settings}
    (h : (resolve l o d).result = .ok s) :
    (s.handlers.Nodup ↔ ∀ r ∈ s.resources, r.name ≠ healthName) ∧
    (s.handlers.Nodup →
      ((∀ r ∈ s.resources, r.HasReadableRules) → everyOrigin ∉ s.server.origins →
        ∃ site, s.site = .ok site ∧ s.IsServedBy site) ∧
      ((¬∀ r ∈ s.resources, r.HasReadableRules) →
        ∃ before r after e, s.resources = before ++ r :: after ∧
          (∀ x ∈ before, x.HasReadableRules) ∧ r.resource s.auth = .error e ∧
          s.site = .error (.invalidRules r.name e))) ∧
    ((∀ r ∈ s.resources, r.HasReadableRules) →
      ¬s.handlers.Nodup ∨ everyOrigin ∈ s.server.origins →
        ∃ e, s.site = .error e ∧ e.IsAbort) := by
  have hs := wellNamed_of_resolve h
  have hhandlers := nodup_handlers_iff hs
  refine ⟨hhandlers, ?_, ?_⟩
  · intro hnodup
    have hnames := hhandlers.1 hnodup
    exact ⟨Settings.site_of_rules hs hnames, Settings.site_of_unreadable_rules hnames⟩
  · intro hrules hcollides
    refine Settings.site_aborts hrules (hcollides.imp_left ?_)
    intro hnodup
    by_contra hnone
    exact hnodup (hhandlers.2 fun r hr hname => hnone ⟨r, hr, hname⟩)

/-- A file with one resource that has rules, open to the pages of one origin. -/
def postsDocument : Document :=
  { server := { origins := ["http://localhost:3000"] },
    resources := [{
      name := "posts",
      rules := { create := [("title", .str "required|string")] } }] }

theorem site_of_postsDocument :
    ∃ s, (resolve { directory := "/" } {} postsDocument).result = .ok s ∧
      ∃ site, s.site = .ok site ∧ s.IsServedBy site := by
  refine ⟨_, rfl, ?_⟩
  have hbuilds := site_of_accepted_settings
    (show (resolve { directory := "/" } {} postsDocument).result = .ok _ from rfl)
  refine (hbuilds.2.1 (by decide +kernel)).1 ?_ (by decide)
  intro r hr
  obtain rfl := List.mem_singleton.1 hr
  exact ⟨⟨[("title", [.required, .string])], rfl⟩, [], rfl⟩

/-- A resource may be named like the health of the site, and a list of origins may name every
origin: the settings are accepted and every rule can be read, but no site is built. -/
theorem accepted_settings_abort :
    (∃ s, (resolve { directory := "/" } {} { resources := [{ name := "health" }] }).result = .ok s ∧
      (∀ r ∈ s.resources, r.HasReadableRules) ∧ s.site = .error (.reservedName "health")) ∧
    (∃ s, (resolve { directory := "/" } {} { server := { origins := ["*"] } }).result = .ok s ∧
      (∀ r ∈ s.resources, r.HasReadableRules) ∧ s.site = .error .wildcardOrigin) := by
  refine ⟨⟨_, rfl, ?_, rfl⟩, _, rfl, ?_, rfl⟩
  · intro r hr
    obtain rfl := List.mem_singleton.1 hr
    exact ⟨⟨[], rfl⟩, [], rfl⟩
  · intro r hr
    cases hr

end TableApi.Config
