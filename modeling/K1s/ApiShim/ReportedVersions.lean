import K1s.ApiShim.ShownVersions

/-!
# Histories in which versions are reported

A client may put a version into the metadata of a document, most easily by sending
back what it has read: the metadata are stored with it.  A request keeps all rows
fresh exactly when the document that it stores carries no other version than the one
that it is stored under.
-/

namespace K1s
namespace ApiShim

open Py Program Machine

/-! ## The versions in the documents of requests -/

section Requests

variable (handler : ShimHandler) (outside : ShimOutside) (token : String)
variable (cached : Option Principal) (world : ShimWorld)
variable (given : Gvr → Option Json → Prop)

/-- The document that a branch stores carries a version of this sort. -/
def DocRule.Carries (rule : DocRule) (doc : Json) : Prop :=
  ∃ entries target spec, rule.checked doc = .ok (entries, target) ∧ rule.spec entries = some spec ∧
    given rule.gvr (carriedVersion rule.gvr (.dict target.metadata) spec)

/-- So does that of a `PUT`.  For the scale of a deployment the stored metadata
count. -/
def PutCarries (path : String) (doc : Json) : Prop :=
  match putRoute world.crds path with
  | none => False
  | some (.document rule) => rule.Carries given doc
  | some (.scale ns name) =>
      ∃ object, world.store.get deploymentsResource ns name = some object ∧
        given deploymentsResource (carriedVersion deploymentsResource object.metadata object.spec)

/-- The document of a new core object carries a version of this sort. -/
def CoreCarries (path : PathName) (doc : Json) : Prop :=
  ∃ entries md, doc = .dict entries ∧ (Dict.get entries "metadata").or (.dict []) = .dict md ∧
    given ⟨"", "v1", path.plural⟩
      (carriedVersion ⟨"", "v1", path.plural⟩ (.dict md) (coreSpec path.plural entries))

def PostCarries (path : String) (doc : Json) : Prop :=
  match postRoute world.crds path with
  | none => False
  | some (.core path) => CoreCarries given path doc
  | some (.document rule) => rule.Carries given doc

/-- The patched form of a stored object carries a version of this sort. -/
def PatchRoute.Carries
    (request : PatchRequest) (now : String)
    (object : K8sObject) : PatchRoute → Prop
  | .core path =>
      ∃ base merged md, toObj object = some base ∧ request.merged base.entries = .ok merged ∧
        request.metadata "v1" now object.metadata
          (mergedMetadata (coreRule path).secret merged) = .ok md ∧
        given ⟨"", "v1", path.plural⟩ (carriedVersion ⟨"", "v1", path.plural⟩ (.dict md)
          ((coreSpec path.plural merged).or (.dict [])))
  | .custom path crd =>
      ∃ base merged md, renderCustomResource crd.kind object = some base ∧
        request.merged base.entries = .ok merged ∧
        (Dict.get merged "metadata").or (.dict []) = .dict md ∧
        given ⟨path.group, path.version, path.target.plural⟩
          (carriedVersion ⟨path.group, path.version, path.target.plural⟩ (.dict md)
            (plainSpec merged))
  | .extended kind _ =>
      ∃ base after merged md injected, runAlone (ShimOp.execute outside)
          (kind.shown object) world = (some base, after) ∧
        request.merged base.entries = .ok merged ∧
        request.metadata (apiVersion kind.gvr) now object.metadata
          ((Dict.get merged "metadata").or (.dict [])) = .ok md ∧
        kind.injected merged = some injected ∧
        given kind.gvr (carriedVersion kind.gvr (.dict md)
          (specPayload kind.gvr.resource injected))

/-- The document of an object that a patch creates carries a version of this sort. -/
def PatchRoute.CarriesNew (request : PatchRequest) (now : String) : PatchRoute → Prop
  | .extended kind _ =>
      ∃ merged entries md injected, request.merged [] = .ok merged ∧
        (Dict.get merged "metadata").or (.dict []) = .dict entries ∧
        request.appliedMetadata (apiVersion kind.gvr) now entries = some md ∧
        kind.injected merged = some injected ∧
        given kind.gvr (carriedVersion kind.gvr (.dict md)
          (specPayload kind.gvr.resource injected))
  | _ => False

def PatchCarries (path : String) (request : PatchRequest) : Prop :=
  ∃ route, patchRoute world.crds path = some route ∧
    match route.name.bind fun name => world.store.get route.gvr route.ns name with
    | some object =>
        route.Carries outside { world with calls := world.calls + 1 } given request
          (outside.timestamps world.calls) object
    | none => route.CarriesNew given request (outside.timestamps world.calls)

def BodyCarries (request : Request) (doc : Json) : Prop :=
  match request.method with
  | .put => PutCarries world given request.path doc
  | .patch => PatchCarries outside world given request.path (request.asPatch doc)
  | .post => PostCarries world given request.path doc
  | .get | .delete => False

/-- The service account that a `GET` reads carries a version of this sort. -/
def GetCarries (path : String) : Prop :=
  ∃ ns name object, accountPath path = some (ns, name) ∧
    world.store.get serviceAccountsResource ns name = some object ∧
    given serviceAccountsResource
      (carriedVersion serviceAccountsResource object.metadata object.spec)

/-- A request stores a document that carries a version of this sort, or gives a new
token to a service account that does. -/
def RequestCarries (request : Request) : Prop :=
  (∃ cached entered doc, runAlone (ShimOp.execute outside)
      (authz handler request.gateRole request.token) world = (some (some cached), entered) ∧
    request.document handler = some doc ∧
    BodyStores handler outside cached entered request doc (fun _ => True) ∧
    BodyCarries outside entered given request doc) ∨
  request.method = .get ∧ publicPaths.contains request.path = false ∧
    ∃ cached entered, runAlone (ShimOp.execute outside)
        (authz handler (getRole request) request.token) world = (some (some cached), entered) ∧
      GetStores handler outside request.token cached entered request.path (fun _ => True) ∧
      GetCarries entered given request.path

end Requests

section Carries

variable {handler : ShimHandler} {outside : ShimOutside} {token : String}
variable {cached : Option Principal} {world : ShimWorld}
variable {given : Gvr → Option Json → Prop}

/-- What is stored carries a version of this sort. -/
def Write.Carries (given : Gvr → Option Json → Prop) (write : Write) : Prop :=
  given write.gvr (carriedVersion write.gvr write.metadata write.spec)

theorem carriedVersion_congr
    {first second : Dict}
    (same : Dict.find? first "resourceVersion" = Dict.find? second "resourceVersion")
    (gvr : Gvr) (spec : Json) :
    carriedVersion gvr (.dict first) spec = carriedVersion gvr (.dict second) spec := by
  unfold carriedVersion
  cases overlaidMetadata gvr spec with
  | some md => rfl
  | none => exact same

theorem carries_of_targetWrite
    {gvr : Gvr} {target : Target} {spec status : Json} {write : Write}
    (made : target.write handler gvr spec status = some write) :
    write.Carries given ↔ given gvr (carriedVersion gvr (.dict target.metadata) spec) := by
  obtain ⟨kind, content, -, metadata⟩ := eq_of_targetWrite made
  have kept := find?_normalizeMetadata handler target.metadata target.name target.ns
    gvr.resource "resourceVersion" (by decide)
  rw [Write.Carries, kind, content, metadata, carriedVersion_congr kept]

theorem docRule_stores_iff (rule : DocRule) (doc : Json) :
    rule.Stores handler outside token cached world doc (Write.Carries given) ↔
      rule.Stores handler outside token cached world doc (fun _ => True) ∧
        rule.Carries given doc := by
  constructor
  · rintro ⟨entries, target, write, checked, allowed, made, carries⟩
    obtain ⟨spec, status, payload, -, stored⟩ := made_of_docRuleWrite made
    exact ⟨⟨entries, target, write, checked, allowed, made, trivial⟩,
      entries, target, spec, checked, payload, (carries_of_targetWrite stored).mp carries⟩
  · rintro ⟨⟨entries, target, write, checked, allowed, made, -⟩,
      _, _, spec, again, payload, carries⟩
    obtain ⟨rfl, rfl⟩ := Prod.mk.inj (Except.ok.inj (checked.symm.trans again))
    obtain ⟨_, status, same, -, stored⟩ := made_of_docRuleWrite made
    obtain rfl := Option.some.inj (payload.symm.trans same)
    exact ⟨entries, target, write, checked, allowed, made,
      (carries_of_targetWrite stored).mpr carries⟩

theorem putStores_carries_iff (path : String) (doc : Json) :
    PutStores handler outside token cached world path doc (Write.Carries given) ↔
      PutStores handler outside token cached world path doc (fun _ => True) ∧
        PutCarries world given path doc := by
  unfold PutStores PutCarries
  rcases putRoute world.crds path with _ | rule | ⟨ns, name⟩
  · simp
  · exact docRule_stores_iff rule doc
  · have carries : ∀ object write, scaleWrite ns name doc object = .ok write →
        (write.Carries given ↔ given deploymentsResource
          (carriedVersion deploymentsResource object.metadata object.spec)) := by
      intro object write made
      obtain ⟨kind, -, -, metadata⟩ := eq_of_scaleWrite made
      have other : deploymentsResource ≠ serviceAccountsResource := by decide
      simp only [Write.Carries, kind, metadata, carriedVersion_of_ne other]
    constructor
    · rintro ⟨object, write, found, made, holds⟩
      exact ⟨⟨object, write, found, made, trivial⟩, object, found,
        (carries object write made).mp holds⟩
    · rintro ⟨⟨object, write, found, made, -⟩, _, again, holds⟩
      obtain rfl := Option.some.inj (found.symm.trans again)
      exact ⟨object, write, found, made, (carries object write made).mpr holds⟩

/-- A token is put into the annotations only. -/
theorem find?_coreMetadata
    {plural name : String} {md stamped : Dict} {ns : Json} {after : ShimWorld}
    (ran : runAlone (ShimOp.execute outside) (coreMetadata handler plural md ns name) world =
      (some stamped, after))
    {key : String}
    (other : key ≠ "annotations") : Dict.find? stamped key = Dict.find? md key := by
  unfold coreMetadata at ran
  split at ran
  · have leads : Leads (ShimOp.execute outside) (fun found _ => found = stamped)
        (withSaToken handler md ns name) world :=
      (leads_iff_runAlone _ _ _).mpr ⟨stamped, after, ran, rfl⟩
    simp only [withSaToken, bind_eq, pure_eq, leads_andThen, leads_done] at leads
    obtain ⟨annotations, later, -, rfl⟩ := (leads_iff_runAlone _ _ _).mp leads
    rw [Dict.find?_set_of_ne _ _ other, Dict.find?_setdefault_of_ne _ _ other]
  · simp only [runAlone_done, Prod.mk.injEq, Option.some.injEq] at ran
    rw [ran.1]

/-- The write for a new core object carries what its document does. -/
theorem carries_of_writeContent
    {path : PathName} {entries md stamped : Dict} {name : String} {named after : ShimWorld}
    {write : Write}
    (ran : runAlone (ShimOp.execute outside)
      (coreMetadata handler path.plural (createdMd path entries md) (createdNs path md) name)
      named = (some stamped, after))
    (made : writeContent handler ⟨"", "v1", path.plural⟩
      ⟨stamped, .str name, createdNs path md⟩
      (createdContent handler outside after path.plural (createdNs path md) name entries) =
        .ok write) :
    write.Carries given ↔ given ⟨"", "v1", path.plural⟩
      (carriedVersion ⟨"", "v1", path.plural⟩ (.dict md) (coreSpec path.plural entries)) := by
  have kept : Dict.find? stamped "resourceVersion" = Dict.find? md "resourceVersion" := by
    rw [find?_coreMetadata ran (by decide), createdMd]
    split
    · exact find?_setSecretType md _ (by decide)
    · rfl
  cases content : createdContent handler outside after path.plural (createdNs path md) name
      entries with
  | error refusal =>
      rw [content] at made
      cases made
  | ok parts =>
      obtain ⟨spec, status⟩ := parts
      rw [content] at made
      rw [carries_of_targetWrite (ok_of_orRaise made), carriedVersion_congr kept]
      by_cases account : path.plural = "serviceaccounts"
      · simp only [createdContent, account, String.reduceEq, if_false, Except.ok.injEq,
          Prod.mk.injEq] at content
        rw [account, content.1]
      · have other : (⟨"", "v1", path.plural⟩ : Gvr) ≠ serviceAccountsResource := by
          simpa [serviceAccountsResource] using account
        rw [carriedVersion_of_ne other, carriedVersion_of_ne other]

theorem coreStores_carries_iff (path : PathName) (doc : Json) :
    CoreStores handler outside world path doc (Write.Carries given) ↔
      CoreStores handler outside world path doc (fun _ => True) ∧ CoreCarries given path doc := by
  constructor
  · rintro ⟨entries, md, name, named, same, metadata, ran, nonempty, valid, placed, stamped,
      after, write, stamps, made, carries⟩
    exact ⟨⟨entries, md, name, named, same, metadata, ran, nonempty, valid, placed, stamped,
      after, write, stamps, made, trivial⟩, entries, md, same, metadata,
      (carries_of_writeContent stamps made).mp carries⟩
  · rintro ⟨⟨entries, md, name, named, same, metadata, ran, nonempty, valid, placed, stamped,
      after, write, stamps, made, -⟩, _, _, again, given, carries⟩
    obtain rfl := Json.dict.inj (same.symm.trans again)
    obtain rfl := Json.dict.inj (metadata.symm.trans given)
    exact ⟨entries, md, name, named, same, metadata, ran, nonempty, valid, placed, stamped,
      after, write, stamps, made, (carries_of_writeContent stamps made).mpr carries⟩

theorem postStores_carries_iff (path : String) (doc : Json) :
    PostStores handler outside token cached world path doc (Write.Carries given) ↔
      PostStores handler outside token cached world path doc (fun _ => True) ∧
        PostCarries world given path doc := by
  unfold PostStores PostCarries
  rcases postRoute world.crds path with _ | path | rule
  · simp
  · exact coreStores_carries_iff path doc
  · exact docRule_stores_iff rule doc

theorem patchRoute_stores_carries_iff
    (request : PatchRequest) (now : String) (object : K8sObject) (route : PatchRoute) :
    route.Stores handler outside world request now object (Write.Carries given) ↔
      route.Stores handler outside world request now object (fun _ => True) ∧
        route.Carries outside world given request now object := by
  cases route with
  | core path =>
      constructor
      · rintro ⟨write, made, carries⟩
        obtain ⟨base, merged, md, shown, patched, metadata, stored⟩ := made_of_corePatch made
        exact ⟨⟨write, made, trivial⟩, base, merged, md, shown, patched, metadata,
          (carries_of_targetWrite stored).mp carries⟩
      · rintro ⟨⟨write, made, -⟩, base, merged, md, shown, patched, metadata, carries⟩
        obtain ⟨_, _, _, again, alike, same, stored⟩ := made_of_corePatch made
        obtain rfl := Option.some.inj (shown.symm.trans again)
        obtain rfl := Except.ok.inj (patched.symm.trans alike)
        obtain rfl := Except.ok.inj (metadata.symm.trans same)
        exact ⟨write, made, (carries_of_targetWrite stored).mpr carries⟩
  | custom path crd =>
      constructor
      · rintro ⟨write, made, carries⟩
        obtain ⟨base, merged, md, shown, patched, metadata, stored⟩ := made_of_customPatch made
        exact ⟨⟨write, made, trivial⟩, base, merged, md, shown, patched, metadata,
          (carries_of_targetWrite stored).mp carries⟩
      · rintro ⟨⟨write, made, -⟩, base, merged, md, shown, patched, metadata, carries⟩
        obtain ⟨_, _, _, again, alike, same, stored⟩ := made_of_customPatch made
        obtain rfl := Option.some.inj (shown.symm.trans again)
        obtain rfl := Except.ok.inj (patched.symm.trans alike)
        obtain rfl := Json.dict.inj (metadata.symm.trans same)
        exact ⟨write, made, (carries_of_targetWrite stored).mpr carries⟩
  | extended kind path =>
      constructor
      · rintro ⟨base, after, write, shown, made, carries⟩
        obtain ⟨merged, md, injected, patched, metadata, projected, stored⟩ :=
          made_of_extendedPatch made
        exact ⟨⟨base, after, write, shown, made, trivial⟩, base, after, merged, md, injected,
          shown, patched, metadata, projected, (carries_of_targetWrite stored).mp carries⟩
      · rintro ⟨⟨base, after, write, shown, made, -⟩, _, _, merged, md, injected, again,
          patched, metadata, projected, carries⟩
        obtain ⟨equal, rfl⟩ := Prod.mk.inj (shown.symm.trans again)
        obtain rfl := Option.some.inj equal
        obtain ⟨_, _, _, alike, same, likewise, stored⟩ := made_of_extendedPatch made
        obtain rfl := Except.ok.inj (patched.symm.trans alike)
        obtain rfl := Except.ok.inj (metadata.symm.trans same)
        obtain rfl := Option.some.inj (projected.symm.trans likewise)
        exact ⟨base, after, write, shown, made, (carries_of_targetWrite stored).mpr carries⟩

theorem patchRoute_create_carries_iff
    (request : PatchRequest) (now : String) (route : PatchRoute) :
    (∃ write, route.create handler request now = .ok write ∧ write.Carries given) ↔
      (∃ write, route.create handler request now = .ok write ∧ True) ∧
        route.CarriesNew given request now := by
  cases route with
  | core path => simp [PatchRoute.create]
  | custom path crd => simp [PatchRoute.create]
  | extended kind path =>
      simp only [PatchRoute.create, PatchRoute.CarriesNew]
      split
      · constructor
        · rintro ⟨write, made, carries⟩
          obtain ⟨merged, entries, md, injected, patched, metadata, applied, projected,
            stored⟩ := made_of_applyNew made
          exact ⟨⟨write, made, trivial⟩, merged, entries, md, injected, patched, metadata,
            applied, projected, (carries_of_targetWrite stored).mp carries⟩
        · rintro ⟨⟨write, made, -⟩, merged, entries, md, injected, patched, metadata, applied,
            projected, carries⟩
          obtain ⟨_, _, _, _, alike, same, likewise, equally, stored⟩ := made_of_applyNew made
          obtain rfl := Except.ok.inj (patched.symm.trans alike)
          obtain rfl := Json.dict.inj (metadata.symm.trans same)
          obtain rfl := Option.some.inj (applied.symm.trans likewise)
          obtain rfl := Option.some.inj (projected.symm.trans equally)
          exact ⟨write, made, (carries_of_targetWrite stored).mpr carries⟩
      · simp

theorem patchStores_carries_iff (path : String) (request : PatchRequest) :
    PatchStores handler outside world path request (Write.Carries given) ↔
      PatchStores handler outside world path request (fun _ => True) ∧
        PatchCarries outside world given path request := by
  unfold PatchStores PatchCarries
  rcases patchRoute world.crds path with _ | route
  · simp
  · simp only [Option.some.injEq, exists_eq_left']
    cases route.name.bind fun name => world.store.get route.gvr route.ns name with
    | some object => exact patchRoute_stores_carries_iff request _ object route
    | none => exact patchRoute_create_carries_iff request _ route

/-- A new token is put into the annotations only. -/
theorem find?_refreshSaToken
    {ns : Option String} {name : String} {object : K8sObject} {md : Json} {after : ShimWorld}
    (ran : runAlone (ShimOp.execute outside) (refreshSaToken handler ns name object) world =
      (some (some md), after)) :
    ∃ entries, md = .dict entries ∧ ∀ key, key ≠ "annotations" →
      Dict.find? entries key = Dict.find? object.metadata.entries key := by
  have leads : Leads (ShimOp.execute outside) (fun found _ => found = some md)
      (refreshSaToken handler ns name object) world :=
    (leads_iff_runAlone _ _ _).mpr ⟨some md, after, ran, rfl⟩
  unfold refreshSaToken at leads
  simp only [bind_eq, pure_eq, leads_andThen, leads_ofOption] at leads
  obtain ⟨stored, read, leads⟩ := leads
  split at leads
  · simp only [leads_andThen, leads_ofOption] at leads
    obtain ⟨exp, -, leads⟩ := leads
    obtain ⟨stale, later, -, leads⟩ := (leads_iff_runAlone _ _ _).mp leads
    cases stale with
    | false => simp at leads
    | true =>
        simp only [if_true, leads_andThen, leads_shimNow, leads_done] at leads
        obtain ⟨token, issued, -, same⟩ := (leads_iff_runAlone _ _ _).mp leads
        obtain rfl := Option.some.inj same
        refine ⟨_, rfl, fun key other => ?_⟩
        rw [Dict.find?_set_of_ne _ _ other, Dict.find?_setdefault_of_ne _ _ other,
          entries_of_dictOf read]
  · exact leads.elim

theorem getStores_carries_iff (path : String) :
    GetStores handler outside token cached world path (Write.Carries given) ↔
      GetStores handler outside token cached world path (fun _ => True) ∧
        GetCarries world given path := by
  have refreshed : ∀ (ns : Option String) name object md (allowed after : ShimWorld),
      runAlone (ShimOp.execute outside) (refreshSaToken handler ns name object) allowed =
        (some (some md), after) →
      (Write.Carries given ⟨serviceAccountsResource, ns, name, md, object.spec, object.status⟩ ↔
        given serviceAccountsResource
          (carriedVersion serviceAccountsResource object.metadata object.spec)) := by
    intro ns name object md allowed after ran
    obtain ⟨entries, rfl, kept⟩ := find?_refreshSaToken ran
    unfold Write.Carries carriedVersion
    cases overlaidMetadata serviceAccountsResource object.spec with
    | some overlaid => rfl
    | none =>
        dsimp only
        rw [← kept "resourceVersion" (by decide)]
        rfl
  constructor
  · rintro ⟨ns, name, allowed, object, md, after, addressed, passed, found, ran, carries⟩
    exact ⟨⟨ns, name, allowed, object, md, after, addressed, passed, found, ran, trivial⟩,
      ns, name, object, addressed, found, (refreshed _ _ _ _ _ _ ran).mp carries⟩
  · rintro ⟨⟨ns, name, allowed, object, md, after, addressed, passed, found, ran, -⟩,
      _, _, _, again, alike, carries⟩
    obtain ⟨rfl, rfl⟩ := Prod.mk.inj (Option.some.inj (addressed.symm.trans again))
    obtain rfl := Option.some.inj (found.symm.trans alike)
    exact ⟨ns, name, allowed, object, md, after, addressed, passed, found, ran,
      (refreshed _ _ _ _ _ _ ran).mpr carries⟩

theorem requestStores_carries_iff (request : Request) :
    RequestStores handler outside world request (Write.Carries given) ↔
      RequestCarries handler outside world given request := by
  have body : ∀ cached entered doc,
      BodyStores handler outside cached entered request doc (Write.Carries given) ↔
        BodyStores handler outside cached entered request doc (fun _ => True) ∧
          BodyCarries outside entered given request doc := by
    intro cached entered doc
    unfold BodyStores BodyCarries
    cases request.method with
    | get => simp
    | delete => simp
    | put => exact putStores_carries_iff request.path doc
    | patch => exact patchStores_carries_iff request.path (request.asPatch doc)
    | post => simp only [postStores_carries_iff, and_assoc]
  simp only [RequestStores, RequestCarries, body, getStores_carries_iff]

end Carries

/-! ## Histories of requests -/

def shimStep (handler : ShimHandler) (outside : ShimOutside) (world : ShimWorld)
    (request : Request) : Option ShimWorld :=
  some (afterRequest handler outside request world)

def ObjectStore.FreshRows (store : ObjectStore) : Prop :=
  ∀ key row, store.row? key = some row → row.Fresh key

/-- Every stored object is shown with its version, by whatever response, and
whatever else is read for it. -/
def ReportsVersions (world : ShimWorld) : Prop :=
  ∀ key row o found reads outside doc after, world.store.row? key = some row →
    row.ReturnedAs key o → ShownBy world.crds key.gvr found →
    ¬ Shadowed world.crds key.gvr →
    runAlone (ShimOp.execute outside) (found.render reads world.store o) world =
      (some doc, after) →
    reportedVersion doc = .str (toString row.rv)

/-- Objects that are still stored have been left alone, or have got another version. -/
def RenewsVersions (before after : ObjectStore) : Prop :=
  ∀ key old new, before.row? key = some old → after.row? key = some new →
    new = old ∨ (.str (toString old.rv) : Json) ≠ .str (toString new.rv)

/-- The version that a document carries is not the one that it will be stored
under. -/
def Misreports (world : ShimWorld) (gvr : Gvr) (carried : Option Json) : Prop :=
  ¬ Reports world.store.nextRv gvr carried

section Histories

variable {handler : ShimHandler} {outside : ShimOutside}

theorem ObjectStore.FreshRows.reports {world : ShimWorld} (fresh : world.store.FreshRows) :
    ReportsVersions world := by
  intro key row o found reads outside doc after stored returned rendered plain ran
  exact (reportedVersion_eq_iff returned rendered plain ran).mpr (fresh key row stored)

/-- A request keeps all rows fresh exactly when its document does not carry another
version than the one that it is stored under. -/
theorem freshRows_afterRequest_iff
    {request : Request} {world : ShimWorld} (fresh : world.store.FreshRows) :
    (afterRequest handler outside request world).store.FreshRows ↔
      ¬ RequestCarries handler outside world (Misreports world) request := by
  refine (forall_rows_afterRequest_iff fresh).trans (not_congr ?_)
  rw [leads_stores_iff, ← requestStores_carries_iff]
  rfl

/-- The same along histories. -/
theorem freshRows_along_iff
    {start : ShimWorld} (fresh : start.store.FreshRows) (requests : List Request) :
    Along (shimStep handler outside)
        (fun world request => (afterRequest handler outside request world).store.FreshRows)
        start requests ↔
      Along (shimStep handler outside)
        (fun world request => ¬ RequestCarries handler outside world (Misreports world) request)
        start requests := by
  have preserves : ∀ (world : ShimWorld) request next, world.store.FreshRows →
      (afterRequest handler outside request world).store.FreshRows →
      shimStep handler outside world request = some next → next.store.FreshRows := by
    intro world request next _ kept stepped
    obtain rfl := Option.some.inj stepped
    exact kept
  exact along_iff_of_step preserves (fun world request held => freshRows_afterRequest_iff held)
    fresh requests

/-- A stored object gets a greater version with every write. -/
theorem renewsVersions_afterRequest (request : Request) (world : ShimWorld) :
    RenewsVersions world.store (afterRequest handler outside request world).store := by
  intro key old new before after
  rcases afterRequest_cases handler outside request world with ⟨write, -, takes⟩ | ⟨-, within⟩
  · by_cases same : key = write.key
    · subst same
      obtain rfl := Option.some.inj (takes.row?_self.symm.trans after)
      refine .inr fun equal => ?_
      have versions := Nat.repr_injective (Json.str.inj equal)
      exact absurd versions (Nat.ne_of_lt (ObjectStore.rv_lt_nextRv before))
    · rw [takes.row?_of_ne same, before] at after
      exact .inl (Option.some.inj after).symm
  · exact .inl (Option.some.inj ((within key new after).symm.trans before))

/-- In every history whose documents carry no other version than the one that they
are stored under, every stored object is shown with its version after every request,
and every write changes it. -/
theorem reportsVersions_along
    {start : ShimWorld} {requests : List Request} (fresh : start.store.FreshRows)
    (carried : Along (shimStep handler outside)
      (fun world request => ¬ RequestCarries handler outside world (Misreports world) request)
      start requests) :
    Along (shimStep handler outside) (fun world request =>
        ReportsVersions (afterRequest handler outside request world) ∧
          RenewsVersions world.store (afterRequest handler outside request world).store)
      start requests := by
  refine ((freshRows_along_iff fresh requests).mpr carried).weaken ?_
  intro world request kept
  exact ⟨kept.reports, renewsVersions_afterRequest request world⟩

end Histories

/-! ## A secret that is overwritten and one that is sent back -/

/-- Whether the document that a branch stores carries no version. -/
def PutRoute.carriesNone (doc : Json) : PutRoute → Bool
  | .document rule =>
      match rule.checked doc with
      | .ok (_, target) =>
          decide (rule.gvr ≠ serviceAccountsResource) && fillsVersion rule.gvr &&
            !Dict.has target.metadata "resourceVersion"
      | .error _ => true
  | .scale _ _ => false

theorem freshRows_dbSecret : dbSecret.store.FreshRows := by
  intro key row stored
  rw [dbSecret, ObjectStore.row?_upsert] at stored
  split at stored
  · next same =>
      subst same
      obtain rfl := Option.some.inj stored
      exact .inr ⟨by decide +kernel, by decide +kernel⟩
  · simp at stored

/-- A `PUT` of a document without a version keeps to the condition. -/
theorem reportsVersions_overwriteSecret :
    Along (shimStep openHandler stillOutside) (fun world request =>
        ReportsVersions (afterRequest openHandler stillOutside request world) ∧
          RenewsVersions world.store (afterRequest openHandler stillOutside request world).store)
      dbSecret [overwriteSecret] := by
  refine reportsVersions_along freshRows_dbSecret ⟨?_, fun _ _ => trivial⟩
  rintro (⟨cached, entered, doc, passed, given, -, carries⟩ | ⟨get, -⟩)
  · have bare : (overwriteSecret.document openHandler).all (fun doc =>
        (putRoute dbSecret.crds overwriteSecret.path).all (PutRoute.carriesNone doc)) = true := by
      decide +kernel
    have crds : entered.crds = dbSecret.crds := crds_of_authz passed
    have carries : PutCarries entered (Misreports dbSecret) overwriteSecret.path doc := carries
    unfold PutCarries at carries
    rw [given, Option.all_some] at bare
    rw [crds] at carries
    cases routed : putRoute dbSecret.crds overwriteSecret.path with
    | none => simp [routed] at carries
    | some route =>
        rw [routed] at bare carries
        cases route with
        | scale ns name => simp [PutRoute.carriesNone] at bare
        | document rule =>
            obtain ⟨entries, target, spec, checked, -, misreports⟩ := carries
            simp only [Option.all_some, PutRoute.carriesNone, checked, Bool.and_eq_true,
              decide_eq_true_eq, Bool.not_eq_true', Dict.has] at bare
            obtain ⟨⟨other, fills⟩, none⟩ := bare
            refine misreports (.inr ⟨?_, fills⟩)
            rw [carriedVersion_of_ne other]
            exact Option.not_isSome_iff_eq_none.mp (by simp [Json.entries, none])
  · cases get

/-- The secret as a `GET` returns it, sent back unchanged. -/
def putBack : Request :=
  readerRequest .put "/api/v1/namespaces/default/secrets/db"
    ("\x7b\"apiVersion\": \"v1\", \"kind\": \"Secret\", \"metadata\": \x7b\"name\": \"db\"," ++
      " \"namespace\": \"default\", \"resourceVersion\": \"1\"\x7d," ++
      " \"data\": \x7b\"password\": \"czNjcmV0\"\x7d\x7d")

/-- A secret is sent back as it was read, and is then shown with the version that it
had before. -/
theorem not_reportsVersions_putBack :
    dbSecret.store.FreshRows ∧ ¬ Along (shimStep openHandler stillOutside) (fun world request =>
          ReportsVersions (afterRequest openHandler stillOutside request world))
        dbSecret [putBack] := by
  refine ⟨freshRows_dbSecret, fun along => ?_⟩
  have shown : ((afterRequest openHandler stillOutside putBack dbSecret).store.row?
      ⟨⟨"", "v1", "secrets"⟩, "default", "db"⟩).any (fun row => decide (row.rv = 2) &&
        (toObj (row.object ⟨⟨"", "v1", "secrets"⟩, "default", "db"⟩)).any fun doc =>
          decide (reportedVersion doc = .str "1")) = true := by
    decide +kernel
  obtain ⟨row, stored, shown⟩ := (Option.any_eq_true _ _).mp shown
  simp only [Bool.and_eq_true, decide_eq_true_eq, Option.any_eq_true] at shown
  obtain ⟨version, doc, made, stale⟩ := shown
  have reported := along.1 _ row _ .object blankState stillOutside doc
    (afterRequest openHandler stillOutside putBack dbSecret) stored ⟨rfl, rfl, rfl, rfl⟩
    (.inl rfl) (fun shadowed => absurd shadowed.1 (by decide))
    (by rw [Renderer.render, runAlone_ofOption, made])
  rw [stale, version] at reported
  exact absurd reported (by decide)

end ApiShim
end K1s
