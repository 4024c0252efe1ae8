import K1s.ApiShim.ServiceAddresses

/-!
# Histories in which services are kept apart

`RequestClashes` is the condition under which a request makes two stored services
share an address or a node port: a `PUT` or a `PATCH` whose document clashes with
another service, or a `POST` that asks for an address that is not looked at, or that
comes when the addresses have run out.
-/

namespace K1s
namespace ApiShim

open Py Program Machine

/-! ## What the documents of requests clash with -/

/-- A spec that would be stored for a target clashes with another service. -/
def Target.Clashes (store : ObjectStore) (gvr : Gvr) (target : Target) (spec : Json) : Prop :=
  gvr = servicesResource ∧ ∃ ns name, boundKey target.ns target.name = some (ns, name) ∧
    store.Clashes (gvr.key (some ns) name) spec

section Requests

variable (handler : ShimHandler) (outside : ShimOutside) (world : ShimWorld)

/-- The document that a branch stores clashes with another service. -/
def DocRule.Clashes (rule : DocRule) (doc : Json) : Prop :=
  ∃ entries target spec, rule.checked doc = .ok (entries, target) ∧
    rule.spec entries = some spec ∧ target.Clashes world.store rule.gvr spec

def PutClashes (path : String) (doc : Json) : Prop :=
  match putRoute world.crds path with
  | some (.document rule) => rule.Clashes world doc
  | _ => False

/-- The document of a new core object is that of a service which clashes with
another. -/
def CoreClashes (path : PathName) (doc : Json) : Prop :=
  path.plural = "services" ∧
  ∃ entries md name named ns bound, doc = .dict entries ∧
    (Dict.get entries "metadata").or (.dict []) = .dict md ∧
    runAlone (ShimOp.execute outside)
      (resolveCreateName servicesResource path.ns md path.name) world = (some name, named) ∧
    boundKey (createdNs path md) (.str name) = some (ns, bound) ∧
    NewServiceClashes handler world.store (servicesResource.key (some ns) bound)
      (createdNs path md) (.str name) entries (outside.services named.calls)
      (outside.services (named.calls + 1))

def PostClashes (path : String) (doc : Json) : Prop :=
  match postRoute world.crds path with
  | some (.core path) => CoreClashes handler outside world path doc
  | some (.document rule) => rule.Clashes world doc
  | none => False

/-- The patched form of a stored service clashes with another. -/
def PatchClashes (path : String) (request : PatchRequest) : Prop :=
  ∃ target name object base merged md, patchRoute world.crds path = some (.core target) ∧
    target.name = some name ∧
    world.store.get ⟨"", "v1", target.plural⟩ (PatchRoute.core target).ns name = some object ∧
    toObj object = some base ∧ request.merged base.entries = .ok merged ∧
    request.metadata "v1" (outside.timestamps world.calls) object.metadata
      (mergedMetadata (coreRule target).secret merged) = .ok md ∧
    (corePatchTarget target md).Clashes world.store ⟨"", "v1", target.plural⟩
      ((coreSpec target.plural merged).or (.dict []))

def BodyClashes (request : Request) (doc : Json) : Prop :=
  match request.method with
  | .put => PutClashes world request.path doc
  | .patch => PatchClashes outside world request.path (request.asPatch doc)
  | .post => PostClashes handler outside world request.path doc
  | .get | .delete => False

/-- A request stores a service that clashes with another. -/
def RequestClashes (request : Request) : Prop :=
  ∃ cached entered doc, runAlone (ShimOp.execute outside)
      (authz handler request.gateRole request.token) world = (some (some cached), entered) ∧
    request.document handler = some doc ∧
    BodyStores handler outside cached entered request doc (fun _ => True) ∧
    BodyClashes handler outside entered request doc

end Requests

section Clashes

variable {handler : ShimHandler} {outside : ShimOutside} {token : String}
variable {cached : Option Principal} {world : ShimWorld} {write : Write}

theorem clashes_of_targetWrite
    {store : ObjectStore} {gvr : Gvr} {target : Target} {spec status : Json}
    (made : target.write handler gvr spec status = some write) :
    write.Clashes store ↔ target.Clashes store gvr spec := by
  obtain ⟨⟨ns, name⟩, bound, rfl⟩ := Option.map_eq_some_iff.mp made
  simp [Write.Clashes, Target.Clashes, Write.key, bound]

theorem docRule_stores_clashes_iff (rule : DocRule) (doc : Json) :
    rule.Stores handler outside token cached world doc (Write.Clashes world.store) ↔
      rule.Stores handler outside token cached world doc (fun _ => True) ∧
        rule.Clashes world doc := by
  constructor
  · rintro ⟨entries, target, write, checked, allowed, made, clashes⟩
    obtain ⟨spec, status, payload, -, stored⟩ := made_of_docRuleWrite made
    exact ⟨⟨entries, target, write, checked, allowed, made, trivial⟩,
      entries, target, spec, checked, payload, (clashes_of_targetWrite stored).mp clashes⟩
  · rintro ⟨⟨entries, target, write, checked, allowed, made, -⟩,
      _, _, spec, again, payload, clashes⟩
    obtain ⟨rfl, rfl⟩ := Prod.mk.inj (Except.ok.inj (checked.symm.trans again))
    obtain ⟨_, status, same, -, stored⟩ := made_of_docRuleWrite made
    obtain rfl := Option.some.inj (payload.symm.trans same)
    exact ⟨entries, target, write, checked, allowed, made,
      (clashes_of_targetWrite stored).mpr clashes⟩

theorem putStores_clashes_iff (path : String) (doc : Json) :
    PutStores handler outside token cached world path doc (Write.Clashes world.store) ↔
      PutStores handler outside token cached world path doc (fun _ => True) ∧
        PutClashes world path doc := by
  unfold PutStores PutClashes
  rcases putRoute world.crds path with _ | rule | ⟨ns, name⟩
  · simp
  · exact docRule_stores_clashes_iff rule doc
  · simp only [and_false, iff_false]
    rintro ⟨object, write, -, made, kind, -⟩
    rw [(eq_of_scaleWrite made).1] at kind
    exact absurd kind (by decide)

/-- A new service clashes as its document says. -/
theorem clashes_of_writeContent
    {path : PathName} {entries md stamped : Dict} {name : String} {named after : ShimWorld}
    (kind : path.plural = "services")
    (ran : runAlone (ShimOp.execute outside)
      (coreMetadata handler path.plural (createdMd path entries md) (createdNs path md) name)
      named = (some stamped, after))
    (made : writeContent handler ⟨"", "v1", path.plural⟩
      ⟨stamped, .str name, createdNs path md⟩
      (createdContent handler outside after path.plural (createdNs path md) name entries) =
        .ok write) :
    write.Clashes named.store ↔ ∃ ns bound,
      boundKey (createdNs path md) (.str name) = some (ns, bound) ∧
      NewServiceClashes handler named.store (servicesResource.key (some ns) bound)
        (createdNs path md) (.str name) entries (outside.services named.calls)
        (outside.services (named.calls + 1)) := by
  simp only [coreMetadata, kind, String.reduceEq, if_false, runAlone_done, Prod.mk.injEq,
    Option.some.injEq] at ran
  obtain ⟨rfl, rfl⟩ := ran
  cases content : createdContent handler outside named path.plural (createdNs path md) name
      entries with
  | error refusal =>
      rw [content] at made
      cases made
  | ok parts =>
      obtain ⟨spec, status⟩ := parts
      rw [content] at made
      rw [createdContent, if_pos kind] at content
      rw [clashes_of_targetWrite (ok_of_orRaise made), Target.Clashes, kind]
      simp only [servicesResource, true_and, clashes_serviceContent_iff content]

theorem coreStores_clashes_iff (path : PathName) (doc : Json) :
    CoreStores handler outside world path doc (Write.Clashes world.store) ↔
      CoreStores handler outside world path doc (fun _ => True) ∧
        CoreClashes handler outside world path doc := by
  have kept : ∀ {md : Dict} {name : String} {named : ShimWorld}, runAlone (ShimOp.execute outside)
        (resolveCreateName ⟨"", "v1", path.plural⟩ path.ns md path.name) world =
          (some name, named) → named.store = world.store := by
    intro md name named ran
    have kept := (harmless_resolveCreateName ⟨"", "v1", path.plural⟩ path.ns md
      path.name).kept_runAlone outside world
    rw [ran] at kept
    exact congrArg Prod.fst kept
  constructor
  · rintro ⟨entries, md, name, named, same, metadata, ran, nonempty, valid, placed, stamped,
      after, write, stamps, made, clashes⟩
    have kind : path.plural = "services" := by
      have written := clashes.1
      rw [gvr_of_writeContent made] at written
      exact congrArg Gvr.resource written
    refine ⟨⟨entries, md, name, named, same, metadata, ran, nonempty, valid, placed, stamped,
      after, write, stamps, made, trivial⟩, kind, ?_⟩
    rw [← kept ran] at clashes ⊢
    obtain ⟨ns, bound, fits, clashes⟩ := (clashes_of_writeContent kind stamps made).mp clashes
    rw [kind] at ran
    exact ⟨entries, md, name, named, ns, bound, same, metadata, ran, fits, clashes⟩
  · rintro ⟨⟨entries, md, name, named, same, metadata, ran, nonempty, valid, placed, stamped,
      after, write, stamps, made, -⟩, kind, _, _, other, later, ns, bound, again, given, ranAgain,
      fits, clashes⟩
    obtain rfl := Json.dict.inj (same.symm.trans again)
    obtain rfl := Json.dict.inj (metadata.symm.trans given)
    have ranAgain : runAlone (ShimOp.execute outside)
        (resolveCreateName ⟨"", "v1", path.plural⟩ path.ns md path.name) world =
          (some other, later) := by
      rw [kind]
      exact ranAgain
    obtain ⟨equal, rfl⟩ := Prod.mk.inj (ran.symm.trans ranAgain)
    obtain rfl := Option.some.inj equal
    refine ⟨entries, md, name, named, same, metadata, ran, nonempty, valid, placed, stamped,
      after, write, stamps, made, ?_⟩
    rw [← kept ran] at clashes ⊢
    exact (clashes_of_writeContent kind stamps made).mpr ⟨ns, bound, fits, clashes⟩

theorem postStores_clashes_iff (path : String) (doc : Json) :
    PostStores handler outside token cached world path doc (Write.Clashes world.store) ↔
      PostStores handler outside token cached world path doc (fun _ => True) ∧
        PostClashes handler outside world path doc := by
  unfold PostStores PostClashes
  rcases postRoute world.crds path with _ | path | rule
  · simp
  · exact coreStores_clashes_iff path doc
  · exact docRule_stores_clashes_iff rule doc

theorem group_ne_of_parse
    {path : String} {custom : CustomPath}
    (parsed : parseCustomResourcePath path = some custom) : custom.group ≠ "" := by
  unfold parseCustomResourcePath at parsed
  dsimp only at parsed
  split at parsed
  all_goals
    first
    | cases parsed
    | split at parsed
      · cases parsed
      · next named =>
          split at parsed
          · cases parsed
          · obtain rfl := Option.some.inj parsed
            exact fun empty => named (.inr (.inl empty))

/-- Only the branch for core objects patches services. -/
theorem core_of_patchRoute
    {crds : CrdRegistry} {path : String} {route : PatchRoute}
    (routed : patchRoute crds path = some route)
    (kind : route.gvr = servicesResource) : ∃ target, route = .core target := by
  have member := mem_of_firstRoute routed
  simp only [List.mem_cons, List.not_mem_nil, or_false] at member
  rcases member with before | custom | after
  · unfold patchRouteBefore at before
    dsimp only at before
    split at before
    · exact ⟨_, Option.some.inj before⟩
    · cases before
  · obtain ⟨⟨target, crd⟩, found, rfl⟩ := Option.map_eq_some_iff.mp custom.symm
    obtain ⟨parsed, read, registered⟩ := Option.bind_eq_some_iff.mp found
    obtain ⟨crd, -, same⟩ := Option.map_eq_some_iff.mp registered
    obtain ⟨rfl, rfl⟩ := Prod.mk.inj same
    exact absurd (congrArg Gvr.group kind) (group_ne_of_parse read)
  · obtain ⟨⟨extended, target⟩, found, rfl⟩ := Option.map_eq_some_iff.mp after.symm
    obtain ⟨listed, member, same⟩ := List.exists_of_findSome?_eq_some found
    dsimp only at same
    split at same
    · obtain ⟨rfl, -⟩ := Prod.mk.inj (Option.some.inj same)
      have other : ∀ kind ∈ ExtendedKind.all, kind.gvr ≠ servicesResource := by decide
      exact absurd kind (other listed member)
    · cases same

theorem gvr_of_patchRoute
    {request : PatchRequest} {now : String} {object : K8sObject} {route : PatchRoute}
    (stores : route.Stores handler outside world request now object (Write.Clashes world.store)) :
    route.gvr = servicesResource := by
  cases route with
  | core path =>
      obtain ⟨write, made, kind, -⟩ := stores
      obtain ⟨_, _, _, -, -, -, stored⟩ := made_of_corePatch made
      rw [← kind, (eq_of_targetWrite stored).1]
      rfl
  | custom path crd =>
      obtain ⟨write, made, kind, -⟩ := stores
      obtain ⟨_, _, _, -, -, -, stored⟩ := made_of_customPatch made
      rw [← kind, (eq_of_targetWrite stored).1]
      rfl
  | extended kind path =>
      obtain ⟨_, _, write, -, made, service, -⟩ := stores
      obtain ⟨_, _, _, -, -, -, stored⟩ := made_of_extendedPatch made
      rw [← service, (eq_of_targetWrite stored).1]
      rfl

theorem gvr_of_create
    {request : PatchRequest} {now : String} {route : PatchRoute}
    (made : route.create handler request now = .ok write) : write.gvr = route.gvr := by
  cases route with
  | core path => cases made
  | custom path crd => cases made
  | extended kind path =>
      simp only [PatchRoute.create] at made
      split at made
      · obtain ⟨_, _, _, _, -, -, -, -, stored⟩ := made_of_applyNew made
        exact (eq_of_targetWrite stored).1
      · cases made

theorem patchStores_clashes_iff (path : String) (request : PatchRequest) :
    PatchStores handler outside world path request (Write.Clashes world.store) ↔
      PatchStores handler outside world path request (fun _ => True) ∧
        PatchClashes outside world path request := by
  unfold PatchStores PatchClashes
  constructor
  · rintro ⟨route, routed, stores⟩
    split at stores
    · next object found =>
        obtain ⟨target, rfl⟩ := core_of_patchRoute routed (gvr_of_patchRoute stores)
        obtain ⟨write, made, clashes⟩ := stores
        obtain ⟨name, named, stored⟩ := Option.bind_eq_some_iff.mp found
        obtain ⟨base, merged, md, shown, patched, metadata, written⟩ := made_of_corePatch made
        refine ⟨⟨_, routed, ?_⟩, target, name, object, base, merged, md, routed, named, stored,
          shown, patched, metadata, (clashes_of_targetWrite written).mp clashes⟩
        rw [found]
        exact ⟨write, made, trivial⟩
    · obtain ⟨write, made, clashes⟩ := stores
      have kind : route.gvr = servicesResource := (gvr_of_create made).symm.trans clashes.1
      obtain ⟨target, rfl⟩ := core_of_patchRoute routed kind
      cases made
  · rintro ⟨⟨route, routed, stores⟩, target, name, object, base, merged, md, again, named,
      stored, shown, patched, metadata, clashes⟩
    obtain rfl := Option.some.inj (routed.symm.trans again)
    refine ⟨_, routed, ?_⟩
    have found : (PatchRoute.core target).name.bind (fun name => world.store.get
        (PatchRoute.core target).gvr (PatchRoute.core target).ns name) = some object := by
      simp only [PatchRoute.name, named, Option.bind_some]
      exact stored
    rw [found] at stores ⊢
    obtain ⟨write, made, -⟩ := stores
    obtain ⟨_, _, _, shownAgain, alike, same, written⟩ := made_of_corePatch made
    obtain rfl := Option.some.inj (shown.symm.trans shownAgain)
    obtain rfl := Except.ok.inj (patched.symm.trans alike)
    obtain rfl := Except.ok.inj (metadata.symm.trans same)
    exact ⟨write, made, (clashes_of_targetWrite written).mpr clashes⟩

/-- What a request clashes with, from its route, its document and what is stored. -/
theorem requestStores_clashes_iff (request : Request) :
    RequestStores handler outside world request (Write.Clashes world.store) ↔
      RequestClashes handler outside world request := by
  have entered : ∀ {role : Role} {cached : Option Principal} {entered : ShimWorld},
      runAlone (ShimOp.execute outside) (authz handler role request.token) world =
        (some (some cached), entered) → entered.store = world.store := by
    intro role cached entered passed
    have kept := (harmless_authz handler role request.token).kept_runAlone outside world
    rw [passed] at kept
    exact congrArg Prod.fst kept
  have body : ∀ (cached : Option Principal) (entered : ShimWorld) doc,
      BodyStores handler outside cached entered request doc (Write.Clashes entered.store) ↔
        BodyStores handler outside cached entered request doc (fun _ => True) ∧
          BodyClashes handler outside entered request doc := by
    intro cached entered doc
    unfold BodyStores BodyClashes
    cases request.method with
    | get => simp
    | delete => simp
    | put => exact putStores_clashes_iff request.path doc
    | patch => exact patchStores_clashes_iff request.path (request.asPatch doc)
    | post => simp only [postStores_clashes_iff, and_assoc]
  have token : ∀ (cached : Option Principal) (entered : ShimWorld),
      ¬ GetStores handler outside request.token cached entered request.path
        (Write.Clashes world.store) := by
    rintro cached entered ⟨ns, name, allowed, object, md, after, -, -, -, -, kind, -⟩
    exact absurd (show serviceAccountsResource = servicesResource from kind) (by decide)
  unfold RequestStores RequestClashes
  simp only [token, and_false, exists_false, or_false]
  refine exists_congr fun cached => exists_congr fun after => exists_congr fun doc => ?_
  refine and_congr_right fun passed => ?_
  rw [← entered passed, body]

end Clashes

/-! ## Histories -/

section Histories

variable {handler : ShimHandler} {outside : ShimOutside} {world : ShimWorld}

/-- A request keeps the services apart exactly when it does not clash. -/
theorem addressesApart_afterRequest_iff
    {request : Request} (apart : world.store.AddressesApart) :
    (afterRequest handler outside request world).store.AddressesApart ↔
      ¬ RequestClashes handler outside world request := by
  rw [← requestStores_clashes_iff, ← leads_stores_iff]
  rcases afterRequest_cases handler outside request world with
    ⟨write, stores, takes⟩ | ⟨none, within⟩
  · rw [stores, addressesApart_takes_iff takes apart]
  · exact iff_of_true (within.addressesApart apart) (none _)

/-- The same along histories. -/
theorem addressesApart_along_iff
    {start : ShimWorld} (apart : start.store.AddressesApart) (requests : List Request) :
    Along (shimStep handler outside)
        (fun world request => (afterRequest handler outside request world).store.AddressesApart)
        start requests ↔
      Along (shimStep handler outside)
        (fun world request => ¬ RequestClashes handler outside world request)
        start requests := by
  have preserves : ∀ (world : ShimWorld) request next, world.store.AddressesApart →
      (afterRequest handler outside request world).store.AddressesApart →
      shimStep handler outside world request = some next → next.store.AddressesApart := by
    intro world request next _ kept stepped
    obtain rfl := Option.some.inj stepped
    exact kept
  exact along_iff_of_step preserves
    (fun world request held => addressesApart_afterRequest_iff held) apart requests

/-- The service that a request creates has no address, other than those its document
asks for, that is not of the ranges. -/
def AllocatesWithin
    (handler : ShimHandler) (outside : ShimOutside) (world : ShimWorld)
    (request : Request) : Prop :=
  ∀ write path entries, request.method = .post →
    postRoute world.crds request.path = some (.core path) → path.plural = "services" →
    request.document handler = some (.dict entries) →
    RequestStores handler outside world request (fun made => made = write) →
    GivesFromRanges (plainSpec entries) write.spec

theorem allocatesWithin
    (handler : ShimHandler) (outside : ShimOutside) (world : ShimWorld)
    (request : Request) : AllocatesWithin handler outside world request := by
  intro write path entries post routed kind given stores
  rcases stores with ⟨cached, entered, doc, passed, again, body⟩ | ⟨get, -⟩
  · obtain rfl := Option.some.inj (given.symm.trans again)
    have kept := (harmless_authz handler request.gateRole request.token).kept_runAlone
      outside world
    rw [passed] at kept
    have crds : entered.crds = world.crds := congrArg Prod.snd kept
    simp only [BodyStores, post, PostStores, crds, routed] at body
    obtain ⟨-, -, _, md, name, named, same, -, -, -, -, -, stamped, after, made, -, written,
      rfl⟩ := body
    obtain rfl := Json.dict.inj same
    cases content : createdContent handler outside after path.plural (createdNs path md) name
        entries with
    | error refusal =>
        rw [content] at written
        cases written
    | ok parts =>
        obtain ⟨spec, status⟩ := parts
        rw [content] at written
        rw [createdContent, if_pos kind] at content
        rw [(eq_of_targetWrite (ok_of_orRaise written)).2.1]
        exact givesFromRanges_serviceContent content
  · rw [post] at get
    cases get

/-- In every history without a request that clashes, no two stored services share an
address or a node port after any request, and every address that is allocated is of
the ranges. -/
theorem addressesApart_along
    {start : ShimWorld} {requests : List Request} (apart : start.store.AddressesApart)
    (careful : Along (shimStep handler outside)
      (fun world request => ¬ RequestClashes handler outside world request) start requests) :
    Along (shimStep handler outside) (fun world request =>
        (afterRequest handler outside request world).store.AddressesApart ∧
          AllocatesWithin handler outside world request)
      start requests := by
  refine ((addressesApart_along_iff apart requests).mpr careful).weaken ?_
  intro world request kept
  exact ⟨kept, allocatesWithin handler outside world request⟩

end Histories

/-! ## Two services with one address -/

/-- A path of a core kind is a core object's. -/
theorem postRoute_core
    (crds : CrdRegistry) {path : String} (core : coreKinds.contains (nsName path).plural = true) :
    postRoute crds path = some (.core (nsName path)) := by
  unfold postRoute postRouteBefore
  simp only [core, if_true, firstRoute]

def adminRequest (method : Method) (path body : String) : Request :=
  { readerRequest method path body with authorization := some "Bearer admin-token" }

/-- A service `web` with an address. -/
def webService : ShimWorld :=
  { dbSecret with
    store := (ObjectStore.empty.upsert servicesResource (some "default") "web"
      (.dict [("name", .str "web"), ("namespace", .str "default")])
      (.dict [("clusterIP", .str "10.96.0.10")]) (.dict [])).2 }

/-- A new service `db` without an address. -/
def createDb : Request :=
  adminRequest .post "/api/v1/namespaces/default/services"
    ("\x7b\"metadata\": \x7b\"name\": \"db\"\x7d," ++
      " \"spec\": \x7b\"ports\": [\x7b\"port\": 5432\x7d]\x7d\x7d")

theorem row_of_webService
    {key : ObjectKey} {row : ObjectRow} (stored : webService.store.row? key = some row) :
    key = ⟨servicesResource, "default", "web"⟩ ∧
      row.spec = .dict [("clusterIP", .str "10.96.0.10")] := by
  rw [webService, ObjectStore.row?_upsert] at stored
  split at stored
  · next same => exact ⟨same.symm, by rw [← Option.some.inj stored]⟩
  · simp at stored

theorem addressesApart_webService : webService.store.AddressesApart := by
  rintro key row stored - ⟨other, found, there, -, different, -⟩
  exact different ((row_of_webService there).1.trans (row_of_webService stored).1.symm)

/-- A service that is created without an address is given one that is free. -/
theorem addressesApart_createDb :
    Along (shimStep openHandler stillOutside) (fun world request =>
        (afterRequest openHandler stillOutside request world).store.AddressesApart ∧
          AllocatesWithin openHandler stillOutside world request)
      webService [createDb] := by
  refine addressesApart_along addressesApart_webService ⟨?_, fun _ _ => trivial⟩
  rintro ⟨cached, entered, doc, passed, given, -, clashes⟩
  have kept := (harmless_authz openHandler createDb.gateRole createDb.token).kept_runAlone
    stillOutside webService
  rw [passed] at kept
  have store : entered.store = webService.store := congrArg Prod.fst kept
  have crds : entered.crds = webService.crds := congrArg Prod.snd kept
  have document : createDb.document openHandler = some (.dict
      [("metadata", .dict [("name", .str "db")]),
        ("spec", .dict [("ports", .list [.dict [("port", .int 5432)]])])]) := by
    decide +kernel
  obtain rfl := Option.some.inj (given.symm.trans document)
  have path : nsName createDb.path = ⟨"services", some "default", none⟩ := by decide +kernel
  have routed : postRoute webService.crds createDb.path = some (.core (nsName createDb.path)) :=
    postRoute_core _ (by rw [path]; decide)
  have clashes : PostClashes openHandler stillOutside entered createDb.path _ := clashes
  unfold PostClashes at clashes
  rw [crds, routed] at clashes
  obtain ⟨-, entries, md, name, named, ns, bound, same, -, -, -, spec, ips, ports, read, -, -,
    clashes⟩ := clashes
  obtain rfl := Json.dict.inj same
  obtain rfl : [("ports", .list [.dict [("port", .int 5432)]])] = spec := Option.some.inj read
  rw [store] at clashes
  rcases clashes with address | ⟨number, member, -⟩
  · obtain ⟨-, key, row, stored, -, -, last⟩ := address
    rw [(row_of_webService stored).2] at last
    exact absurd last (by decide)
  · cases member

/-- A world in which nothing is stored. -/
def emptyShim : ShimWorld := { dbSecret with store := .empty }

/-- A new service `web` that asks for an address. -/
def createWeb : Request :=
  adminRequest .post "/api/v1/namespaces/default/services"
    ("\x7b\"metadata\": \x7b\"name\": \"web\"\x7d," ++
      " \"spec\": \x7b\"clusterIP\": \"10.96.0.10\"\x7d\x7d")

/-- A service `db` is stored with the same address. -/
def putDb : Request :=
  adminRequest .put "/api/v1/namespaces/default/services/db"
    "\x7b\"spec\": \x7b\"clusterIP\": \"10.96.0.10\"\x7d\x7d"

theorem not_addressesApart_putDb :
    emptyShim.store.AddressesApart ∧ ¬ Along (shimStep openHandler stillOutside)
        (fun world request =>
          (afterRequest openHandler stillOutside request world).store.AddressesApart)
        emptyShim [createWeb, putDb] := by
  refine ⟨fun key row stored => by simp [emptyShim] at stored, fun along => ?_⟩
  have shared : ["web", "db"].all (fun name =>
      ((afterRequest openHandler stillOutside putDb
        (afterRequest openHandler stillOutside createWeb emptyShim)).store.row?
          ⟨servicesResource, "default", name⟩).any fun row =>
            decide (row.spec.item "clusterIP" = .str "10.96.0.10")) = true := by
    decide +kernel
  simp only [List.all_cons, List.all_nil, Bool.and_true, Bool.and_eq_true,
    Option.any_eq_true, decide_eq_true_eq] at shared
  obtain ⟨⟨web, webStored, webIp⟩, db, dbStored, dbIp⟩ := shared
  refine (along.2 _ rfl).1 _ db dbStored rfl ⟨_, web, webStored, rfl, by decide, .inl ⟨?_, ?_⟩⟩
  · rw [dbIp]
    exact ⟨by decide, by decide⟩
  · rw [dbIp, webIp]

end ApiShim
end K1s
