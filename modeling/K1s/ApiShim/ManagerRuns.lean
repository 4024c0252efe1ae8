import K1s.ApiShim.ManagedFields

/-!
# Histories of one object and its managers

The requests of the history are applies, updates by patches, and `PUT`s of one object.
`LeavesOtherManagers` is the condition under which such a request keeps the ledger of
the object: an update leaves the entries of the other managers in the document, an
apply leaves none of them, and a `PUT`, which records nothing, has the ledger in its
document.
-/

namespace K1s
namespace ApiShim

open Py Program Machine

/-! ## The ledger of a stored object -/

def ObjectStore.metadataAt (store : ObjectStore) (key : ObjectKey) : Json :=
  ((store.row? key).map ObjectRow.metadata).getD .null

/-- The metadata that are stored under a key hold a ledger. -/
def ObjectStore.HasLedger (store : ObjectStore) (key : ObjectKey) : Prop :=
  ∃ ledger, ManagedBy (store.metadataAt key) ledger

/-- The manager of a patch keeps the ledger between these metadata. -/
def PatchRequest.Keeps (request : PatchRequest) (before after : Json) : Prop :=
  KeepsManagers before after request.manager request.writtenPaths request.forces

/-- What a request writes, and by which manager.  A `PUT` is an update with its whole
document. -/
def Request.acts (request : Request) (doc : Json) : PatchRequest :=
  if request.method = .put then { request.asPatch doc with ctype := "application/json" }
  else request.asPatch doc

def Edits (handler : ShimHandler) (key : ObjectKey) (world : ShimWorld) (request : Request) :
    Prop :=
  namedKey world.crds request = some key ∧ (request.method = .put ∨ request.method = .patch ∧
      ∀ doc, request.document handler = some doc → (request.asPatch doc).RecordsFields)

section Requests

variable (handler : ShimHandler) (outside : ShimOutside) (key : ObjectKey)
variable (world : ShimWorld)

/-- A patch of the stored object leaves the other managers.  For custom resources no
manager is recorded. -/
def PatchRoute.LeavesOthers
    (request : PatchRequest)
    (object : K8sObject) : PatchRoute → Prop
  | .core path =>
      ∀ base merged, toObj object = some base → request.merged base.entries = .ok merged →
        request.LeavesOthers object.metadata (mergedMetadata (coreRule path).secret merged)
  | .custom _ _ => False
  | .extended kind _ =>
      ∀ base after merged, runAlone (ShimOp.execute outside) (kind.shown object) world =
          (some base, after) → request.merged base.entries = .ok merged →
        request.LeavesOthers object.metadata ((Dict.get merged "metadata").or (.dict []))

/-- The document of an object that an apply creates has no entry of another manager that
is left. -/
def PatchRequest.LeavesNew (request : PatchRequest) : Prop :=
  ∀ merged entries, request.merged [] = .ok merged →
    (Dict.get merged "metadata").or (.dict []) = .dict entries →
    ∀ entry ∈ othersOf request.manager (.dict entries),
      restOf request.appliedPaths request.force entry = some none

def PatchLeaves (path : String) (request : PatchRequest) : Prop :=
  ∀ route, patchRoute world.crds path = some route →
    match route.name.bind fun name => world.store.get route.gvr route.ns name with
    | some object =>
        route.LeavesOthers outside { world with calls := world.calls + 1 } request object
    | none => request.LeavesNew

/-- The document of a `PUT` has a ledger that the manager keeps.  The scale of a
deployment leaves the metadata alone. -/
def PutLeaves (path : String) (request : PatchRequest) : Prop :=
  match putRoute world.crds path with
  | none => True
  | some (.document rule) =>
      ∀ entries target, rule.checked request.patch = .ok (entries, target) →
        boundKey target.ns target.name = some (key.ns, key.name) →
        request.Keeps (world.store.metadataAt key) (.dict target.metadata) ∧
          ∃ ledger, ManagedBy (.dict target.metadata) ledger
  | some (.scale _ _) =>
      request.Keeps (world.store.metadataAt key) (world.store.metadataAt key)

/-- A request that stores something leaves the entries of the other managers. -/
def LeavesOtherManagers (request : Request) : Prop :=
  RequestStores handler outside world request (fun _ => True) →
    ∀ cached entered doc, runAlone (ShimOp.execute outside)
        (authz handler .read request.token) world = (some (some cached), entered) →
      request.document handler = some doc →
      if request.method = .put then PutLeaves key entered request.path (request.acts doc)
      else PatchLeaves outside entered request.path (request.acts doc)

/-- The stored object has one entry for a manager at most, and either is as it was or has
been written by a manager that kept the ledger. -/
def ManagersKept (request : Request) : Prop :=
  ∀ row, (afterRequest handler outside request world).store.row? key = some row →
    ((managedEntries row.metadata).map fun entry => entry.item "manager").Nodup ∧
      (world.store.row? key = some row ∨ ∃ doc, request.document handler = some doc ∧
        (request.acts doc).Keeps (world.store.metadataAt key) row.metadata)

end Requests

theorem metadataAt_upsert
    (store : ObjectStore) (gvr : Gvr) (ns : Option String) (name : String)
    (metadata spec status : Json) :
    (store.upsert gvr ns name metadata spec status).2.metadataAt (gvr.key ns name) =
      metadata := by
  rw [ObjectStore.metadataAt, ObjectStore.row?_upsert, if_pos rfl]
  rfl

section Steps

variable {handler : ShimHandler} {outside : ShimOutside} {key : ObjectKey}
variable {world : ShimWorld} {write : Write}

theorem manager_asPatch_ne (request : Request) (doc : Json) :
    (request.asPatch doc).manager ≠ "" := by
  unfold Request.asPatch
  dsimp only
  split
  · decide
  · next named => exact named

theorem ManagedBy.congr
    {first second : Json} {ledger : List FieldManager} (managed : ManagedBy first ledger)
    (same : first.item "managedFields" = second.item "managedFields") :
    ManagedBy second ledger :=
  ⟨same ▸ managed.listed, managed.once, managed.named⟩

theorem PatchRequest.Keeps.congr
    {request : PatchRequest} {before first second : Json} (keeps : request.Keeps before first)
    (same : first.item "managedFields" = second.item "managedFields") :
    request.Keeps before second := by
  have entries : managedEntries first = managedEntries second := by
    rw [managedEntries, managedEntries, same]
  unfold Keeps at keeps ⊢
  refine ⟨entries ▸ keeps.once, entries ▸ keeps.own, ?_⟩
  rw [othersOf, ← entries]
  exact keeps.others

theorem managedFields_of_targetWrite
    {gvr : Gvr} {target : Target} {spec status : Json}
    (made : target.write handler gvr spec status = some write) :
    (Json.dict target.metadata).item "managedFields" = write.metadata.item "managedFields" := by
  obtain ⟨-, -, -, metadata⟩ := eq_of_targetWrite made
  have kept := find?_normalizeMetadata handler target.metadata target.name target.ns
    gvr.resource "managedFields" (by decide)
  rw [metadata, Json.item_dict, Json.item_dict, Dict.get, Dict.get, kept]

/-- The metadata of the object that a patch is applied to. -/
theorem metadataAt_of_route {route : PatchRoute} (addressed : route.pathKey = some key) :
    world.store.metadataAt key =
      ((route.name.bind fun name => world.store.get route.gvr route.ns name).map
        K8sObject.metadata).getD .null := by
  obtain ⟨name, named, rfl⟩ := Option.map_eq_some_iff.mp addressed
  rw [named, Option.bind_some, ObjectStore.get, ObjectStore.metadataAt, Option.map_map]
  rfl

theorem keeps_of_patchStores
    {path : String} {request : PatchRequest} (managed : world.store.HasLedger key)
    (named : (patchRoute world.crds path).bind PatchRoute.pathKey = some key)
    (acting : request.manager ≠ "") (records : request.RecordsFields)
    (leaves : PatchLeaves outside world path request)
    (stores : PatchStores handler outside world path request fun made => made = write) :
    request.Keeps (world.store.metadataAt key) write.metadata ∧
      ∃ ledger, ManagedBy write.metadata ledger := by
  obtain ⟨route, routed, addressed⟩ := Option.bind_eq_some_iff.mp named
  obtain ⟨_, again, stores⟩ := stores
  obtain rfl := Option.some.inj (routed.symm.trans again)
  obtain ⟨ledger, managed⟩ := managed
  have leaves := leaves route routed
  rw [metadataAt_of_route addressed] at managed ⊢
  cases found : route.name.bind fun name => world.store.get route.gvr route.ns name with
  | some object =>
      simp only [found, Option.map_some, Option.getD_some] at managed leaves stores ⊢
      have kept : ∀ {gvr : Gvr} {target : Target} {spec status : Json} {version now : String}
          {md : Json}, request.LeavesOthers object.metadata md →
          request.metadata version now object.metadata md = .ok target.metadata →
          target.write handler gvr spec status = some write →
          request.Keeps object.metadata write.metadata ∧
            ∃ ledger, ManagedBy write.metadata ledger := by
        intro gvr target spec status version now md others made written
        have same := managedFields_of_targetWrite written
        obtain ⟨keeps, after, holds⟩ :=
          PatchRequest.keeps_of_metadata managed acting records others made
        exact ⟨PatchRequest.Keeps.congr keeps same, after, holds.congr same⟩
      cases route with
      | core path =>
          obtain ⟨_, made, rfl⟩ := stores
          obtain ⟨base, merged, md, shown, patched, metadata, written⟩ := made_of_corePatch made
          exact kept (leaves base merged shown patched) metadata written
      | custom path crd => exact leaves.elim
      | extended kind path =>
          obtain ⟨base, after, _, shown, made, rfl⟩ := stores
          obtain ⟨merged, md, injected, patched, metadata, -, written⟩ :=
            made_of_extendedPatch made
          exact kept (leaves base after merged shown patched) metadata written
  | none =>
      simp only [found, Option.map_none, Option.getD_none] at leaves stores ⊢
      obtain ⟨_, made, rfl⟩ := stores
      cases route with
      | core path => cases made
      | custom path crd => cases made
      | extended kind path =>
          simp only [PatchRoute.create] at made
          split at made
          · next applies =>
              obtain ⟨merged, entries, md, injected, patched, given, applied, -, written⟩ :=
                made_of_applyNew made
              have same := managedFields_of_targetWrite written
              have gone : (othersOf request.manager .null).filterMap
                  (leftEntry request.force request.appliedPaths) = [] := rfl
              obtain ⟨keeps, after, holds⟩ := PatchRequest.keeps_of_applied acting gone
                (leaves merged entries patched given) applied
              refine ⟨PatchRequest.Keeps.congr ?_ same, after, holds.congr same⟩
              unfold PatchRequest.Keeps PatchRequest.writtenPaths PatchRequest.forces
              rw [if_pos applies, applies, Bool.true_and]
              exact keeps
          · cases made

theorem keeps_of_putStores
    {token path : String} {cached : Option Principal} {request : PatchRequest}
    (managed : world.store.HasLedger key)
    (named : (match putRoute world.crds path with
      | none => none
      | some (.document rule) => rule.pathKey
      | some (.scale ns name) => some (deploymentsResource.key ns name)) = some key)
    (leaves : PutLeaves key world path request)
    (stores : PutStores handler outside token cached world path request.patch
      fun made => made = write)
    (kept : write.key = key) :
    request.Keeps (world.store.metadataAt key) write.metadata ∧
      ∃ ledger, ManagedBy write.metadata ledger := by
  unfold PutStores at stores
  unfold PutLeaves at leaves
  split at named
  · cases named
  · next rule routed =>
      simp only [routed] at leaves stores
      obtain ⟨entries, target, _, checked, -, made, rfl⟩ := stores
      obtain ⟨spec, status, -, -, written⟩ := made_of_docRuleWrite made
      have bound : boundKey target.ns target.name = some (key.ns, key.name) := by
        rw [(for_of_targetWrite written).bound, ← kept]
        rfl
      have same := managedFields_of_targetWrite written
      obtain ⟨keeps, ledger, holds⟩ := leaves entries target checked bound
      exact ⟨keeps.congr same, ledger, holds.congr same⟩
  · next ns name routed =>
      simp only [routed] at leaves stores
      obtain rfl := Option.some.inj named
      obtain ⟨object, _, found, made, rfl⟩ := stores
      have stored : world.store.metadataAt (deploymentsResource.key ns name) =
          object.metadata := by
        obtain ⟨row, there, rfl⟩ := Option.map_eq_some_iff.mp found
        rw [ObjectStore.metadataAt, there]
        rfl
      rw [(eq_of_scaleWrite made).2.2.2, ← stored]
      exact ⟨leaves, managed⟩

theorem keeps_of_requestStores
    {request : Request} (managed : world.store.HasLedger key)
    (edits : Edits handler key world request)
    (leaves : LeavesOtherManagers handler outside key world request)
    (stored : RequestStores handler outside world request fun _ => True)
    (stores : RequestStores handler outside world request fun made => made = write)
    (kept : write.key = key) :
    (∃ doc, request.document handler = some doc ∧
      (request.acts doc).Keeps (world.store.metadataAt key) write.metadata) ∧
    ∃ ledger, ManagedBy write.metadata ledger := by
  obtain ⟨named, method⟩ := edits
  rcases stores with ⟨cached, entered, doc, passed, given, body⟩ | ⟨get, -⟩
  · have role : request.gateRole = .read := by
      unfold Request.gateRole
      rcases method with put | ⟨patch, -⟩
      · rw [put]
      · rw [patch]
    rw [role] at passed
    have after := (harmless_authz handler .read request.token).kept_runAlone outside world
    rw [passed] at after
    have store : entered.store = world.store := congrArg Prod.fst after
    have leaves := leaves stored cached entered doc passed given
    rw [← store] at managed ⊢
    rw [← crds_of_authz passed] at named
    unfold BodyStores at body
    unfold namedKey at named
    rcases method with put | ⟨patch, records⟩
    · rw [put] at named body
      rw [if_pos put] at leaves
      have same : (request.acts doc).patch = doc := by
        rw [Request.acts, if_pos put]
        rfl
      rw [← same] at body
      obtain ⟨keeps, ledger⟩ := keeps_of_putStores managed named leaves body kept
      exact ⟨⟨doc, given, keeps⟩, ledger⟩
    · have other : request.method ≠ .put := by simp [patch]
      have same : request.acts doc = request.asPatch doc := if_neg other
      rw [patch] at named body
      rw [if_neg other, same] at leaves
      obtain ⟨keeps, ledger⟩ := keeps_of_patchStores managed named
        (manager_asPatch_ne request doc) (records doc given) leaves body
      exact ⟨⟨doc, given, same ▸ keeps⟩, ledger⟩
  · rcases method with put | ⟨patch, -⟩
    · simp [put] at get
    · simp [patch] at get

/-- A request of the history keeps the managers of the object, and its ledger. -/
theorem managersKept_afterRequest
    {request : Request} (managed : world.store.HasLedger key)
    (edits : Edits handler key world request)
    (leaves : LeavesOtherManagers handler outside key world request) :
    ManagersKept handler outside key world request ∧
      (afterRequest handler outside request world).store.HasLedger key := by
  have unchanged : ∀ row, world.store.row? key = some row →
      ((managedEntries row.metadata).map fun entry => entry.item "manager").Nodup := by
    intro row there
    obtain ⟨ledger, managed⟩ := managed
    rw [ObjectStore.metadataAt, there] at managed
    exact managed.nodup_managers
  rcases afterRequest_cases handler outside request world with
    ⟨write, stores, takes⟩ | ⟨-, within⟩
  · simp only [leads_stores_iff] at stores
    by_cases kept : write.key = key
    · have something : RequestStores handler outside world request fun _ => True := by
        rw [stores]
        trivial
      have this : RequestStores handler outside world request fun made => made = write := by
        rw [stores]
      obtain ⟨keeps, ledger, holds⟩ :=
        keeps_of_requestStores managed edits leaves something this kept
      have written := takes.row?_self
      rw [kept] at written
      refine ⟨fun row there => ?_, ledger, ?_⟩
      · obtain rfl := Option.some.inj (written.symm.trans there)
        exact ⟨holds.nodup_managers, .inr keeps⟩
      · rw [ObjectStore.metadataAt, written]
        exact holds
    · have same := takes.row?_of_ne (Ne.symm kept)
      refine ⟨fun row there => ?_, ?_⟩
      · rw [same] at there
        exact ⟨unchanged row there, .inl there⟩
      · rwa [ObjectStore.HasLedger, ObjectStore.metadataAt, same]
  · refine ⟨fun row there => ?_, ?_⟩
    · have there := within key row there
      exact ⟨unchanged row there, .inl there⟩
    · rw [ObjectStore.HasLedger, ObjectStore.metadataAt]
      cases left : (afterRequest handler outside request world).store.row? key with
      | none => exact ⟨[], rfl, List.nodup_nil, by simp⟩
      | some row =>
          rw [ObjectStore.HasLedger, ObjectStore.metadataAt, within key row left] at managed
          exact managed

end Steps

/-! ## Histories -/

/-- In every history of applies, patches and `PUT`s of one object that leave the entries
of the other managers, the managers of the object are kept by every request. -/
theorem managersKept_along
    {handler : ShimHandler} {outside : ShimOutside} {key : ObjectKey} {start : ShimWorld}
    {requests : List Request} (managed : start.store.HasLedger key)
    (careful : Along (shimStep handler outside)
      (fun world request => Edits handler key world request ∧
        LeavesOtherManagers handler outside key world request) start requests) :
    Along (shimStep handler outside) (ManagersKept handler outside key) start requests := by
  have preserves : ∀ (world : ShimWorld) request next, world.store.HasLedger key →
      (Edits handler key world request ∧ LeavesOtherManagers handler outside key world request) →
      shimStep handler outside world request = some next → next.store.HasLedger key := by
    intro world request next ledger meets stepped
    obtain rfl := Option.some.inj stepped
    exact (managersKept_afterRequest ledger meets.1 meets.2).2
  refine along_of_invariant preserves (fun world request ledger meets => ?_) managed careful
  exact (managersKept_afterRequest ledger meets.1 meets.2).1

/-! ## Two managers of a secret -/

/-- A patch of the secret `db` by a manager. -/
def patchDb (ctype manager body : String) : Request :=
  { readerRequest .patch "/api/v1/namespaces/default/secrets/db" body with
    contentType := some ctype
    query := [("fieldManager", [manager])] }

def dbKey : ObjectKey := ⟨⟨"", "v1", "secrets"⟩, "default", "db"⟩

def labelsLine : FieldManager :=
  ⟨"labeler", "Update", "v1", "1970-01-01T00:00:10+00:00", ["/metadata", "/metadata/labels"]⟩

/-- The secret `db` with one manager. -/
def labeledSecret : ShimWorld :=
  { dbSecret with
    store := (ObjectStore.empty.upsert ⟨"", "v1", "secrets"⟩ (some "default") "db"
      (.dict [("name", .str "db"), ("namespace", .str "default"),
        ("managedFields", .list [labelsLine.entry])])
      (.dict [("password", .str "czNjcmV0")]) (.dict [])).2 }

/-- Another manager sets a field of the secret. -/
def mergeUser : Request :=
  patchDb "application/merge-patch+json" "creator" "\x7b\"data\": \x7b\"user\": \"eA==\"\x7d\x7d"

theorem edits_of_patchDb
    {ctype manager body : String} {world : ShimWorld}
    (named : namedKey world.crds (patchDb ctype manager body) = some dbKey)
    (records : ((patchDb ctype manager body).document openHandler).all (fun doc =>
      doc.isDict && decide (((patchDb ctype manager body).asPatch doc).applies = true ∨
        ((patchDb ctype manager body).asPatch doc).ctype ∈ PatchRequest.updateTypes)) = true) :
    Edits openHandler dbKey world (patchDb ctype manager body) := by
  refine ⟨named, .inr ⟨rfl, fun doc given => ?_⟩⟩
  rw [given, Option.all_some, Bool.and_eq_true, decide_eq_true_eq] at records
  refine ⟨?_, records.2⟩
  cases doc with
  | dict entries => exact ⟨entries, rfl⟩
  | null | bool | int | float | str | list => exact absurd records.1 Bool.false_ne_true

/-- The secret as it is stored. -/
def labeledDb : K8sObject where
  gvr := dbKey.gvr
  ns := some "default"
  name := "db"
  metadata := .dict [("name", .str "db"), ("namespace", .str "default"),
    ("managedFields", .list [labelsLine.entry])]
  spec := .dict [("password", .str "czNjcmV0")]
  status := .dict []
  resourceVersion := 1

theorem get_labeledSecret :
    labeledSecret.store.get ⟨"", "v1", "secrets"⟩ (some "default") "db" = some labeledDb := by
  decide +kernel

theorem patchRoute_core
    (crds : CrdRegistry) {path : String}
    (core : (coreKinds.contains (nsName path).plural && (nsName path).named) = true) :
    patchRoute crds path = some (.core (nsName path)) := by
  unfold patchRoute patchRouteBefore
  simp only [core, if_true, firstRoute]

theorem leavesOtherManagers_mergeUser :
    LeavesOtherManagers openHandler stillOutside dbKey labeledSecret mergeUser := by
  intro _ cached entered doc passed given
  have kept := (harmless_authz openHandler .read mergeUser.token).kept_runAlone stillOutside
    labeledSecret
  rw [passed] at kept
  have store : entered.store = labeledSecret.store := congrArg Prod.fst kept
  have crds : entered.crds = labeledSecret.crds := congrArg Prod.snd kept
  have path : nsName mergeUser.path = ⟨"secrets", some "default", some "db"⟩ := by
    decide +kernel
  have routed : patchRoute labeledSecret.crds mergeUser.path =
      some (.core (nsName mergeUser.path)) :=
    patchRoute_core _ (by rw [path]; decide)
  rw [if_neg (by decide)]
  intro route again
  rw [crds, routed] at again
  obtain rfl := Option.some.inj again
  rw [path]
  simp only [PatchRoute.name, PatchRoute.gvr, PatchRoute.ns, Option.bind_some, store]
  rw [show labeledSecret.store.get ⟨"", "v1", "secrets"⟩
    (if "secrets" = "namespaces" then none else some "default") "db" = some labeledDb from
      get_labeledSecret]
  intro base merged shown patched
  have leaves : (mergeUser.document openHandler).all (fun doc =>
      (toObj labeledDb).all fun base =>
        match (mergeUser.acts doc).merged base.entries with
        | .ok merged =>
            decide ((mergeUser.acts doc).applies = false) &&
            decide (othersOf (mergeUser.acts doc).manager
              (mergedMetadata (coreRule ⟨"secrets", some "default", some "db"⟩).secret merged) =
                [labelsLine.entry]) &&
            decide (othersOf (mergeUser.acts doc).manager labeledDb.metadata = [labelsLine.entry])
        | .error _ => true) = true := by
    decide +kernel
  simp only [given, shown, patched, Option.all_some, Bool.and_eq_true, decide_eq_true_eq]
    at leaves
  obtain ⟨⟨updates, merged⟩, before⟩ := leaves
  rw [PatchRequest.LeavesOthers, updates, merged, before]
  exact ⟨rfl, by simp [labelsLine]; decide⟩

/-- A merge patch keeps the entry of the other manager. -/
theorem managersKept_mergeUser :
    Along (shimStep openHandler stillOutside) (ManagersKept openHandler stillOutside dbKey)
      labeledSecret [mergeUser] := by
  refine managersKept_along ⟨[labelsLine], ?_⟩ ⟨⟨?_, ?_⟩, fun _ _ => trivial⟩
  · have stored : labeledSecret.store.metadataAt dbKey = labeledDb.metadata :=
      metadataAt_upsert ..
    rw [stored]
    exact ⟨rfl, List.nodup_singleton _, by decide⟩
  · exact edits_of_patchDb (by decide +kernel) (by decide +kernel)
  · exact leavesOtherManagers_mergeUser

/-- The other manager sets it with a server-side apply. -/
def applyUser : Request :=
  patchDb "application/apply-patch+json" "creator" "\x7b\"data\": \x7b\"user\": \"eA==\"\x7d\x7d"

/-- A manager labels the secret. -/
def mergeLabels : Request :=
  patchDb "application/merge-patch+json" "labeler"
    "\x7b\"metadata\": \x7b\"labels\": \x7b\"app\": \"db\"\x7d\x7d\x7d"

/-- After an apply the entry of the other manager is there twice. -/
theorem not_managersKept_applyUser :
    dbSecret.store.HasLedger dbKey ∧
      Along (shimStep openHandler stillOutside) (Edits openHandler dbKey) dbSecret
        [mergeLabels, applyUser] ∧
      ¬ Along (shimStep openHandler stillOutside) (ManagersKept openHandler stillOutside dbKey)
        dbSecret [mergeLabels, applyUser] := by
  refine ⟨⟨[], ?_⟩, ⟨edits_of_patchDb (by decide +kernel) (by decide +kernel),
    fun next stepped => ⟨?_, fun _ _ => trivial⟩⟩, fun along => ?_⟩
  · have stored : dbSecret.store.metadataAt dbKey =
        .dict [("name", .str "db"), ("namespace", .str "default")] := metadataAt_upsert ..
    rw [stored]
    exact ⟨rfl, List.nodup_nil, by simp⟩
  · obtain rfl := Option.some.inj stepped
    exact edits_of_patchDb (by decide +kernel) (by decide +kernel)
  · have twice : ((afterRequest openHandler stillOutside applyUser
        (afterRequest openHandler stillOutside mergeLabels dbSecret)).store.row? dbKey).any
          (fun row => decide ((managedEntries row.metadata).map (fun entry =>
            entry.item "manager") = [.str "labeler", .str "labeler", .str "creator"])) =
        true := by
      decide +kernel
    obtain ⟨row, there, managers⟩ := (Option.any_eq_true _ _).mp twice
    have once := ((along.2 _ rfl).1 row there).1
    rw [of_decide_eq_true managers] at once
    exact absurd once (by decide)

end ApiShim
end K1s
