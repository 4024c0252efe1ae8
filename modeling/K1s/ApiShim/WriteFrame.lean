import K1s.ApiShim.ReadOnly

/-!
# The object that a request writes

The handlers of `PUT` and `PATCH` take the name and the namespace of the object
they store from the metadata of the document, and from the path only where the
document has none.  This module says which requests change another object than
the one that their path names.
-/

namespace K1s
namespace ApiShim

open Py Program

/-! ## The object that a path names -/

def DocRule.pathKey (rule : DocRule) : Option ObjectKey :=
  rule.pathName.map (rule.gvr.key (if rule.cluster then none else rule.pathNs))

def PatchRoute.pathKey (route : PatchRoute) : Option ObjectKey :=
  route.name.map (route.gvr.key route.ns)

/-- The object that the path of a `PUT`, a `PATCH` or a `DELETE` names. -/
def namedKey (crds : CrdRegistry) (request : Request) : Option ObjectKey :=
  match request.method with
  | .put =>
      match putRoute crds request.path with
      | none => none
      | some (.document rule) => rule.pathKey
      | some (.scale ns name) => some (deploymentsResource.key ns name)
  | .patch => (patchRoute crds request.path).bind PatchRoute.pathKey
  | .delete =>
      match DeleteRoute.builtin request.path with
      | some route => route.name.map (route.gvr.key route.ns)
      | none =>
          (customRoute crds request.target).bind fun (custom, crd) =>
            custom.target.name.map (Gvr.key ⟨custom.group, custom.version, custom.target.plural⟩
              (if crd.namespaced then custom.target.ns else none))
  | .get | .post => none

/-- Two stores with the same rows, up to the row of one key. -/
def ObjectStore.SameElsewhere (after before : ObjectStore) (key : ObjectKey) : Prop :=
  ∀ other, other ≠ key → after.row? other = before.row? other

/-! ## Names in documents -/

/-- A target whose name and namespace are not those of the key. -/
def Target.Renames (target : Target) (key : ObjectKey) : Prop :=
  boundKey target.ns target.name ≠ some (key.ns, key.name)

structure Write.For (write : Write) (gvr : Gvr) (target : Target) : Prop where
  kind : write.gvr = gvr
  bound : boundKey target.ns target.name = some (write.ns.getD "", write.name)

variable {gvr : Gvr} {target : Target}

theorem for_of_targetWrite
    {handler : ShimHandler} {spec status : Json} {write : Write}
    (made : target.write handler gvr spec status = some write) : write.For gvr target := by
  obtain ⟨⟨ns, name⟩, bound, rfl⟩ := Option.map_eq_some_iff.mp made
  exact ⟨rfl, bound⟩

variable {key : ObjectKey}

/-- A write for a target goes to another key exactly when the target has another
name or namespace. -/
theorem Write.For.key_ne_iff
    {write : Write} (made : write.For gvr target) (kind : key.gvr = gvr) :
    write.gvr.key write.ns write.name ≠ key ↔ target.Renames key := by
  obtain ⟨keyGvr, ns, name⟩ := key
  subst kind
  rw [Target.Renames, made.bound, made.kind]
  simp [Gvr.key]

variable {α : Type}

theorem ok_of_orRaise
    {value : Option α} {found : α}
    (made : orRaise value = .ok found) : value = some found := by
  cases value with
  | none => cases made
  | some given => exact congrArg some (Except.ok.inj made)

theorem bind_eq_ok {ε α β : Type} {first : Except ε α} {next : α → Except ε β} {value : β} :
    first >>= next = .ok value ↔ ∃ middle, first = .ok middle ∧ next middle = .ok value := by
  cases first with
  | error refusal => simp [bind, Except.bind]
  | ok middle => simp [bind, Except.bind]

/-! ### `PUT` -/

variable {rule : DocRule}

theorem for_of_docRuleWrite
    {handler : ShimHandler} {doc : Dict} {write : Write}
    (made : rule.write handler doc target = .ok write) : write.For rule.gvr target := by
  unfold DocRule.write at made
  split at made
  · cases made
  · obtain ⟨spec, -, rest⟩ := Option.bind_eq_some_iff.mp (ok_of_orRaise made)
    obtain ⟨status, -, stored⟩ := Option.bind_eq_some_iff.mp rest
    exact for_of_targetWrite stored

/-- The metadata of a document names another object than the path. -/
def DocRule.Renames (rule : DocRule) (doc : Json) (key : ObjectKey) : Prop :=
  ∃ entries target, rule.checked doc = .ok (entries, target) ∧ target.Renames key

theorem gvr_of_pathKey (named : rule.pathKey = some key) : key.gvr = rule.gvr := by
  obtain ⟨name, -, rfl⟩ := Option.map_eq_some_iff.mp named
  rfl

variable {doc : Json}

section Puts

variable {handler : ShimHandler} {outside : ShimOutside} {token : String}
variable {cached : Option Principal} {world : ShimWorld}

theorem stores_elsewhere_iff (kind : key.gvr = rule.gvr) :
    rule.Stores handler outside token cached world doc
        (fun write => write.gvr.key write.ns write.name ≠ key) ↔
      rule.Accepts handler outside token cached world doc ∧ rule.Renames doc key := by
  constructor
  · rintro ⟨entries, target, write, checked, allowed, made, strays⟩
    refine ⟨⟨entries, target, write, checked, allowed, made⟩, entries, target, checked, ?_⟩
    exact ((for_of_docRuleWrite made).key_ne_iff kind).mp strays
  · rintro ⟨⟨entries, target, write, checked, allowed, made⟩, _, _, same, renames⟩
    obtain ⟨rfl, rfl⟩ := Prod.mk.inj (Except.ok.inj (checked.symm.trans same))
    refine ⟨entries, target, write, checked, allowed, made, ?_⟩
    exact ((for_of_docRuleWrite made).key_ne_iff kind).mpr renames

theorem key_of_scaleWrite
    {ns : Option String} {name : String} {object : K8sObject} {write : Write}
    (made : scaleWrite ns name doc object = .ok write) :
    write.gvr.key write.ns write.name = deploymentsResource.key ns name := by
  unfold scaleWrite at made
  split at made
  · cases made
  · split at made
    · obtain ⟨spec, -, rest⟩ := Option.bind_eq_some_iff.mp (ok_of_orRaise made)
      obtain ⟨status, -, rfl⟩ := Option.map_eq_some_iff.mp rest
      rfl
    · cases made

end Puts

/-! ### `PATCH` -/

/-- What a patched core object is stored under. -/
def corePatchTarget (path : PathName) (md : Dict) : Target where
  metadata := md
  name := (Dict.get md "name").or (optional path.name)
  ns :=
    if (coreRule path).cluster then .null
    else (Dict.get md "namespace").or (optional path.ns)

/-- What a patched custom resource is stored under. -/
def customPatchTarget (path : CustomPath) (crd : CrdMeta) (md : Dict) : Target where
  metadata := md
  name := (Dict.get md "name").or (optional path.target.name)
  ns :=
    if crd.namespaced then (Dict.get md "namespace").or (optional path.target.ns)
    else .null

def corePatchedMetadata
    (path : PathName) (request : PatchRequest) (now : String)
    (object : K8sObject) : Except Refusal Dict := do
  let base ← orRaise ((toObj object).map Json.entries)
  let merged ← request.merged base
  request.metadata "v1" now object.metadata (mergedMetadata (coreRule path).secret merged)

def customPatchedMetadata
    (crd : CrdMeta) (request : PatchRequest)
    (object : K8sObject) : Except Refusal Dict := do
  let base ← orRaise ((renderCustomResource crd.kind object).map Json.entries)
  let merged ← request.merged base
  match (Dict.get merged "metadata").or (.dict []) with
  | .dict md => .ok md
  | _ => .error .raised

namespace ExtendedKind

def patchedMetadata
    (kind : ExtendedKind) (request : PatchRequest) (now : String) (object : K8sObject)
    (base : Dict) : Except Refusal Dict := do
  let merged ← request.merged base
  request.metadata (apiVersion kind.gvr) now object.metadata
    ((Dict.get merged "metadata").or (.dict []))

def createdMetadata
    (kind : ExtendedKind) (request : PatchRequest)
    (now : String) : Except Refusal Dict := do
  let merged ← request.merged []
  match (Dict.get merged "metadata").or (.dict []) with
  | .dict md => orRaise (request.appliedMetadata (apiVersion kind.gvr) now md)
  | _ => .error .raised

end ExtendedKind

section Writes

variable {handler : ShimHandler} {request : PatchRequest} {now : String}
variable {object : K8sObject} {write : Write}

variable {path : PathName}

theorem for_of_corePatch (made : corePatch handler path request now object = .ok write) :
    ∃ md, corePatchedMetadata path request now object = .ok md ∧
      write.For ⟨"", "v1", path.plural⟩ (corePatchTarget path md) := by
  obtain ⟨base, shown, made⟩ := bind_eq_ok.mp made
  obtain ⟨merged, patched, made⟩ := bind_eq_ok.mp made
  obtain ⟨md, metadata, made⟩ := bind_eq_ok.mp made
  refine ⟨md, bind_eq_ok.mpr ⟨base, shown, bind_eq_ok.mpr ⟨merged, patched, metadata⟩⟩, ?_⟩
  dsimp only at made
  split at made
  · cases made
  · exact for_of_targetWrite (ok_of_orRaise made)

theorem for_of_customPatch
    {path : CustomPath} {crd : CrdMeta}
    (made : customPatch handler path crd request object = .ok write) :
    ∃ md, customPatchedMetadata crd request object = .ok md ∧
      write.For ⟨path.group, path.version, path.target.plural⟩
        (customPatchTarget path crd md) := by
  obtain ⟨base, shown, made⟩ := bind_eq_ok.mp made
  obtain ⟨merged, patched, made⟩ := bind_eq_ok.mp made
  unfold customPatchedMetadata
  cases given : (Dict.get merged "metadata").or (.dict []) with
  | dict md =>
      refine ⟨md, bind_eq_ok.mpr ⟨base, shown, bind_eq_ok.mpr ⟨merged, patched, ?_⟩⟩, ?_⟩
      · rw [given]
      · rw [given] at made
        dsimp only at made
        split at made
        · cases made
        · split at made
          · obtain ⟨-, -, made⟩ := bind_eq_ok.mp made
            exact for_of_targetWrite (ok_of_orRaise made)
          · exact for_of_targetWrite (ok_of_orRaise made)
  | null | bool | int | float | str | list =>
      rw [given] at made
      cases made

variable {kind : ExtendedKind}

theorem for_of_extendedPatch
    {base : Dict} (made : kind.patch handler path request now object base = .ok write) :
    ∃ md, kind.patchedMetadata request now object base = .ok md ∧
      write.For kind.gvr (kind.patchTarget path md) := by
  obtain ⟨merged, patched, made⟩ := bind_eq_ok.mp made
  obtain ⟨md, metadata, made⟩ := bind_eq_ok.mp made
  refine ⟨md, bind_eq_ok.mpr ⟨merged, patched, metadata⟩, ?_⟩
  obtain ⟨injected, -, stored⟩ := Option.bind_eq_some_iff.mp (ok_of_orRaise made)
  exact for_of_targetWrite stored

theorem for_of_applyNew (made : kind.applyNew handler path request now = .ok write) :
    ∃ md, kind.createdMetadata request now = .ok md ∧
      write.For kind.gvr (kind.patchTarget path md) := by
  obtain ⟨merged, patched, made⟩ := bind_eq_ok.mp made
  unfold ExtendedKind.createdMetadata
  cases given : (Dict.get merged "metadata").or (.dict []) with
  | dict entries =>
      rw [given] at made
      obtain ⟨md, applied, made⟩ := bind_eq_ok.mp made
      obtain ⟨injected, -, made⟩ := bind_eq_ok.mp made
      refine ⟨md, bind_eq_ok.mpr ⟨merged, patched, ?_⟩, ?_⟩
      · rw [given]
        exact applied
      · dsimp only at made
        split at made
        · cases made
        · exact for_of_targetWrite (ok_of_orRaise made)
  | null | bool | int | float | str | list =>
      rw [given] at made
      cases made

end Writes

section Patches

variable (handler : ShimHandler) (outside : ShimOutside) (world : ShimWorld)

/-- The metadata after a patch names another object than the path. -/
def PatchRoute.Renames
    (request : PatchRequest) (now : String) (object : K8sObject)
    (key : ObjectKey) : PatchRoute → Prop
  | .core path =>
      ∃ md, corePatchedMetadata path request now object = .ok md ∧
        (corePatchTarget path md).Renames key
  | .custom path crd =>
      ∃ md, customPatchedMetadata crd request object = .ok md ∧
        (customPatchTarget path crd md).Renames key
  | .extended kind path =>
      ∃ base after md, runAlone (ShimOp.execute outside) (kind.shown object) world =
          (some base, after) ∧
        kind.patchedMetadata request now object base.entries = .ok md ∧
        (kind.patchTarget path md).Renames key

/-- The metadata of an object that a patch creates names another object than the
path. -/
def PatchRoute.RenamesNew
    (request : PatchRequest) (now : String)
    (key : ObjectKey) : PatchRoute → Prop
  | .extended kind path =>
      ∃ md, kind.createdMetadata request now = .ok md ∧ (kind.patchTarget path md).Renames key
  | _ => False

/-- The metadata that a `PATCH` leads to names another object than its path. -/
def PatchRenames (path : String) (request : PatchRequest) (key : ObjectKey) : Prop :=
  ∃ route, patchRoute world.crds path = some route ∧
    match route.name.bind fun name => world.store.get route.gvr route.ns name with
    | some object =>
        route.Renames outside { world with calls := world.calls + 1 } request
          (outside.timestamps world.calls) object key
    | none => route.RenamesNew request (outside.timestamps world.calls) key

variable {handler outside world}

variable {route : PatchRoute}

theorem patchRoute_stores_elsewhere_iff
    {request : PatchRequest} {now : String} {object : K8sObject} (kind : key.gvr = route.gvr) :
    route.Stores handler outside world request now object
        (fun write => write.gvr.key write.ns write.name ≠ key) ↔
      route.Accepts handler outside world request now object ∧
        route.Renames outside world request now object key := by
  cases route with
  | core path =>
      constructor
      · rintro ⟨write, made, strays⟩
        obtain ⟨md, patched, stored⟩ := for_of_corePatch made
        exact ⟨⟨write, made⟩, md, patched, (stored.key_ne_iff kind).mp strays⟩
      · rintro ⟨⟨write, made⟩, md, patched, renames⟩
        obtain ⟨other, same, stored⟩ := for_of_corePatch made
        obtain rfl := Except.ok.inj (patched.symm.trans same)
        exact ⟨write, made, (stored.key_ne_iff kind).mpr renames⟩
  | custom path crd =>
      constructor
      · rintro ⟨write, made, strays⟩
        obtain ⟨md, patched, stored⟩ := for_of_customPatch made
        exact ⟨⟨write, made⟩, md, patched, (stored.key_ne_iff kind).mp strays⟩
      · rintro ⟨⟨write, made⟩, md, patched, renames⟩
        obtain ⟨other, same, stored⟩ := for_of_customPatch made
        obtain rfl := Except.ok.inj (patched.symm.trans same)
        exact ⟨write, made, (stored.key_ne_iff kind).mpr renames⟩
  | extended extended path =>
      constructor
      · rintro ⟨base, after, write, shown, made, strays⟩
        obtain ⟨md, patched, stored⟩ := for_of_extendedPatch made
        exact ⟨⟨base, after, write, shown, made⟩, base, after, md, shown, patched,
          (stored.key_ne_iff kind).mp strays⟩
      · rintro ⟨⟨base, after, write, shown, made⟩, _, _, md, again, patched, renames⟩
        obtain ⟨equal, rfl⟩ := Prod.mk.inj (shown.symm.trans again)
        obtain rfl := Option.some.inj equal
        obtain ⟨other, same, stored⟩ := for_of_extendedPatch made
        obtain rfl := Except.ok.inj (patched.symm.trans same)
        exact ⟨base, after, write, shown, made, (stored.key_ne_iff kind).mpr renames⟩

theorem patchRoute_creates_elsewhere_iff
    {request : PatchRequest} {now : String} (kind : key.gvr = route.gvr) :
    (∃ write, route.create handler request now = .ok write ∧
        write.gvr.key write.ns write.name ≠ key) ↔
      (∃ write, route.create handler request now = .ok write) ∧
        route.RenamesNew request now key := by
  cases route with
  | core path => simp [PatchRoute.create]
  | custom path crd => simp [PatchRoute.create]
  | extended extended path =>
      simp only [PatchRoute.create, PatchRoute.RenamesNew]
      split
      · constructor
        · rintro ⟨write, made, strays⟩
          obtain ⟨md, created, stored⟩ := for_of_applyNew made
          exact ⟨⟨write, made⟩, md, created, (stored.key_ne_iff kind).mp strays⟩
        · rintro ⟨⟨write, made⟩, md, created, renames⟩
          obtain ⟨other, same, stored⟩ := for_of_applyNew made
          obtain rfl := Except.ok.inj (created.symm.trans same)
          exact ⟨write, made, (stored.key_ne_iff kind).mpr renames⟩
      · simp

theorem patchStores_elsewhere_iff
    {path : String} {request : PatchRequest}
    (named : (patchRoute world.crds path).bind PatchRoute.pathKey = some key) :
    PatchStores handler outside world path request
        (fun write => write.gvr.key write.ns write.name ≠ key) ↔
      PatchAccepts handler outside world path request ∧
        PatchRenames outside world path request key := by
  obtain ⟨route, routed, addressed⟩ := Option.bind_eq_some_iff.mp named
  have kind : key.gvr = route.gvr := by
    obtain ⟨name, -, rfl⟩ := Option.map_eq_some_iff.mp addressed
    rfl
  simp only [PatchStores, PatchAccepts, PatchRenames, routed, Option.some.injEq, exists_eq_left']
  cases route.name.bind fun name => world.store.get route.gvr route.ns name with
  | some object => exact patchRoute_stores_elsewhere_iff kind
  | none => exact patchRoute_creates_elsewhere_iff kind

end Patches

/-! ## Requests -/

section Requests

variable (handler : ShimHandler) (outside : ShimOutside) (request : Request)
variable (world : ShimWorld)

/-- The request passes the gate, is accepted, and its document, or the metadata
that its patch leads to, has another name or namespace than the path. -/
def NamesAnother (key : ObjectKey) : Prop :=
  ∃ cached entered, runAlone (ShimOp.execute outside)
      (authz handler .read request.token) world = (some (some cached), entered) ∧
    ∃ doc, request.document handler = some doc ∧
      match request.method with
      | .put =>
          PutAccepts handler outside request.token cached entered request.path doc ∧
            ∃ rule, putRoute world.crds request.path = some (.document rule) ∧ rule.Renames doc key
      | .patch =>
          PatchAccepts handler outside entered request.path (request.asPatch doc) ∧
            PatchRenames outside entered request.path (request.asPatch doc) key
      | .get | .post | .delete => False

variable {handler outside request world}

/-- The decision changes another row than that of the key. -/
def Decision.Strays (store : ObjectStore) (key : ObjectKey) (decision : Decision) : Prop :=
  ∃ other, other ≠ key ∧ decision.ChangesAt store other

theorem reports_strays (store : ObjectStore) (key : ObjectKey) :
    Decision.Reports (Decision.Strays store key)
      fun write => write.gvr.key write.ns write.name ≠ key := by
  refine ⟨fun status => ?_, ?_, fun basis write crdName => ?_⟩
  · simp [Decision.Strays, Decision.ChangesAt]
  · simp [Decision.Strays, Decision.ChangesAt]
  · simp [Decision.Strays, Decision.ChangesAt]

theorem sameElsewhere_afterRequest_iff (key : ObjectKey) :
    (afterRequest handler outside request world).store.SameElsewhere world.store key ↔
      ¬ Leads (ShimOp.execute outside) (fun decision _ => decision.Strays world.store key)
        (decideRequest handler request) world := by
  simp only [ObjectStore.SameElsewhere, row?_afterRequest_iff, leads_iff_runAlone, Decision.Strays]
  constructor
  · rintro same ⟨decision, after, ran, other, apart, changes⟩
    exact same other apart ⟨decision, after, ran, changes⟩
  · rintro none other apart ⟨decision, after, ran, changes⟩
    exact none ⟨decision, after, ran, other, apart, changes⟩

/-- The gate leaves the registered custom resources alone. -/
theorem crds_of_authz
    {cached : Option Principal} {entered : ShimWorld}
    (passed : runAlone (ShimOp.execute outside) (authz handler .read request.token)
      world = (some (some cached), entered)) : entered.crds = world.crds := by
  have kept := (harmless_authz handler .read request.token).kept_runAlone outside world
  rw [passed] at kept
  exact congrArg Prod.snd kept

theorem leads_authz_iff
    {post : Decision → Prop} {wrote : Write → Prop} (reports : Decision.Reports post wrote)
    (role : Role) (next : Option Principal → ShimProgram Decision) :
    Leads (ShimOp.execute outside) (fun decision _ => post decision)
        ((authz handler role request.token).andThen fun found =>
          match found with
          | none => pure (.respond .unauthorized)
          | some cached => next cached) world ↔
      ∃ cached entered, runAlone (ShimOp.execute outside)
          (authz handler role request.token) world = (some (some cached), entered) ∧
        Leads (ShimOp.execute outside) (fun decision _ => post decision) (next cached)
          entered := by
  rw [leads_andThen, leads_iff_runAlone]
  constructor
  · rintro ⟨_ | cached, entered, passed, leads⟩
    · exact absurd leads (reports.respond _)
    · exact ⟨cached, entered, passed, leads⟩
  · rintro ⟨cached, entered, passed, leads⟩
    exact ⟨some cached, entered, passed, leads⟩

theorem putStores_elsewhere_iff
    {cached : Option Principal} {token path : String}
    (named : (match putRoute world.crds path with
      | none => none
      | some (.document rule) => rule.pathKey
      | some (.scale ns name) => some (deploymentsResource.key ns name)) = some key) :
    PutStores handler outside token cached world path doc
        (fun write => write.gvr.key write.ns write.name ≠ key) ↔
      PutAccepts handler outside token cached world path doc ∧
        ∃ rule, putRoute world.crds path = some (.document rule) ∧ rule.Renames doc key := by
  unfold PutStores PutAccepts
  split at named
  · cases named
  · next rule routed =>
      rw [routed]
      simpa using stores_elsewhere_iff (gvr_of_pathKey named)
  · next ns name routed =>
      rw [routed]
      obtain rfl := Option.some.inj named
      constructor
      · rintro ⟨object, write, stored, made, strays⟩
        exact absurd (key_of_scaleWrite made) strays
      · rintro ⟨-, rule, equal, -⟩
        cases Option.some.inj equal

theorem leads_strays_doPut_iff
    (put : request.method = .put) (named : namedKey world.crds request = some key) :
    Leads (ShimOp.execute outside) (fun decision _ => decision.Strays world.store key)
        (doPut handler request) world ↔
      NamesAnother handler outside request world key := by
  refine (leads_authz_iff (reports_strays world.store key) .read _).trans ?_
  unfold NamesAnother
  refine exists_congr fun cached => exists_congr fun entered =>
    and_congr_right fun passed => ?_
  have crds := crds_of_authz passed
  simp only [namedKey, put, ← crds] at named
  rw [bind_eq, leads_andThen, leads_ofOption]
  refine exists_congr fun doc => and_congr_right fun _ => ?_
  rw [leads_putDecision (reports_strays world.store key), put, ← crds]
  exact putStores_elsewhere_iff named

theorem leads_strays_doPatch_iff
    (patch : request.method = .patch) (named : namedKey world.crds request = some key) :
    Leads (ShimOp.execute outside) (fun decision _ => decision.Strays world.store key)
        (doPatch handler request) world ↔
      NamesAnother handler outside request world key := by
  refine (leads_authz_iff (reports_strays world.store key) .read _).trans ?_
  unfold NamesAnother
  refine exists_congr fun cached => exists_congr fun entered =>
    and_congr_right fun passed => ?_
  have crds := crds_of_authz passed
  simp only [namedKey, patch, ← crds] at named
  rw [bind_eq, leads_andThen, leads_ofOption]
  refine exists_congr fun doc => and_congr_right fun _ => ?_
  rw [leads_patchDecision (reports_strays world.store key), patch]
  exact patchStores_elsewhere_iff named

/-- A `DELETE` of a named object changes no other. -/
theorem not_leads_strays_doDelete
    (delete : request.method = .delete) (named : namedKey world.crds request = some key) :
    ¬ Leads (ShimOp.execute outside) (fun decision _ => decision.Strays world.store key)
        (doDelete handler request) world := by
  have reports := reports_strays world.store key
  have straight : ∀ gvr ns name unregister, gvr.key ns name = key →
      ¬ (Decision.delete gvr ns name unregister).Strays world.store key := by
    rintro gvr ns name unregister rfl ⟨other, apart, equal, -⟩
    exact apart equal.symm
  intro decided
  obtain ⟨cached, entered, passed, leads⟩ := (leads_authz_iff reports .read _).mp decided
  have crds := crds_of_authz passed
  simp only [namedKey, delete, ← crds] at named
  unfold deleteDecision at leads
  cases routed : DeleteRoute.builtin request.path with
  | some route =>
      simp only [routed, bind_eq, pure_eq, leads_andThen, leads_done] at named leads
      obtain ⟨allowed, after, -, strays⟩ := (leads_iff_runAlone _ _ _).mp leads
      obtain ⟨name, given, equal⟩ := Option.map_eq_some_iff.mp named
      simp only [DeleteRoute.decision, given] at strays
      split at strays
      · exact straight _ _ _ _ equal strays
      · exact reports.respond _ strays
  | none =>
      simp only [routed, bind_eq, pure_eq, leads_andThen] at named leads
      rw [leads_of_runAlone_eq (runAlone_lookupCustom request.target)] at leads
      obtain ⟨⟨custom, crd⟩, found, named⟩ := Option.bind_eq_some_iff.mp named
      obtain ⟨name, given, equal⟩ := Option.map_eq_some_iff.mp named
      dsimp only at given equal
      obtain ⟨looked, same, leads⟩ := leads
      obtain rfl := (Option.some.inj same).symm.trans found
      simp only [leads_done, customDelete, given] at leads
      split at leads
      · exact reports.respond _ leads
      · exact straight _ _ _ _ equal leads

/-- A `PUT`, a `PATCH` or a `DELETE` of a named object leaves all other objects as
they are exactly when it does not name another object in its document. -/
theorem sameElsewhere_iff
    {key : ObjectKey} (named : namedKey world.crds request = some key) :
    (afterRequest handler outside request world).store.SameElsewhere world.store key ↔
      ¬ NamesAnother handler outside request world key := by
  rw [sameElsewhere_afterRequest_iff]
  refine not_congr ?_
  unfold decideRequest
  cases method : request.method with
  | get => simp [namedKey, method] at named
  | post => simp [namedKey, method] at named
  | put => exact leads_strays_doPut_iff method named
  | patch => exact leads_strays_doPatch_iff method named
  | delete =>
      refine iff_of_false (not_leads_strays_doDelete method named) ?_
      rintro ⟨cached, entered, -, doc, -, never⟩
      simp [method] at never

end Requests

/-! ## Two overwritten secrets -/

/-- A `PUT` under one name with a document of another. -/
def overwriteOther : Request :=
  readerRequest .put "/api/v1/namespaces/default/secrets/web"
    "\x7b\"metadata\": \x7b\"name\": \"db\"\x7d\x7d"

/-- Whether a document names the object of the key, where the branch accepts it. -/
def PutRoute.namesPath (doc : Json) (key : ObjectKey) : PutRoute → Bool
  | .document rule =>
      match rule.checked doc with
      | .ok (_, target) => boundKey target.ns target.name == some (key.ns, key.name)
      | .error _ => true
  | .scale _ _ => true

/-- Overwriting a secret with a document that has no name changes no other
object. -/
theorem sameElsewhere_overwriteSecret :
    namedKey dbSecret.crds overwriteSecret = some ⟨⟨"", "v1", "secrets"⟩, "default", "db"⟩ ∧
      (afterRequest openHandler stillOutside overwriteSecret dbSecret).store.SameElsewhere
        dbSecret.store ⟨⟨"", "v1", "secrets"⟩, "default", "db"⟩ := by
  have named : namedKey dbSecret.crds overwriteSecret =
      some ⟨⟨"", "v1", "secrets"⟩, "default", "db"⟩ := by
    decide +kernel
  refine ⟨named, (sameElsewhere_iff named).mpr ?_⟩
  rintro ⟨cached, entered, -, doc, given, -, rule, routed, entries, target, checked, renames⟩
  have agrees : (overwriteSecret.document openHandler).all (fun doc =>
      (putRoute dbSecret.crds overwriteSecret.path).all
        (PutRoute.namesPath doc ⟨⟨"", "v1", "secrets"⟩, "default", "db"⟩)) = true := by
    decide +kernel
  rw [given, routed] at agrees
  simp only [Option.all_some, PutRoute.namesPath, checked, beq_iff_eq] at agrees
  exact renames agrees

/-- A document of another name replaces the object of that name. -/
theorem not_sameElsewhere_overwriteOther :
    namedKey dbSecret.crds overwriteOther = some ⟨⟨"", "v1", "secrets"⟩, "default", "web"⟩ ∧
      ¬ (afterRequest openHandler stillOutside overwriteOther dbSecret).store.SameElsewhere
        dbSecret.store ⟨⟨"", "v1", "secrets"⟩, "default", "web"⟩ := by
  refine ⟨by decide +kernel, fun same => ?_⟩
  exact absurd (same ⟨⟨"", "v1", "secrets"⟩, "default", "db"⟩ (by decide)) (by decide +kernel)

end ApiShim
end K1s
