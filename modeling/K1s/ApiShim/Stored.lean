import K1s.ApiShim.MalformedBodies

/-!
# What a request stores

A request stores at most one object.  `RequestStores` says of a request that it
stores one by a write of some sort, in terms of the route, the document and the
stored objects; `afterRequest_cases` says what becomes of the rows, so that an
invariant of the store is decided by the writes alone.
-/

namespace K1s
namespace ApiShim

open Py Program

/-! ## Writes -/

namespace Write

def key (write : Write) : ObjectKey := write.gvr.key write.ns write.name

def row (write : Write) (version : Nat) : ObjectRow :=
  ⟨write.metadata, write.spec, write.status.or (.dict []), version⟩

end Write

def Decision.Stores (wrote : Write → Prop) : Decision → Prop
  | .upsert _ write _ => wrote write
  | .respond _ | .answer | .delete _ _ _ _ | .deleteAll _ _ _ => False

theorem reports_stores (wrote : Write → Prop) :
    Decision.Reports (Decision.Stores wrote) wrote :=
  ⟨fun _ => not_false, not_false, fun _ _ _ => Iff.rfl⟩

/-- A write that a store takes over, and the rows that it leaves. -/
structure ObjectStore.Takes (after before : ObjectStore) (write : Write) : Prop where
  rows : ∀ key, after.row? key =
    if write.key = key then some (write.row before.nextRv) else before.row? key

/-- A store that has lost rows and is otherwise the same. -/
def ObjectStore.Within (after before : ObjectStore) : Prop :=
  ∀ key row, after.row? key = some row → before.row? key = some row

theorem ObjectStore.Takes.row?_self
    {after before : ObjectStore} {write : Write} (takes : after.Takes before write) :
    after.row? write.key = some (write.row before.nextRv) := by
  rw [takes.rows, if_pos rfl]

theorem ObjectStore.Takes.row?_of_ne
    {after before : ObjectStore} {write : Write} (takes : after.Takes before write)
    {key : ObjectKey}
    (apart : key ≠ write.key) : after.row? key = before.row? key := by
  rw [takes.rows, if_neg (Ne.symm apart)]

/-- What becomes of the rows: the decision stores an object, or it stores none and
the rows that are left are those of before. -/
theorem Decision.rowAfter_cases (store : ObjectStore) (decision : Decision) :
    (∃ write, (∀ wrote, decision.Stores wrote ↔ wrote write) ∧ ∀ key, decision.rowAfter store key =
        if write.key = key then some (write.row store.nextRv) else store.row? key) ∨
    (∀ wrote, ¬ decision.Stores wrote) ∧
      ∀ key row, decision.rowAfter store key = some row → store.row? key = some row := by
  cases decision with
  | respond status => exact .inr ⟨fun _ => not_false, fun _ _ same => same⟩
  | answer => exact .inr ⟨fun _ => not_false, fun _ _ same => same⟩
  | upsert basis write crdName => exact .inl ⟨write, fun _ => Iff.rfl, fun _ => rfl⟩
  | delete gvr ns name unregister =>
      refine .inr ⟨fun _ => not_false, fun key row left => ?_⟩
      simp only [Decision.rowAfter] at left
      split at left
      · cases left
      · exact left
  | deleteAll gvr ns cluster =>
      refine .inr ⟨fun _ => not_false, fun key row left => ?_⟩
      simp only [Decision.rowAfter] at left
      split at left
      · cases left
      · exact left

/-! ## The store after a request -/

section After

variable {handler : ShimHandler} {outside : ShimOutside} {request : Request}
variable {world : ShimWorld}

/-- A request stores one object, or it stores none and at most loses rows. -/
theorem afterRequest_cases
    (handler : ShimHandler) (outside : ShimOutside) (request : Request) (world : ShimWorld) :
    (∃ write, (∀ wrote, Leads (ShimOp.execute outside)
        (fun decision _ => decision.Stores wrote) (decideRequest handler request) world ↔
          wrote write) ∧
      (afterRequest handler outside request world).store.Takes world.store write) ∨
    (∀ wrote, ¬ Leads (ShimOp.execute outside)
        (fun decision _ => decision.Stores wrote) (decideRequest handler request) world) ∧
      (afterRequest handler outside request world).store.Within world.store := by
  have kept := (harmless_decideRequest handler request).kept_runAlone outside world
  unfold afterRequest handle
  rw [runAlone_andThen]
  simp only [leads_iff_runAlone]
  rcases ran : runAlone (ShimOp.execute outside) (decideRequest handler request) world
    with ⟨_ | decision, after⟩
  · rw [ran] at kept
    have same : after.store = world.store := congrArg Prod.fst kept
    refine .inr ⟨by simp, fun key row left => ?_⟩
    rwa [← same]
  · rw [ran] at kept
    have same : after.store = world.store := congrArg Prod.fst kept
    rcases decision.rowAfter_cases world.store with ⟨write, stores, rows⟩ | ⟨none, rows⟩
    · refine .inl ⟨write, fun wrote => ?_, ⟨fun key => ?_⟩⟩
      · simpa using stores wrote
      · rw [row?_carryOut, same, rows]
    · refine .inr ⟨fun wrote => by simpa using none wrote, fun key row left => ?_⟩
      rw [row?_carryOut, same] at left
      exact rows key row left

/-- A property that each row has by itself is kept by a request unless it stores a
row that has it not. -/
theorem forall_rows_afterRequest_iff
    {property : ObjectKey → ObjectRow → Prop}
    (held : ∀ key row, world.store.row? key = some row → property key row) :
    (∀ key row, (afterRequest handler outside request world).store.row? key = some row →
        property key row) ↔
      ¬ Leads (ShimOp.execute outside) (fun decision _ => decision.Stores fun write =>
          ¬ property write.key (write.row world.store.nextRv))
        (decideRequest handler request) world := by
  rcases afterRequest_cases handler outside request world with
    ⟨write, stores, takes⟩ | ⟨none, within⟩
  · rw [stores, not_not]
    constructor
    · intro all
      exact all _ _ takes.row?_self
    · intro written key row stored
      by_cases same : key = write.key
      · subst same
        obtain rfl := Option.some.inj (takes.row?_self.symm.trans stored)
        exact written
      · exact held key row ((takes.row?_of_ne same).symm.trans stored)
  · refine iff_of_true (fun key row stored => ?_) (none _)
    exact held key row (within key row stored)

end After

/-! ## The documents that are stored -/

section Requests

variable (handler : ShimHandler) (outside : ShimOutside) (token : String)
variable (cached : Option Principal) (world : ShimWorld)

/-- The spec and the status that a new core object is given. -/
def createdContent
    (plural : String) (ns : Json) (name : String) (doc : Dict) : Except Refusal (Json × Json) :=
  if plural = "services" then
    serviceContent handler ns (.str name) doc (world.store.listAll servicesResource)
      (outside.services world.calls) (outside.services (world.calls + 1))
  else .ok (coreSpec plural doc, plainStatus doc)

/-- The metadata of a document, with the type of a secret. -/
def createdMd (path : PathName) (doc md : Dict) : Dict :=
  if (coreRule path).secret then setSecretType md (Dict.get doc "type") else md

/-- A `POST` of a core object makes a write of this sort. -/
def CoreStores (path : PathName) (doc : Json) (wrote : Write → Prop) : Prop :=
  ∃ entries md name named, doc = .dict entries ∧
    (Dict.get entries "metadata").or (.dict []) = .dict md ∧
    runAlone (ShimOp.execute outside)
      (resolveCreateName ⟨"", "v1", path.plural⟩ path.ns md path.name) world = (some name, named) ∧
    name ≠ "" ∧ validName (.str name) = true ∧
    (createdNs path md = .null ∨ validName (createdNs path md) = true) ∧
    ∃ stamped after write, runAlone (ShimOp.execute outside)
        (coreMetadata handler path.plural (createdMd path entries md) (createdNs path md)
          name) named = (some stamped, after) ∧
      writeContent handler ⟨"", "v1", path.plural⟩ ⟨stamped, .str name, createdNs path md⟩
        (createdContent handler outside after path.plural (createdNs path md) name
          entries) = .ok write ∧
      wrote write

/-- A `POST` of a document makes a write of this sort. -/
def PostStores (path : String) (doc : Json) (wrote : Write → Prop) : Prop :=
  match postRoute world.crds path with
  | none => False
  | some (.core path) => CoreStores handler outside world path doc wrote
  | some (.document rule) => rule.Stores handler outside token cached world doc wrote

/-- A `GET` stores a service account with a new token by a write of this sort. -/
def GetStores (path : String) (wrote : Write → Prop) : Prop :=
  ∃ ns name allowed object md after, accountPath path = some (ns, name) ∧
    runAlone (ShimOp.execute outside)
      (rbacCheck handler token cached "get" "serviceaccounts" none) world = (some true, allowed) ∧
    world.store.get serviceAccountsResource ns name = some object ∧
    runAlone (ShimOp.execute outside) (refreshSaToken handler ns name object) allowed =
      (some (some md), after) ∧
    wrote ⟨serviceAccountsResource, ns, name, md, object.spec, object.status⟩

variable (request : Request)

def BodyStores (doc : Json) (wrote : Write → Prop) : Prop :=
  match request.method with
  | .put => PutStores handler outside request.token cached world request.path doc wrote
  | .patch => PatchStores handler outside world request.path (request.asPatch doc) wrote
  | .post =>
      streamPath request.path = none ∧ answersOnly request.path = false ∧
        PostStores handler outside request.token cached world request.path doc wrote
  | .get | .delete => False

/-- A request passes the gate and stores an object by a write of this sort. -/
def RequestStores (wrote : Write → Prop) : Prop :=
  (∃ cached entered doc, runAlone (ShimOp.execute outside)
      (authz handler request.gateRole request.token) world = (some (some cached), entered) ∧
    request.document handler = some doc ∧
    BodyStores handler outside cached entered request doc wrote) ∨
  request.method = .get ∧ publicPaths.contains request.path = false ∧
    ∃ cached entered, runAlone (ShimOp.execute outside)
        (authz handler (getRole request) request.token) world = (some (some cached), entered) ∧
      GetStores handler outside request.token cached entered request.path wrote

end Requests

section Branches

variable {handler : ShimHandler} {outside : ShimOutside} {token : String}
variable {cached : Option Principal} {world : ShimWorld} {request : Request}
variable {post : Decision → Prop} {wrote : Write → Prop}

variable (handler outside world) in
/-- What a new core object is given does not depend on what else is asked for. -/
theorem runAlone_coreContent (plural : String) (ns : Json) (name : String) (doc : Dict) :
    ∃ after, runAlone (ShimOp.execute outside) (coreContent handler plural ns name doc) world =
      (some (createdContent handler outside world plural ns name doc), after) := by
  unfold coreContent createdContent
  split
  · exact ⟨_, rfl⟩
  · exact ⟨_, rfl⟩

theorem leads_createNamed
    (reports : Decision.Reports post wrote) (path : PathName) (doc md : Dict) (name : String) :
    Leads (ShimOp.execute outside) (fun decision _ => post decision)
        (createNamed handler path doc md name) world ↔
      validName (.str name) = true ∧
        (createdNs path md = .null ∨ validName (createdNs path md) = true) ∧
        ∃ stamped after write, runAlone (ShimOp.execute outside)
            (coreMetadata handler path.plural (createdMd path doc md) (createdNs path md)
              name) world = (some stamped, after) ∧
          writeContent handler ⟨"", "v1", path.plural⟩
            ⟨stamped, .str name, createdNs path md⟩
            (createdContent handler outside after path.plural (createdNs path md) name
              doc) = .ok write ∧
          wrote write := by
  have checks := find?_coreChecks_eq_none_iff path (.str name) (createdNs path md)
  unfold createNamed
  simp only
  rw [← createdNs, ← createdMd]
  cases failed : (coreRule path).checks.find? fun check =>
      !check.passes (.str name) (createdNs path md) with
  | some check =>
      rw [failed] at checks
      simp only [leads_done, reports.respond, false_iff, not_and]
      intro named given
      exact absurd (checks.mpr ⟨named, given⟩) (by simp)
  | none =>
      obtain ⟨named, given⟩ := checks.mp failed
      simp only [named, given, true_and, bind_eq, leads_andThen, leads_storing reports]
      rw [leads_iff_runAlone]
      refine exists_congr fun stamped => exists_congr fun after => ?_
      obtain ⟨last, made⟩ := runAlone_coreContent handler outside after path.plural
        (createdNs path md) name doc
      rw [leads_of_runAlone made]
      simp only [exists_and_left]
      exact Iff.rfl

theorem leads_createCore
    (reports : Decision.Reports post wrote) (path : PathName) (doc : Json) :
    Leads (ShimOp.execute outside) (fun decision _ => post decision)
        (createCore handler path doc) world ↔
      CoreStores handler outside world path doc wrote := by
  unfold createCore CoreStores
  cases doc with
  | dict entries =>
      simp only
      cases metadata : (Dict.get entries "metadata").or (.dict []) with
      | dict md =>
          simp only [bind_eq, pure_eq, leads_andThen]
          rw [leads_iff_runAlone]
          constructor
          · rintro ⟨name, named, ran, leads⟩
            by_cases empty : name = ""
            · simp [empty, reports.respond] at leads
            · rw [if_neg empty, leads_createNamed reports] at leads
              exact ⟨entries, md, name, named, rfl, metadata, ran, empty, leads⟩
          · rintro ⟨_, _, name, named, equal, found, ran, nonempty, stores⟩
            obtain rfl := Json.dict.inj equal
            obtain rfl := Json.dict.inj (metadata.symm.trans found)
            refine ⟨name, named, ran, ?_⟩
            rw [if_neg nonempty, leads_createNamed reports]
            exact stores
      | _ => simp [metadata]
  | _ => simp

/-- Behind its gate, what a `POST` comes to. -/
theorem leads_createDecision (reports : Decision.Reports post wrote) (request : Request) :
    Leads (ShimOp.execute outside) (fun decision _ => post decision)
        (createDecision handler request cached) world ↔
      streamPath request.path = none ∧ answersOnly request.path = false ∧
        ∃ doc, request.document handler = some doc ∧
          PostStores handler outside request.token cached world request.path doc wrote := by
  unfold createDecision
  cases streamPath request.path with
  | some stream =>
      have refused : ∀ (allowed : Bool) (after : ShimWorld),
          post (if allowed then Decision.answer else .respond .forbidden) ↔ False := by
        intro allowed after
        cases allowed <;> simp [reports.answer, reports.respond]
      simp only [bind_eq, pure_eq, leads_andThen, leads_done]
      rw [leads_congr _ _ refused, leads_iff_runAlone]
      simp
  | none =>
      cases answersOnly request.path with
      | true => simp [reports.answer]
      | false =>
          simp only [Bool.false_eq_true, if_false, bind_eq, leads_andThen, leads_ofOption,
            true_and]
          refine exists_congr fun doc => and_congr_right fun _ => ?_
          unfold postDecision PostStores
          rw [bind_eq, leads_andThen, leads_of_runAlone_eq (runAlone_findPostRoute request.path)]
          simp only [Option.some.injEq, exists_eq_left']
          rcases postRoute world.crds request.path with _ | path | rule
          · simp [reports.respond]
          · exact leads_createCore reports path doc
          · exact leads_docRule reports rule doc

/-- Behind its gate, what reading a service account comes to. -/
theorem leads_readServiceAccount
    (reports : Decision.Reports post wrote) (ns : Option String) (name : String) :
    Leads (ShimOp.execute outside) (fun decision _ => post decision)
        (readServiceAccount handler token cached ns name) world ↔
      ∃ allowed object md after, runAlone (ShimOp.execute outside)
          (rbacCheck handler token cached "get" "serviceaccounts" none) world =
            (some true, allowed) ∧
        world.store.get serviceAccountsResource ns name = some object ∧
        runAlone (ShimOp.execute outside) (refreshSaToken handler ns name object) allowed =
          (some (some md), after) ∧
        wrote ⟨serviceAccountsResource, ns, name, md, object.spec, object.status⟩ := by
  have kept := (harmless_rbacCheck handler token cached "get" "serviceaccounts"
    none).kept_runAlone outside world
  unfold readServiceAccount
  rw [bind_eq, leads_andThen, leads_iff_runAlone]
  constructor
  · rintro ⟨_ | _, entered, passed, leads⟩
    · exact absurd leads (reports.respond _)
    · rw [passed] at kept
      have same : entered.store = world.store := congrArg Prod.fst kept
      simp only [Bool.not_true, Bool.false_eq_true, if_false, bind_eq, leads_andThen,
        leads_shimGet, same] at leads
      cases found : world.store.get serviceAccountsResource ns name with
      | none => simp [found, reports.respond] at leads
      | some object =>
          simp only [found, leads_andThen] at leads
          obtain ⟨refreshed, after, ran, leads⟩ := (leads_iff_runAlone _ _ _).mp leads
          cases refreshed with
          | none => exact absurd leads reports.answer
          | some md => exact ⟨entered, object, md, after, passed, rfl, ran,
              (reports.upsert ..).mp leads⟩
  · rintro ⟨entered, object, md, after, passed, found, ran, holds⟩
    rw [passed] at kept
    have same : entered.store = world.store := congrArg Prod.fst kept
    refine ⟨true, entered, passed, ?_⟩
    simp only [Bool.not_true, Bool.false_eq_true, if_false, bind_eq, leads_andThen,
      leads_shimGet, same, found]
    exact (leads_iff_runAlone _ _ _).mpr ⟨some md, after, ran, (reports.upsert ..).mpr holds⟩

/-- Behind its gate, a `DELETE` stores nothing. -/
theorem not_leads_stores_deleteDecision (wrote : Write → Prop) (request : Request) :
    ¬ Leads (ShimOp.execute outside) (fun decision _ => decision.Stores wrote)
      (deleteDecision handler request cached) world := by
  have deletes : ∀ route : DeleteRoute, ¬ route.decision.Stores wrote := by
    intro route
    unfold DeleteRoute.decision
    cases route.name <;> exact not_false
  unfold deleteDecision
  cases DeleteRoute.builtin request.path with
  | some route =>
      simp only [bind_eq, pure_eq, leads_andThen, leads_done]
      rw [leads_iff_runAlone]
      rintro ⟨allowed, after, -, stores⟩
      cases allowed with
      | false => exact stores
      | true => exact deletes route stores
  | none =>
      simp only [bind_eq, pure_eq, leads_andThen]
      rw [leads_of_runAlone_eq (runAlone_lookupCustom request.target)]
      rintro ⟨found, -, stores⟩
      rcases found with _ | ⟨custom, crd⟩
      · exact stores
      · revert stores
        simp only [leads_done, customDelete]
        split
        · exact id
        · cases custom.target.name <;> exact id

/-- What a request stores, from its route, its document and the stored objects. -/
theorem leads_stores_iff :
    Leads (ShimOp.execute outside) (fun decision _ => decision.Stores wrote)
        (decideRequest handler request) world ↔
      RequestStores handler outside world request wrote := by
  have reports := reports_stores wrote
  unfold decideRequest RequestStores BodyStores Request.gateRole
  cases method : request.method with
  | get =>
      simp only [and_false, exists_false, false_or, true_and]
      unfold doGet
      cases publicPaths.contains request.path with
      | true => simp [Decision.Stores]
      | false =>
          simp only [Bool.false_eq_true, if_false, true_and]
          refine (leads_authz_iff reports (getRole request) _).trans ?_
          refine exists_congr fun cached => exists_congr fun entered =>
            and_congr_right fun _ => ?_
          unfold GetStores
          rcases accountPath request.path with _ | ⟨ns, name⟩
          · simp [Decision.Stores]
          · simp only [Option.some.injEq, Prod.mk.injEq]
            refine (leads_readServiceAccount reports ns name).trans ?_
            constructor
            · rintro ⟨allowed, object, md, after, holds⟩
              exact ⟨ns, name, allowed, object, md, after, ⟨rfl, rfl⟩, holds⟩
            · rintro ⟨_, _, allowed, object, md, after, ⟨rfl, rfl⟩, holds⟩
              exact ⟨allowed, object, md, after, holds⟩
  | put =>
      simp only [reduceCtorEq, false_and, or_false]
      refine (leads_authz_iff reports .read _).trans ?_
      refine exists_congr fun cached => exists_congr fun entered => ?_
      simp only [bind_eq, leads_andThen, leads_ofOption, leads_putDecision reports,
        exists_and_left]
  | patch =>
      simp only [reduceCtorEq, false_and, or_false]
      refine (leads_authz_iff reports .read _).trans ?_
      refine exists_congr fun cached => exists_congr fun entered => ?_
      simp only [bind_eq, leads_andThen, leads_ofOption, leads_patchDecision reports,
        exists_and_left]
  | post =>
      simp only [reduceCtorEq, false_and, or_false]
      refine (leads_authz_iff reports (postRole request) _).trans ?_
      refine exists_congr fun cached => exists_congr fun entered => ?_
      rw [leads_createDecision reports, ← exists_and_left]
      grind
  | delete =>
      simp only [reduceCtorEq, and_false, exists_false, false_and, or_false, iff_false]
      intro leads
      obtain ⟨cached, entered, -, leads⟩ := (leads_authz_iff reports .read _).mp leads
      exact not_leads_stores_deleteDecision wrote request leads

end Branches

/-! ## Where a write comes from -/

section Made

variable {handler : ShimHandler} {request : PatchRequest} {now : String}
variable {object : K8sObject} {write : Write}

theorem eq_of_targetWrite
    {gvr : Gvr} {target : Target} {spec status : Json}
    (made : target.write handler gvr spec status = some write) :
    write.gvr = gvr ∧ write.spec = spec ∧ write.status = status ∧
      write.metadata = .dict (normalizeMetadata handler target.metadata target.name
        target.ns gvr.resource) := by
  obtain ⟨⟨ns, name⟩, -, rfl⟩ := Option.map_eq_some_iff.mp made
  exact ⟨rfl, rfl, rfl, rfl⟩

theorem made_of_docRuleWrite
    {rule : DocRule} {doc : Dict} {target : Target}
    (made : rule.write handler doc target = .ok write) :
    ∃ spec status, rule.spec doc = some spec ∧ rule.status doc = some status ∧
      target.write handler rule.gvr spec status = some write := by
  unfold DocRule.write at made
  split at made
  · cases made
  · obtain ⟨spec, payload, rest⟩ := Option.bind_eq_some_iff.mp (ok_of_orRaise made)
    obtain ⟨status, given, stored⟩ := Option.bind_eq_some_iff.mp rest
    exact ⟨spec, status, payload, given, stored⟩

/-- A write of the scale leaves the rest of the deployment. -/
theorem eq_of_scaleWrite
    {ns : Option String} {name : String} {doc : Json}
    (made : scaleWrite ns name doc object = .ok write) :
    write.gvr = deploymentsResource ∧ write.ns = ns ∧ write.name = name ∧
      write.metadata = object.metadata := by
  unfold scaleWrite at made
  split at made
  · cases made
  · split at made
    · obtain ⟨spec, -, made⟩ := Option.bind_eq_some_iff.mp (ok_of_orRaise made)
      obtain ⟨status, -, rfl⟩ := Option.map_eq_some_iff.mp made
      exact ⟨rfl, rfl, rfl, rfl⟩
    · cases made

theorem gvr_of_writeContent
    {gvr : Gvr} {target : Target} {content : Except Refusal (Json × Json)}
    (made : writeContent handler gvr target content = .ok write) : write.gvr = gvr := by
  cases content with
  | error refusal => cases made
  | ok parts => exact (eq_of_targetWrite (ok_of_orRaise made)).1

theorem made_of_corePatch
    {path : PathName} (made : corePatch handler path request now object = .ok write) :
    ∃ base merged md, toObj object = some base ∧ request.merged base.entries = .ok merged ∧
      request.metadata "v1" now object.metadata
        (mergedMetadata (coreRule path).secret merged) = .ok md ∧
      (corePatchTarget path md).write handler ⟨"", "v1", path.plural⟩
        ((coreSpec path.plural merged).or (.dict [])) (plainStatus merged) = some write := by
  obtain ⟨entries, shown, made⟩ := bind_eq_ok.mp made
  obtain ⟨base, object, rfl⟩ := Option.map_eq_some_iff.mp (ok_of_orRaise shown)
  obtain ⟨merged, patched, made⟩ := bind_eq_ok.mp made
  obtain ⟨md, metadata, made⟩ := bind_eq_ok.mp made
  refine ⟨base, merged, md, object, patched, metadata, ?_⟩
  dsimp only at made
  split at made
  · cases made
  · exact ok_of_orRaise made

theorem made_of_customPatch
    {path : CustomPath} {crd : CrdMeta}
    (made : customPatch handler path crd request object = .ok write) :
    ∃ base merged md, renderCustomResource crd.kind object = some base ∧
      request.merged base.entries = .ok merged ∧
      (Dict.get merged "metadata").or (.dict []) = .dict md ∧
      (customPatchTarget path crd md).write handler
        ⟨path.group, path.version, path.target.plural⟩ (plainSpec merged)
        (plainStatus merged) = some write := by
  obtain ⟨entries, shown, made⟩ := bind_eq_ok.mp made
  obtain ⟨base, object, rfl⟩ := Option.map_eq_some_iff.mp (ok_of_orRaise shown)
  obtain ⟨merged, patched, made⟩ := bind_eq_ok.mp made
  cases given : (Dict.get merged "metadata").or (.dict []) with
  | dict md =>
      refine ⟨base, merged, md, object, patched, given, ?_⟩
      rw [given] at made
      dsimp only at made
      split at made
      · cases made
      · split at made
        · obtain ⟨-, -, made⟩ := bind_eq_ok.mp made
          exact ok_of_orRaise made
        · exact ok_of_orRaise made
  | null | bool | int | float | str | list =>
      rw [given] at made
      cases made

theorem made_of_extendedPatch
    {kind : ExtendedKind} {path : PathName} {base : Dict}
    (made : kind.patch handler path request now object base = .ok write) :
    ∃ merged md injected, request.merged base = .ok merged ∧
      request.metadata (apiVersion kind.gvr) now object.metadata
        ((Dict.get merged "metadata").or (.dict [])) = .ok md ∧
      kind.injected merged = some injected ∧
      (kind.patchTarget path md).write handler kind.gvr
        (specPayload kind.gvr.resource injected) (plainStatus injected) = some write := by
  obtain ⟨merged, patched, made⟩ := bind_eq_ok.mp made
  obtain ⟨md, metadata, made⟩ := bind_eq_ok.mp made
  obtain ⟨injected, projected, stored⟩ := Option.bind_eq_some_iff.mp (ok_of_orRaise made)
  exact ⟨merged, md, injected, patched, metadata, projected, stored⟩

theorem made_of_applyNew
    {kind : ExtendedKind} {path : PathName}
    (made : kind.applyNew handler path request now = .ok write) :
    ∃ merged given md injected, request.merged [] = .ok merged ∧
      (Dict.get merged "metadata").or (.dict []) = .dict given ∧
      request.appliedMetadata (apiVersion kind.gvr) now given = some md ∧
      kind.injected merged = some injected ∧
      (kind.patchTarget path md).write handler kind.gvr
        (specPayload kind.gvr.resource injected) (plainStatus injected) = some write := by
  obtain ⟨merged, patched, made⟩ := bind_eq_ok.mp made
  cases given : (Dict.get merged "metadata").or (.dict []) with
  | dict entries =>
      rw [given] at made
      obtain ⟨md, applied, made⟩ := bind_eq_ok.mp made
      obtain ⟨injected, projected, made⟩ := bind_eq_ok.mp made
      refine ⟨merged, entries, md, injected, patched, given, ok_of_orRaise applied,
        ok_of_orRaise projected, ?_⟩
      dsimp only at made
      split at made
      · cases made
      · exact ok_of_orRaise made
  | null | bool | int | float | str | list =>
      rw [given] at made
      cases made

end Made

end ApiShim
end K1s
