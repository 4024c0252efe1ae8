import K1s.Adapter.HandlerOps
import K1s.Lib.Machine

/-!
# The specs that Services and Ingresses give to workloads

`_service_specs` and `_ingress_specs` should hold, for each workload, what was
computed from a Service or an Ingress that points to it.  They are edited one
event at a time through a second map from the object to its workload.  Beside
the adapter this module keeps the Services and Ingresses that exist, and
compares the maps with what these objects resolve to.
-/

namespace K1s
namespace Adapter

open Py ApiShim Program

/-! ## What an object resolves to -/

/-- A workload, its key in the maps, and the spec computed for it. -/
structure Resolved (σ : Type) where
  target : TargetRef
  key : TargetRef
  keyed : targetKey target = some key
  spec : σ
  deriving DecidableEq

variable {σ : Type}

/-- A result with the key it is kept under, which an unhashable name does not
have. -/
def withKey : Option (TargetRef × σ) → Option (Option (Resolved σ))
  | none => some none
  | some (target, spec) =>
      match keyed : targetKey target with
      | none => none
      | some key => some (some ⟨target, key, keyed, spec⟩)

variable {result : Option (TargetRef × σ)}

theorem eq_none_of_withKey (resolves : withKey result = some none) : result = none := by
  cases result with
  | none => rfl
  | some found =>
      simp only [withKey] at resolves
      split at resolves <;> cases resolves

variable {resolved : Resolved σ}

theorem eq_some_of_withKey (resolves : withKey result = some (some resolved)) :
    result = some (resolved.target, resolved.spec) := by
  cases result with
  | none => cases resolves
  | some found =>
      simp only [withKey] at resolves
      split at resolves
      · cases resolves
      · obtain rfl := Option.some.inj (Option.some.inj resolves)
        rfl

/-- What a Service resolves to in a world; nothing when this raises. -/
def serviceResolution
    (worker : Worker) (outside : Outside) (world : World)
    (svc : K8sObject) : Option (Option (Resolved ServiceSpec)) :=
  ((serviceSpecFor worker svc).runAlone (AdapterOp.execute worker.settings outside)
    world).1.bind withKey

/-- What an Ingress resolves to with the workloads of the Services; nothing when
this raises. -/
def ingressResolution
    (names : ObjectRef → Option TargetRef)
    (ing : K8sObject) : Option (Option (Resolved IngressSpec)) :=
  (ingressSpecFor names ing).bind withKey

/-! ## Specs by workload -/

/-- Objects that exist, with what they resolve to. -/
abbrev Resolutions (σ : Type) := Dictionary ObjectRef (Option (Resolved σ))

/-- What an object resolves to, if it exists and resolves to something. -/
def Resolutions.of (current : Resolutions σ) (ref : ObjectRef) : Option (Resolved σ) :=
  (current.find? ref).join

/-- Some existing object resolves to the workload with this spec. -/
def Computes (current : Resolutions σ) (key : TargetRef) (spec : σ) : Prop :=
  ∃ ref resolved, current.of ref = some resolved ∧ resolved.key = key ∧ resolved.spec = spec

/-- A workload has a spec exactly when some existing object resolves to it, and
the spec is the one computed from such an object. -/
structure Exact
    (current : Resolutions σ)
    (specs : Dictionary TargetRef σ) : Prop where
  computed : ∀ key spec, specs.find? key = some spec → Computes current key spec
  present : ∀ key spec, Computes current key spec → (specs.find? key).isSome

theorem exact_empty : Exact (Dictionary.empty : Resolutions σ) .empty := by
  refine ⟨fun key spec found => ?_, ?_⟩
  · simp at found
  · rintro key spec ⟨ref, resolved, found, -⟩
    simp [Resolutions.of] at found

/-- No other object resolves to the workload that an object resolves to. -/
def Removable (current : Resolutions σ) (ref : ObjectRef) : Prop :=
  match current.of ref with
  | none => True
  | some former =>
      ∀ other ∈ current.entries, other.1 ≠ ref → other.2.map Resolved.key ≠ some former.key

/-- The workload that an object resolves to is the given one, or it has the spec
computed from another object. -/
def Retargetable
    (current : Resolutions σ) (specs : Dictionary TargetRef σ) (ref : ObjectRef)
    (key : TargetRef) : Prop :=
  match current.of ref with
  | none => True
  | some former =>
      former.key = key ∨ ∃ other ∈ current.entries, other.1 ≠ ref ∧
          other.2.map Resolved.key = some former.key ∧
          other.2.map Resolved.spec = specs.find? former.key

instance (current : Resolutions σ) (ref : ObjectRef) :
    Decidable (Removable current ref) :=
  match former : current.of ref with
  | none => .isTrue (by rw [Removable, former]; trivial)
  | some former' =>
      decidable_of_iff (∀ other ∈ current.entries, other.1 ≠ ref →
          other.2.map Resolved.key ≠ some former'.key)
        (by rw [Removable, former])

instance
    [DecidableEq σ] (current : Resolutions σ) (specs : Dictionary TargetRef σ)
    (ref : ObjectRef) (key : TargetRef) : Decidable (Retargetable current specs ref key) :=
  match former : current.of ref with
  | none => .isTrue (by rw [Retargetable, former]; trivial)
  | some former' =>
      decidable_of_iff (former'.key = key ∨ ∃ other ∈ current.entries, other.1 ≠ ref ∧
            other.2.map Resolved.key = some former'.key ∧
            other.2.map Resolved.spec = specs.find? former'.key)
        (by rw [Retargetable, former])

theorem of_eq_some_iff (current : Resolutions σ) (ref : ObjectRef) (resolved : Resolved σ) :
    current.of ref = some resolved ↔ (ref, some resolved) ∈ current.entries := by
  rw [Resolutions.of, Option.join_eq_some_iff, Dictionary.find?_eq_some_iff]

/-- The specs after the object's workload lost its spec. -/
def specsWithout
    (former : Option (Resolved σ))
    (specs : Dictionary TargetRef σ) : Dictionary TargetRef σ :=
  match former with
  | none => specs
  | some former => specs.drop former.key

variable {specs : Dictionary TargetRef σ} {ref : ObjectRef}

/-- An object that is forgotten takes its workload's spec with it, which is right
when no other object points there. -/
theorem Exact.forget
    {current next : Resolutions σ} (exact : Exact current specs)
    (removable : Removable current ref)
    (after : ∀ other, next.of other = if ref = other then none else current.of other) :
    Exact next (specsWithout (current.of ref) specs) := by
  have kept : ∀ key spec, Computes next key spec ↔
      ∃ other resolved, ref ≠ other ∧ current.of other = some resolved ∧
        resolved.key = key ∧ resolved.spec = spec := by
    intro key spec
    simp only [Computes, after]
    constructor
    · rintro ⟨other, resolved, found, keyed, same⟩
      split at found
      · cases found
      · next apart => exact ⟨other, resolved, apart, found, keyed, same⟩
    · rintro ⟨other, resolved, apart, found, keyed, same⟩
      exact ⟨other, resolved, by rw [if_neg apart, found], keyed, same⟩
  unfold Removable at removable
  cases former : current.of ref with
  | none =>
      refine ⟨fun key spec found => (kept key spec).mpr ?_, fun key spec computes => ?_⟩
      · obtain ⟨other, resolved, shown, keyed, same⟩ := exact.computed key spec found
        refine ⟨other, resolved, ?_, shown, keyed, same⟩
        rintro rfl
        simp [former] at shown
      · obtain ⟨other, resolved, -, shown, keyed, same⟩ := (kept key spec).mp computes
        exact exact.present key spec ⟨other, resolved, shown, keyed, same⟩
  | some former' =>
      simp only [former] at removable
      refine ⟨fun key spec found => (kept key spec).mpr ?_, fun key spec computes => ?_⟩
      · simp only [specsWithout, Dictionary.find?_drop] at found
        split at found
        · cases found
        · next elsewhere =>
            obtain ⟨other, resolved, shown, keyed, same⟩ := exact.computed key spec found
            refine ⟨other, resolved, ?_, shown, keyed, same⟩
            rintro rfl
            rw [former, Option.some.injEq] at shown
            exact elsewhere (shown ▸ keyed)
      · obtain ⟨other, resolved, apart, shown, keyed, same⟩ := (kept key spec).mp computes
        have elsewhere : former'.key ≠ key := by
          intro equal
          refine removable (other, some resolved)
            ((of_eq_some_iff current other resolved).mp shown) (Ne.symm apart) ?_
          simp [keyed, equal]
        simp only [specsWithout, Dictionary.find?_drop, if_neg elsewhere]
        exact exact.present key spec ⟨other, resolved, shown, keyed, same⟩

/-- An object that is remembered gives its workload the spec, which is right when
what it leaves at its former workload comes from another object. -/
theorem Exact.remember
    {current next : Resolutions σ} (exact : Exact current specs)
    (retargetable : Retargetable current specs ref resolved.key)
    (after : ∀ other, next.of other =
      if ref = other then some resolved else current.of other) :
    Exact next (specs.set resolved.key resolved.spec) := by
  refine ⟨fun key spec found => ?_, fun key spec computes => ?_⟩
  · rw [Dictionary.find?_set] at found
    split at found
    · next same =>
        exact ⟨ref, resolved, by simp [after], same, Option.some.inj found⟩
    · next elsewhere =>
        obtain ⟨owner, shown, owned, keyed, same⟩ := exact.computed key spec found
        by_cases own : ref = owner
        · subst own
          rw [Retargetable, owned] at retargetable
          rcases retargetable with equal | ⟨⟨other, value⟩, listed, apart, points, gives⟩
          · exact absurd (equal.symm.trans keyed) elsewhere
          · cases value with
            | none => simp at points
            | some another =>
                simp only [Option.map_some, Option.some.injEq] at points gives
                rw [keyed] at points gives
                rw [found, Option.some.injEq] at gives
                refine ⟨other, another, ?_, points, gives⟩
                rw [after, if_neg (Ne.symm apart)]
                exact (of_eq_some_iff current other another).mpr listed
        · exact ⟨owner, shown, by rw [after, if_neg own, owned], keyed, same⟩
  · obtain ⟨owner, shown, owned, keyed, same⟩ := computes
    rw [Dictionary.find?_set]
    split
    · rfl
    · next elsewhere =>
        rw [after] at owned
        split at owned
        · exact absurd (by rw [Option.some.inj owned, keyed]) elsewhere
        · exact exact.present key spec ⟨owner, shown, owned, keyed, same⟩

/-! ## The maps that the handlers change -/

/-- The maps of specs and the maps from the objects to their workloads. -/
def Memory.routes (memory : Memory) :
    Dictionary TargetRef ServiceSpec × Dictionary ObjectRef TargetRef ×
      Dictionary TargetRef IngressSpec × Dictionary ObjectRef TargetRef :=
  (memory.serviceSpecs, memory.serviceNameMap, memory.ingressSpecs, memory.ingressOwnerMap)

/-- An operation that is not on the memory leaves it alone. -/
theorem memory_execute
    (settings : Settings) (outside : Outside) (operation : AdapterOp) (world : World)
    (other : ∀ update, operation ≠ .memory update) :
    (operation.execute settings outside world).2.memory = world.memory := by
  cases operation with
  | memory update => exact absurd rfl (other update)
  | upsert guarded basis gvr ns name metadata spec status =>
      cases guarded with
      | false => rfl
      | true =>
          simp only [AdapterOp.execute, World.writeGuarded]
          split <;> rfl
  | registerApp | deleteRegisteredApp | deleteAppState | removeApp =>
      simp only [AdapterOp.execute, World.control]
      split <;> rfl
  | ports portOperation =>
      simp only [AdapterOp.execute]
      split <;> rfl
  | get | list | listAll | delete | startPod | stopPod | recordRow | call => rfl

variable {type : EventType} {ing svc : K8sObject}

section Handlers

variable (worker : Worker) (outside : Outside)

theorem memory_serviceSpecFor (svc : K8sObject) (world : World) :
    ((serviceSpecFor worker svc).runAlone (AdapterOp.execute worker.settings outside)
      world).2.memory = world.memory := by
  refine (uses_serviceSpecFor worker svc).runAlone_eq World.memory ?_ world
  rintro operation uses state
  refine memory_execute worker.settings outside operation state ?_
  rintro update rfl
  cases uses

/-- Handling a workload leaves the maps alone. -/
theorem routes_workloadOp
    {α : Type} {program : AdapterProgram α} (uses : program.Uses WorkloadOp) (world : World) :
    (program.runAlone (AdapterOp.execute worker.settings outside)
      world).2.memory.routes = world.memory.routes := by
  refine uses.runAlone_eq (fun world => world.memory.routes) ?_ world
  intro operation uses state
  by_cases update : ∃ update, operation = .memory update
  · obtain ⟨update, rfl⟩ := update
    cases uses with
    | pending update only =>
        obtain ⟨apps, same⟩ := only state.memory
        simp only [AdapterOp.execute, same]
        rfl
  · rw [memory_execute worker.settings outside operation state fun other equal =>
      update ⟨other, equal⟩]

theorem routes_triggerFormer (former : Option TargetRef) (world : World) :
    ((triggerFormer worker former).runAlone (AdapterOp.execute worker.settings outside)
      world).2.memory.routes = world.memory.routes := by
  cases former with
  | none => rfl
  | some target =>
      exact routes_workloadOp worker outside (uses_triggerReconcile worker target) world

theorem routes_dropService (svc : K8sObject) (world : World) :
    ((dropService worker svc).runAlone (AdapterOp.execute worker.settings outside)
      world).2.memory.routes =
      (forgetService (svc.ns, svc.name) world.memory).routes := by
  have ran : (dropService worker svc).runAlone (AdapterOp.execute worker.settings outside) world =
      (triggerFormer worker (world.memory.serviceNameMap.find?
        (svc.ns, svc.name))).runAlone (AdapterOp.execute worker.settings outside)
        (AdapterOp.execute worker.settings outside (.ports (.releaseService (svcKeyOf svc)))
          { world with
            memory := forgetService (svc.ns, svc.name) world.memory }).2 := rfl
  rw [ran, routes_triggerFormer, memory_execute _ _ _ _ fun update => by simp]

variable {world : World}

/-- A Service that is deleted or resolves to nothing is forgotten. -/
theorem routes_handleServiceEvent_gone
    (gone : type = .deleted ∨ serviceResolution worker outside world svc = some none) :
    ((handleServiceEvent worker type svc).runAlone
      (AdapterOp.execute worker.settings outside) world).2.memory.routes =
      (forgetService (svc.ns, svc.name) world.memory).routes := by
  unfold handleServiceEvent
  split
  · exact routes_dropService worker outside svc world
  · next live =>
      obtain ⟨result, computed, empty⟩ :=
        Option.bind_eq_some_iff.mp (gone.resolve_left live)
      obtain rfl := eq_none_of_withKey empty
      have kept := memory_serviceSpecFor worker outside svc world
      change Memory.routes (World.memory (runAlone _ (andThen _ _) _).2) = _
      rw [runAlone_andThen]
      generalize (serviceSpecFor worker svc).runAlone _ world = outcome at computed kept
      obtain ⟨result, after⟩ := outcome
      cases computed
      rw [← kept]
      exact routes_dropService worker outside svc after

/-- A Service that resolves to a workload is remembered. -/
theorem routes_handleServiceEvent_found
    {resolved : Resolved ServiceSpec} (live : type ≠ .deleted)
    (found : serviceResolution worker outside world svc = some (some resolved)) :
    ((handleServiceEvent worker type svc).runAlone
      (AdapterOp.execute worker.settings outside) world).2.memory.routes =
      (rememberService (svc.ns, svc.name) resolved.target resolved.key resolved.spec
        world.memory).routes := by
  rw [handleServiceEvent, if_neg live]
  obtain ⟨result, computed, keyed⟩ := Option.bind_eq_some_iff.mp found
  obtain rfl := eq_some_of_withKey keyed
  have kept := memory_serviceSpecFor worker outside svc world
  change Memory.routes (World.memory (runAlone _ (andThen _ _) _).2) = _
  rw [runAlone_andThen]
  generalize (serviceSpecFor worker svc).runAlone _ world = outcome at computed kept
  obtain ⟨result, after⟩ := outcome
  cases computed
  rw [← kept]
  change Memory.routes (World.memory (runAlone _
    (andThen (.ofOption (targetKey resolved.target)) _) _).2) = _
  rw [resolved.keyed]
  exact routes_workloadOp worker outside (uses_triggerReconcile worker resolved.target) _

theorem routes_dropIngress (ing : K8sObject) (world : World) :
    ((dropIngress worker ing).runAlone (AdapterOp.execute worker.settings outside)
      world).2.memory.routes =
      (forgetIngress (ing.ns, ing.name) world.memory).routes := by
  have ran : (dropIngress worker ing).runAlone (AdapterOp.execute worker.settings outside) world =
      (triggerFormer worker (world.memory.ingressOwnerMap.find?
        (ing.ns, ing.name))).runAlone (AdapterOp.execute worker.settings outside)
        { world with memory := forgetIngress (ing.ns, ing.name) world.memory } := rfl
  rw [ran, routes_triggerFormer]

/-- An Ingress that is deleted or resolves to nothing is forgotten. -/
theorem routes_handleIngressEvent_gone
    (gone : type = .deleted ∨
      ingressResolution world.memory.serviceNameMap.find? ing = some none) :
    ((handleIngressEvent worker type ing).runAlone
      (AdapterOp.execute worker.settings outside) world).2.memory.routes =
      (forgetIngress (ing.ns, ing.name) world.memory).routes := by
  unfold handleIngressEvent
  split
  · exact routes_dropIngress worker outside ing world
  · next live =>
      obtain ⟨result, computed, empty⟩ :=
        Option.bind_eq_some_iff.mp (gone.resolve_left live)
      obtain rfl := eq_none_of_withKey empty
      change Memory.routes (World.memory (runAlone _ (andThen
        (.ofOption (ingressSpecFor world.memory.serviceNameMap.find? ing)) _) _).2) = _
      rw [computed]
      exact routes_dropIngress worker outside ing world

/-- An Ingress that resolves to a workload is remembered. -/
theorem routes_handleIngressEvent_found
    {resolved : Resolved IngressSpec} (live : type ≠ .deleted)
    (found : ingressResolution world.memory.serviceNameMap.find? ing = some (some resolved)) :
    ((handleIngressEvent worker type ing).runAlone
      (AdapterOp.execute worker.settings outside) world).2.memory.routes =
      (rememberIngress (ing.ns, ing.name) resolved.target resolved.key resolved.spec
        world.memory).routes := by
  rw [handleIngressEvent, if_neg live]
  obtain ⟨result, computed, keyed⟩ := Option.bind_eq_some_iff.mp found
  obtain rfl := eq_some_of_withKey keyed
  change Memory.routes (World.memory (runAlone _ (andThen
    (.ofOption (ingressSpecFor world.memory.serviceNameMap.find? ing)) _) _).2) = _
  rw [computed]
  change Memory.routes (World.memory (runAlone _
    (andThen (.ofOption (targetKey resolved.target)) _) _).2) = _
  rw [resolved.keyed]
  exact routes_workloadOp worker outside (uses_triggerReconcile worker resolved.target) _

end Handlers

/-! ## Specs and owners together -/

/-- The specs are exact, and the owner map has the workload of every object. -/
structure Tracks
    (current : Resolutions σ) (specs : Dictionary TargetRef σ)
    (owners : Dictionary ObjectRef TargetRef) : Prop where
  exact : Exact current specs
  owned : ∀ ref, owners.find? ref = (current.of ref).map Resolved.target

section Tracking

variable {current next : Resolutions σ}

variable {owners : Dictionary ObjectRef TargetRef}

theorem Tracks.congr
    (tracks : Tracks current specs owners)
    (same : ∀ ref, next.of ref = current.of ref) : Tracks next specs owners := by
  have computes : ∀ key spec, Computes next key spec ↔ Computes current key spec := by
    intro key spec
    simp only [Computes, same]
  refine ⟨⟨?_, ?_⟩, ?_⟩
  · simpa only [computes] using tracks.exact.computed
  · simpa only [computes] using tracks.exact.present
  · simpa only [same] using tracks.owned

/-- An event whose object resolves to nothing fits when the object can be removed,
and one whose object resolves to a workload when it can be retargeted to it.  An
event that raises does not fit. -/
def FitsOutcome
    (current : Resolutions σ) (specs : Dictionary TargetRef σ)
    (ref : ObjectRef) : Option (Option (Resolved σ)) → Prop
  | none => False
  | some none => Removable current ref
  | some (some resolved) => Retargetable current specs ref resolved.key

instance
    [DecidableEq σ] (current : Resolutions σ) (specs : Dictionary TargetRef σ) (ref : ObjectRef) :
    (outcome : Option (Option (Resolved σ))) → Decidable (FitsOutcome current specs ref outcome)
  | none => inferInstanceAs (Decidable False)
  | some none => inferInstanceAs (Decidable (Removable current ref))
  | some (some resolved) =>
      inferInstanceAs (Decidable (Retargetable current specs ref resolved.key))

/-- What forgetting an object makes of the specs and the owners. -/
def forgotten
    (ref : ObjectRef) (specs : Dictionary TargetRef σ) (owners : Dictionary ObjectRef TargetRef) :
    Dictionary TargetRef σ × Dictionary ObjectRef TargetRef :=
  match owners.find? ref with
  | none => (specs, owners)
  | some target =>
      (match targetKey target with
        | some key => specs.drop key
        | none => specs, owners.drop ref)

theorem Tracks.forget
    (tracks : Tracks current specs owners) (removable : Removable current ref)
    (after : ∀ other, next.of other = if ref = other then none else current.of other) :
    Tracks next (forgotten ref specs owners).1 (forgotten ref specs owners).2 := by
  have exact := tracks.exact.forget removable after
  have owned := tracks.owned ref
  unfold forgotten
  cases former : current.of ref with
  | none =>
      rw [former] at owned exact
      simp only [owned, Option.map_none]
      refine ⟨exact, fun other => ?_⟩
      rw [tracks.owned, after]
      split
      · next same => rw [← same, former]
      · rfl
  | some resolved =>
      rw [former] at owned exact
      simp only [owned, Option.map_some, resolved.keyed]
      refine ⟨exact, fun other => ?_⟩
      rw [Dictionary.find?_drop, tracks.owned, after]
      split <;> rfl

theorem Tracks.remember
    (tracks : Tracks current specs owners)
    (retargetable : Retargetable current specs ref resolved.key)
    (after : ∀ other, next.of other =
      if ref = other then some resolved else current.of other) :
    Tracks next (specs.set resolved.key resolved.spec) (owners.set ref resolved.target) := by
  refine ⟨tracks.exact.remember retargetable after, fun other => ?_⟩
  rw [Dictionary.find?_set, tracks.owned, after]
  split <;> rfl

end Tracking

theorem routes_forgetService (ref : ObjectRef) (memory : Memory) :
    (forgetService ref memory).routes =
      ((forgotten ref memory.serviceSpecs memory.serviceNameMap).1,
        (forgotten ref memory.serviceSpecs memory.serviceNameMap).2,
        memory.ingressSpecs, memory.ingressOwnerMap) := by
  unfold forgetService forgotten
  cases memory.serviceNameMap.find? ref <;> rfl

theorem routes_forgetIngress (ref : ObjectRef) (memory : Memory) :
    (forgetIngress ref memory).routes = (memory.serviceSpecs, memory.serviceNameMap,
        (forgotten ref memory.ingressSpecs memory.ingressOwnerMap).1,
        (forgotten ref memory.ingressSpecs memory.ingressOwnerMap).2) := by
  unfold forgetIngress forgotten
  cases memory.ingressOwnerMap.find? ref <;> rfl

/-! ## Runs of Service and Ingress events -/

/-- The adapter with the Services that exist and what was computed from them at
their last event, the Ingresses that exist, and the threads that still run. -/
structure Projection where
  world : World
  services : Resolutions ServiceSpec
  ingresses : Dictionary ObjectRef K8sObject
  serviceThread : Bool
  ingressThread : Bool

namespace Projection

/-- A new adapter, before the first event. -/
def started (store : ObjectStore) : Projection where
  world := .startedOn store
  services := .empty
  ingresses := .empty
  serviceThread := true
  ingressThread := true

def namesOf (services : Resolutions ServiceSpec) (ref : ObjectRef) : Option TargetRef :=
  (services.of ref).map Resolved.target

/-- What Ingresses resolve to with the workloads of these Services. -/
def ingressesWith
    (services : Resolutions ServiceSpec)
    (ingresses : Dictionary ObjectRef K8sObject) : Resolutions IngressSpec :=
  ingresses.mapValues fun ing => (ingressResolution (namesOf services) ing).join

/-- The maps have an entry for a workload exactly when an existing Service or
Ingress resolves to it, and it is the one computed from such an object. -/
structure Projected (projection : Projection) : Prop where
  services : Exact projection.services projection.world.memory.serviceSpecs
  ingresses : Exact (ingressesWith projection.services projection.ingresses)
    projection.world.memory.ingressSpecs

end Projection

/-- An event of a Service or an Ingress is handled, or clients and other threads
change the store. -/
inductive ProjectionAction
  | service (type : EventType) (svc : K8sObject)
  | ingress (type : EventType) (ing : K8sObject)
  | storeChanges (store : ObjectStore)

namespace Projection

variable (worker : Worker) (outside : Outside)

def serviceOutcome (projection : Projection) (type : EventType) (svc : K8sObject) :
    Option (Option (Resolved ServiceSpec)) :=
  if type = .deleted then some none
  else serviceResolution worker outside projection.world svc

def ingressOutcome (projection : Projection) (type : EventType) (ing : K8sObject) :
    Option (Option (Resolved IngressSpec)) :=
  if type = .deleted then some none
  else ingressResolution (namesOf projection.services) ing

/-- The objects that exist after an event.  A bookmark is about no object. -/
def existing
    {ν : Type} (objects : Dictionary ObjectRef ν) (ref : ObjectRef)
    (value : ν) : EventType → Dictionary ObjectRef ν
  | .added | .modified => objects.set ref value
  | .deleted => objects.drop ref
  | .bookmark => objects

def servicesAfter (projection : Projection) (type : EventType) (svc : K8sObject) :
    Resolutions ServiceSpec :=
  existing projection.services (svc.ns, svc.name)
    (projection.serviceOutcome worker outside type svc).join type

/-- One step.  An exception ends the thread of the watch, which then handles no
further event. -/
def step (projection : Projection) : ProjectionAction → Option Projection
  | .service type svc =>
      let handled := (handleServiceEvent worker type svc).runAlone
        (AdapterOp.execute worker.settings outside) projection.world
      some
        { projection with
          world := if projection.serviceThread then handled.2 else projection.world
          services := projection.servicesAfter worker outside type svc
          serviceThread := projection.serviceThread && handled.1.isSome }
  | .ingress type ing =>
      let handled := (handleIngressEvent worker type ing).runAlone
        (AdapterOp.execute worker.settings outside) projection.world
      some
        { projection with
          world := if projection.ingressThread then handled.2 else projection.world
          ingresses := existing projection.ingresses (ing.ns, ing.name) ing type
          ingressThread := projection.ingressThread && handled.1.isSome }
  | .storeChanges store =>
      some { projection with world := { projection.world with store := store } }

/-- An event is handled, its object can be removed or retargeted, a bookmark is
about no known object, and the event of a Service changes no Ingress. -/
def Fits (projection : Projection) : ProjectionAction → Prop
  | .service type svc =>
      projection.serviceThread = true ∧
        FitsOutcome projection.services projection.world.memory.serviceSpecs
          (svc.ns, svc.name) (projection.serviceOutcome worker outside type svc) ∧
        (type = .bookmark → projection.services.of (svc.ns, svc.name) = none ∧
          projection.serviceOutcome worker outside type svc = some none) ∧
        ∀ entry ∈ projection.ingresses.entries, (ingressResolution
            (namesOf (projection.servicesAfter worker outside type svc)) entry.2).join =
          (ingressResolution (namesOf projection.services) entry.2).join
  | .ingress type ing =>
      projection.ingressThread = true ∧
        FitsOutcome (ingressesWith projection.services projection.ingresses)
          projection.world.memory.ingressSpecs (ing.ns, ing.name)
          (projection.ingressOutcome type ing) ∧
        (type = .bookmark → (ingressesWith projection.services projection.ingresses).of
            (ing.ns, ing.name) = none ∧
          projection.ingressOutcome type ing = some none)
  | .storeChanges _ => True

instance (projection : Projection) :
    (action : ProjectionAction) → Decidable (projection.Fits worker outside action)
  | .service _ _ => inferInstanceAs (Decidable (_ ∧ _))
  | .ingress _ _ => inferInstanceAs (Decidable (_ ∧ _))
  | .storeChanges _ => inferInstanceAs (Decidable True)

variable {projection : Projection}

theorem of_servicesAfter
    (bookmark : type = .bookmark → projection.services.of (svc.ns, svc.name) = none ∧
      projection.serviceOutcome worker outside type svc = some none)
    (other : ObjectRef) :
    (projection.servicesAfter worker outside type svc).of other =
      if (svc.ns, svc.name) = other then
        (projection.serviceOutcome worker outside type svc).join
      else projection.services.of other := by
  unfold servicesAfter
  cases type with
  | added | modified =>
      simp only [existing, Resolutions.of, Dictionary.find?_set]
      split <;> rfl
  | deleted =>
      simp only [existing, Resolutions.of, Dictionary.find?_drop, serviceOutcome]
      split <;> rfl
  | bookmark =>
      obtain ⟨absent, outcome⟩ := bookmark rfl
      rw [outcome]
      simp only [existing]
      split
      · next same => rw [← same, absent, Option.join_some]
      · rfl

theorem of_ingressesAfter
    (bookmark : type = .bookmark →
      (ingressesWith projection.services projection.ingresses).of (ing.ns, ing.name) =
        none ∧ projection.ingressOutcome type ing = some none)
    (other : ObjectRef) :
    (ingressesWith projection.services
      (existing projection.ingresses (ing.ns, ing.name) ing type)).of other =
      if (ing.ns, ing.name) = other then (projection.ingressOutcome type ing).join
      else (ingressesWith projection.services projection.ingresses).of other := by
  cases type with
  | added | modified =>
      simp only [existing, ingressesWith, Resolutions.of, Dictionary.find?_mapValues,
        Dictionary.find?_set]
      split <;> rfl
  | deleted =>
      simp only [existing, ingressesWith, Resolutions.of, Dictionary.find?_mapValues,
        Dictionary.find?_drop, ingressOutcome]
      split <;> rfl
  | bookmark =>
      obtain ⟨absent, outcome⟩ := bookmark rfl
      rw [outcome]
      simp only [existing]
      split
      · next same => rw [← same, absent, Option.join_some]
      · rfl

/-- The adapter's maps and the objects that exist fit together. -/
structure Consistent (projection : Projection) : Prop where
  services : Tracks projection.services projection.world.memory.serviceSpecs
    projection.world.memory.serviceNameMap
  ingresses : Tracks (ingressesWith projection.services projection.ingresses)
    projection.world.memory.ingressSpecs projection.world.memory.ingressOwnerMap

theorem Consistent.projected (consistent : projection.Consistent) : projection.Projected :=
  ⟨consistent.services.exact, consistent.ingresses.exact⟩

theorem consistent_started (store : ObjectStore) : (started store).Consistent :=
  ⟨⟨exact_empty, fun _ => rfl⟩, ⟨exact_empty, fun _ => rfl⟩⟩

variable {worker outside}

theorem Consistent.afterService
    (consistent : projection.Consistent)
    (fits : projection.Fits worker outside (.service type svc)) :
    Tracks (projection.servicesAfter worker outside type svc)
        ((handleServiceEvent worker type svc).runAlone (AdapterOp.execute worker.settings outside)
          projection.world).2.memory.serviceSpecs
        ((handleServiceEvent worker type svc).runAlone (AdapterOp.execute worker.settings outside)
          projection.world).2.memory.serviceNameMap ∧
      Tracks (ingressesWith projection.services projection.ingresses)
        ((handleServiceEvent worker type svc).runAlone (AdapterOp.execute worker.settings outside)
          projection.world).2.memory.ingressSpecs
        ((handleServiceEvent worker type svc).runAlone (AdapterOp.execute worker.settings outside)
          projection.world).2.memory.ingressOwnerMap := by
  obtain ⟨-, outcome, bookmark, -⟩ := fits
  have after := of_servicesAfter worker outside bookmark
  generalize found : projection.serviceOutcome worker outside type svc = result at *
  match result, outcome with
  | some none, removable =>
      have gone : type = .deleted ∨
          serviceResolution worker outside projection.world svc = some none := by
        unfold serviceOutcome at found
        split at found
        · next deleted => exact .inl deleted
        · exact .inr found
      have routes := routes_handleServiceEvent_gone worker outside gone
      rw [routes_forgetService] at routes
      simp only [Memory.routes, Prod.mk.injEq] at routes
      obtain ⟨specs, names, ingresses, owners⟩ := routes
      rw [specs, names, ingresses, owners]
      exact ⟨consistent.services.forget removable after, consistent.ingresses⟩
  | some (some resolved), retargetable =>
      have live : type ≠ .deleted := by
        rintro rfl
        cases found
      rw [serviceOutcome, if_neg live] at found
      have routes := routes_handleServiceEvent_found worker outside live found
      simp only [Memory.routes, rememberService, Prod.mk.injEq] at routes
      obtain ⟨specs, names, ingresses, owners⟩ := routes
      rw [specs, names, ingresses, owners]
      exact ⟨consistent.services.remember retargetable after, consistent.ingresses⟩

theorem Consistent.afterIngress
    (consistent : projection.Consistent)
    (fits : projection.Fits worker outside (.ingress type ing)) :
    Tracks projection.services ((handleIngressEvent worker type ing).runAlone
          (AdapterOp.execute worker.settings outside)
          projection.world).2.memory.serviceSpecs
        ((handleIngressEvent worker type ing).runAlone (AdapterOp.execute worker.settings outside)
          projection.world).2.memory.serviceNameMap ∧
      Tracks (ingressesWith projection.services
          (existing projection.ingresses (ing.ns, ing.name) ing type))
        ((handleIngressEvent worker type ing).runAlone (AdapterOp.execute worker.settings outside)
          projection.world).2.memory.ingressSpecs
        ((handleIngressEvent worker type ing).runAlone (AdapterOp.execute worker.settings outside)
          projection.world).2.memory.ingressOwnerMap := by
  obtain ⟨-, outcome, bookmark⟩ := fits
  have after := of_ingressesAfter bookmark
  have named : projection.world.memory.serviceNameMap.find? =
      namesOf projection.services := funext consistent.services.owned
  generalize found : projection.ingressOutcome type ing = result at *
  match result, outcome with
  | some none, removable =>
      have gone : type = .deleted ∨ ingressResolution
          projection.world.memory.serviceNameMap.find? ing = some none := by
        unfold ingressOutcome at found
        split at found
        · next deleted => exact .inl deleted
        · exact .inr (named ▸ found)
      have routes := routes_handleIngressEvent_gone worker outside gone
      rw [routes_forgetIngress] at routes
      simp only [Memory.routes, Prod.mk.injEq] at routes
      obtain ⟨specs, names, ingresses, owners⟩ := routes
      rw [specs, names, ingresses, owners]
      exact ⟨consistent.services, consistent.ingresses.forget removable after⟩
  | some (some resolved), retargetable =>
      have live : type ≠ .deleted := by
        rintro rfl
        cases found
      rw [ingressOutcome, if_neg live, ← named] at found
      have routes := routes_handleIngressEvent_found worker outside live found
      simp only [Memory.routes, rememberIngress, Prod.mk.injEq] at routes
      obtain ⟨specs, names, ingresses, owners⟩ := routes
      rw [specs, names, ingresses, owners]
      exact ⟨consistent.services, consistent.ingresses.remember retargetable after⟩

theorem Consistent.step
    (projection : Projection) (action : ProjectionAction) (next : Projection)
    (consistent : projection.Consistent) (fits : projection.Fits worker outside action)
    (stepped : projection.step worker outside action = some next) : next.Consistent := by
  cases action with
  | service type svc =>
      obtain rfl := Option.some.inj stepped
      obtain ⟨services, ingresses⟩ := consistent.afterService fits
      obtain ⟨alive, -, -, unchanged⟩ := fits
      constructor
      · simpa only [alive, if_true] using services
      · simp only [alive, if_true]
        refine ingresses.congr fun ref => ?_
        simp only [ingressesWith, Resolutions.of, Dictionary.find?_mapValues]
        cases found : projection.ingresses.find? ref with
        | none => rw [Option.map_none, Option.map_none]
        | some ing =>
            exact unchanged (ref, ing) ((projection.ingresses.find?_eq_some_iff ref ing).mp found)
  | ingress type ing =>
      obtain rfl := Option.some.inj stepped
      obtain ⟨services, ingresses⟩ := consistent.afterIngress fits
      obtain ⟨alive, -, -⟩ := fits
      constructor
      · simpa only [alive, if_true] using services
      · simpa only [alive, if_true] using ingresses
  | storeChanges store =>
      obtain rfl := Option.some.inj stepped
      exact ⟨consistent.services, consistent.ingresses⟩

/-- A Service with one port that selects an app. -/
def appService (name app : String) : K8sObject where
  gvr := servicesResource
  ns := some "default"
  name := name
  metadata := .dict [("name", .str name)]
  spec := .dict [("selector", .dict [("app", .str app)]),
      ("ports", .list [.dict [("port", .int 80)]])]
  status := .dict []
  resourceVersion := 1

def appIngress (name service : String) : K8sObject where
  gvr := ⟨"networking.k8s.io", "v1", "ingresses"⟩
  ns := some "default"
  name := name
  metadata := .dict [("name", .str name)]
  spec := .dict [("rules", .list [.dict
    [("host", .str "app.example"), ("http", .dict [("paths", .list [.dict
      [("path", .str "/"), ("backend", .dict [("service", .dict
        [("name", .str service)])])]])])]])]
  status := .dict []
  resourceVersion := 1

/-- The result of taking the actions from a new adapter on an empty store. -/
def afterEvents (actions : List ProjectionAction) : Option Projection :=
  Machine.run (Projection.step plainWorker plainOutside) (started .empty) actions

/-- Two Services share an app, an Ingress goes to one of them, and the other one
moves to another app. -/
def orderlyEvents : List ProjectionAction :=
  [.service .added (appService "a" "web"), .service .added (appService "b" "web"),
    .ingress .added (appIngress "i" "b"), .service .modified (appService "a" "api"),
    .ingress .deleted (appIngress "i" "b")]

/-- Two Services share an app, and one of them is deleted. -/
def sharedApp : List ProjectionAction :=
  [.service .added (appService "a" "web"), .service .added (appService "b" "web"),
    .service .deleted (appService "b" "web")]

end Projection

end Adapter
end K1s
