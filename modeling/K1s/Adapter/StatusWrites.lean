import K1s.Adapter.Threads
import K1s.Lib.Machine

/-!
# Status writes

The adapter writes a status by writing the whole object, with the metadata and
spec of a copy that it read earlier or that came with an event.  Beside the
world this module keeps what clients wrote last, and says when the adapter's
writes leave it alone.
-/

namespace K1s
namespace Adapter

open Py ApiShim Program

/-! ## What clients wrote -/

/-- The world, the metadata and spec that were last given to each object that was
not deleted since, and the objects whose replicas an autoscaler has written. -/
structure Authored where
  world : World
  written : ObjectKey → Option (Json × Json)
  scaled : List ObjectKey

variable (world : World)

namespace Authored

/-- All objects of the world were written by clients. -/
def ofWorld : Authored where
  world := world
  written := fun key => (world.store.row? key).map fun row => (row.metadata, row.spec)
  scaled := []

/-- Take note of an operation.  A write that is not based on a copy gives an
object its content, and one with another spec than the copy scales it. -/
def noting (authored : Authored) (world : World) : AdapterOp → Authored
  | .upsert false none gvr ns name metadata spec _ =>
      { authored with
        world := world
        written :=
          Function.update authored.written (gvr.key ns name) (some (metadata, spec)) }
  | .upsert _ (some basis) gvr ns name _ spec _ =>
      { authored with
        world := world
        scaled :=
          if spec = basis.spec then authored.scaled
          else gvr.key ns name :: authored.scaled }
  | .delete gvr ns name =>
      { authored with
        world := world
        written := Function.update authored.written (gvr.key ns name) none }
  | _ => { authored with world := world }

def execute
    (settings : Settings) (outside : Outside) (operation : AdapterOp)
    (authored : Authored) : operation.Reply × Authored :=
  ((operation.execute settings outside authored.world).1,
    authored.noting (operation.execute settings outside authored.world).2 operation)

end Authored

/-- A spec without its number of replicas. -/
def withoutReplicas (spec : Json) : Option Dict :=
  spec.asDict.map fun entries => Dict.drop entries "replicas"

/-- The specs are the same, up to the replicas of an object that an autoscaler
has scaled. -/
def SameSpec (scaled : List ObjectKey) (key : ObjectKey) (first second : Json) : Prop :=
  first = second ∨ key ∈ scaled ∧ (withoutReplicas first).isSome ∧
      withoutReplicas first = withoutReplicas second

instance (scaled : List ObjectKey) (key : ObjectKey) (first second : Json) :
    Decidable (SameSpec scaled key first second) :=
  inferInstanceAs (Decidable (_ ∨ _))

/-- Every object has the metadata and spec that it was last given, and no deleted
object is there. -/
structure ContentKept (authored : Authored) : Prop where
  kept : ∀ key metadata spec, authored.written key = some (metadata, spec) →
    ∃ row, authored.world.store.row? key = some row ∧ row.metadata = metadata ∧
      SameSpec authored.scaled key row.spec spec
  gone : ∀ key, authored.written key = none → authored.world.store.row? key = none

theorem contentKept_ofWorld : ContentKept (.ofWorld world) := by
  constructor
  · intro key metadata spec written
    obtain ⟨row, stored, equal⟩ := Option.map_eq_some_iff.mp written
    obtain ⟨rfl, rfl⟩ := Prod.mk.inj equal
    exact ⟨row, stored, rfl, .inl rfl⟩
  · intro key written
    exact Option.map_eq_none_iff.mp written

namespace SameSpec

variable {scaled other : List ObjectKey} {key : ObjectKey} {first second third : Json}

theorem symm (same : SameSpec scaled key first second) :
    SameSpec scaled key second first := by
  rcases same with equal | ⟨member, readable, equal⟩
  · exact .inl equal.symm
  · exact .inr ⟨member, equal ▸ readable, equal.symm⟩

theorem trans
    (same : SameSpec scaled key first second)
    (next : SameSpec scaled key second third) : SameSpec scaled key first third := by
  rcases same with rfl | ⟨member, readable, equal⟩
  · exact next
  · rcases next with rfl | ⟨-, -, further⟩
    · exact .inr ⟨member, readable, equal⟩
    · exact .inr ⟨member, readable, equal.trans further⟩

theorem mono
    (same : SameSpec scaled key first second)
    (subset : ∀ key ∈ scaled, key ∈ other) : SameSpec other key first second := by
  rcases same with equal | ⟨member, readable, equal⟩
  · exact .inl equal
  · exact .inr ⟨subset key member, readable, equal⟩

end SameSpec

/-- The copy that a write is based on has the metadata and spec of the stored
object, or a tombstone refuses the write. -/
def CurrentCopy (outside : Outside) (authored : Authored) : AdapterOp → Prop
  | .upsert guarded (some basis) gvr ns name _ _ _ =>
      (guarded = true ∧ (tombstoneActive authored.world.tombstones (gvr.key ns name)
        (outside.now authored.world.calls)).1 = true) ∨
      match authored.world.store.row? (gvr.key ns name) with
      | none => False
      | some row =>
          row.metadata = basis.metadata ∧
            SameSpec authored.scaled (gvr.key ns name) row.spec basis.spec
  | _ => True

instance (outside : Outside) (authored : Authored) :
    (operation : AdapterOp) → Decidable (CurrentCopy outside authored operation)
  | .upsert guarded (some basis) gvr ns name metadata spec status =>
      match stored : authored.world.store.row? (gvr.key ns name) with
      | none =>
          decidable_of_iff (guarded = true ∧ (tombstoneActive authored.world.tombstones
              (gvr.key ns name) (outside.now authored.world.calls)).1 = true)
            (by simp [CurrentCopy, stored])
      | some row =>
          decidable_of_iff ((guarded = true ∧ (tombstoneActive authored.world.tombstones
              (gvr.key ns name) (outside.now authored.world.calls)).1 = true) ∨
              row.metadata = basis.metadata ∧
                SameSpec authored.scaled (gvr.key ns name) row.spec basis.spec)
            (by simp [CurrentCopy, stored])
  | .upsert _ none _ _ _ _ _ _
  | .get _ _ _ | .list _ _ | .listAll _ | .delete _ _ _ | .memory _ | .ports _
  | .registerApp _ | .deleteRegisteredApp _ | .deleteAppState _ | .removeApp _
  | .startPod _ _ | .stopPod _ _ | .recordRow _ | .call _ =>
      inferInstanceAs (Decidable True)

/-- A write of a handler that is based on a copy has the copy's metadata, and its
spec up to the replicas. -/
inductive KeepingOp : AdapterOp → Prop
  | status
      (guarded : Bool)
      (basis : K8sObject)
      (gvr : Gvr)
      (ns : Option String)
      (name : String)
      (status : Json) :
      KeepingOp (.upsert guarded (some basis) gvr ns name basis.metadata basis.spec status)
  | scale
      (basis : K8sObject)
      (gvr : Gvr)
      (ns : Option String)
      (name : String)
      (entries : Dict)
      (readable : basis.spec.asDict = some entries)
      (replicas status : Json) :
      KeepingOp (.upsert false (some basis) gvr ns name basis.metadata
        (.dict (Dict.set entries "replicas" replicas)) status)
  | create
      (gvr : Gvr)
      (ns : Option String)
      (name : String)
      (metadata spec status : Json) :
      KeepingOp (.upsert false none gvr ns name metadata spec status)
  | other
      (operation : AdapterOp)
      (noWrite : ∀ guarded basis gvr ns name metadata spec status,
        operation ≠ .upsert guarded basis gvr ns name metadata spec status) :
      KeepingOp operation

theorem WorkloadOp.keeping {operation : AdapterOp} (uses : WorkloadOp operation) :
    KeepingOp operation := by
  cases uses with
  | status basis gvr status => exact .status ..
  | claim ns name metadata spec => exact .create ..
  | get | list | listAll | pending | registerApp | deleteRegisteredApp
  | deleteAppState | removeApp | startPod | stopPod | recordRow | call =>
      exact .other _ (by simp)

theorem ServiceOp.keeping
    {svc : K8sObject} {operation : AdapterOp}
    (uses : ServiceOp svc operation) : KeepingOp operation := by
  cases uses with
  | status status => exact .status ..
  | list | listAll | ports | call => exact .other _ (by simp)

/-! ## The handlers -/

section Handlers

variable (worker : Worker)

theorem keeping_memory (update : Memory → Memory) : KeepingOp (.memory update) :=
  .other _ (by simp)

theorem keeping_call (request : Call) : (call request).Uses KeepingOp :=
  uses_perform (.other _ (by simp))

theorem keeping_locked (update : Memory → Memory) : (locked update).Uses KeepingOp :=
  uses_perform (keeping_memory update)

variable (cj : K8sObject)

theorem keeping_decideUnsuspended
    (suspend : Bool) (record : Option CronRecord) (now : Rat) :
    (decideUnsuspended worker cj suspend record now).Uses KeepingOp := by
  refine Uses.ite trivial ?_
  refine (Uses.ofOption _).andThen fun annotations => ?_
  refine (Uses.ofOption _).andThen fun schedule => ?_
  refine Uses.ite trivial (Uses.ite ?_ trivial)
  refine (keeping_call _).andThen fun next => ?_
  cases next with
  | ok next => trivial
  | error message => exact Uses.ite trivial trivial

theorem keeping_fireCronjob (now : Rat) : (fireCronjob worker cj now).Uses KeepingOp := by
  refine (Uses.ofOption _).andThen fun spec => ?_
  refine (Uses.ofOption _).andThen fun metadata => ?_
  refine (uses_perform (.create ..)).andThen fun created => ?_
  refine (Uses.ofOption _).andThen fun job => ?_
  refine ((uses_applyJob worker job).mono fun _ => WorkloadOp.keeping).andThen
    fun _ => ?_
  refine (keeping_call _).andThen fun schedule => ?_
  exact (keeping_locked _).andThen fun _ => trivial

theorem keeping_writeCronjob (status : Json) : (writeCronjob cj status).Uses KeepingOp :=
  (uses_perform (.status ..)).andThen fun _ => trivial

theorem keeping_applyCronjob : (applyCronjob worker cj).Uses KeepingOp := by
  refine (Uses.ofOption _).andThen fun suspend => ?_
  refine (keeping_call _).andThen fun now => ?_
  refine (keeping_locked _).andThen fun memory => ?_
  refine (keeping_decideUnsuspended ..).andThen fun decision => ?_
  cases decision with
  | invalid message => exact keeping_writeCronjob ..
  | wait conditions => exact keeping_writeCronjob ..
  | fire conditions =>
      exact (keeping_fireCronjob ..).andThen fun _ => keeping_writeCronjob ..

theorem keeping_handleWorkloadEvent
    (kind : WorkloadKind) (type : EventType) (object : K8sObject) :
    (handleWorkloadEvent worker kind type object).Uses KeepingOp := by
  have applied : (kind.apply worker object).Uses KeepingOp := by
    cases kind with
    | deployment => exact (uses_applyDeployment ..).mono fun _ => WorkloadOp.keeping
    | statefulset => exact (uses_applyStatefulset ..).mono fun _ => WorkloadOp.keeping
    | daemonset => exact (uses_applyDaemonset ..).mono fun _ => WorkloadOp.keeping
    | job => exact (uses_applyJob ..).mono fun _ => WorkloadOp.keeping
    | cronjob => exact keeping_applyCronjob worker object
  have removed : (removeAppFor object).Uses KeepingOp :=
    (uses_removeAppFor object).mono fun _ => WorkloadOp.keeping
  cases type with
  | added | modified => exact applied
  | deleted =>
      refine Uses.ite ?_ removed
      exact (keeping_locked _).andThen fun _ => removed
  | bookmark => trivial

theorem keeping_triggerReconcile (target : TargetRef) :
    (triggerReconcile worker target).Uses KeepingOp :=
  (uses_triggerReconcile worker target).mono fun _ => WorkloadOp.keeping

theorem keeping_triggerFormer (former : Option TargetRef) :
    (triggerFormer worker former).Uses KeepingOp := by
  cases former with
  | none => trivial
  | some target => exact keeping_triggerReconcile worker target

theorem keeping_handleServiceEvent (type : EventType) (svc : K8sObject) :
    (handleServiceEvent worker type svc).Uses KeepingOp := by
  have dropped : (dropService worker svc).Uses KeepingOp := by
    refine (keeping_locked _).andThen fun before => ?_
    refine ((uses_onPorts svc _).mono fun _ => ServiceOp.keeping).andThen fun _ => ?_
    exact keeping_triggerFormer ..
  refine Uses.ite dropped ?_
  refine ((uses_serviceSpecFor worker svc).mono fun _ => ServiceOp.keeping).andThen
    fun result => ?_
  cases result with
  | none => exact dropped
  | some found =>
      refine (Uses.ofOption _).andThen fun key => ?_
      exact (keeping_locked _).andThen fun _ => keeping_triggerReconcile ..

theorem keeping_handleIngressEvent (type : EventType) (ing : K8sObject) :
    (handleIngressEvent worker type ing).Uses KeepingOp := by
  have dropped : (dropIngress worker ing).Uses KeepingOp :=
    (keeping_locked _).andThen fun before => keeping_triggerFormer ..
  refine Uses.ite dropped ?_
  refine (keeping_locked _).andThen fun memory => ?_
  refine (Uses.ofOption _).andThen fun result => ?_
  cases result with
  | none => exact dropped
  | some found =>
      refine (Uses.ofOption _).andThen fun key => ?_
      exact (keeping_locked _).andThen fun _ => keeping_triggerReconcile ..

theorem keeping_scaleTargetOf (hpa : K8sObject) : (scaleTargetOf hpa).Uses KeepingOp := by
  refine (Uses.ofOption _).andThen fun ref => ?_
  refine (Uses.ofOption _).andThen fun name => ?_
  refine (Uses.ofOption _).andThen fun kind => ?_
  refine (Uses.ofOption _).andThen fun apiVersion => ?_
  refine Uses.ite ?_ trivial
  refine (Uses.ofOption _).andThen fun resolved => ?_
  cases resolved with
  | none => trivial
  | some gvr =>
      exact ((uses_storeGetNamed ..).mono fun _ => WorkloadOp.keeping).andThen
        fun found => trivial

theorem keeping_rescale
    (hpa : K8sObject) (target : ScaleTarget) (desired : Int)
    (now : Rat) : (rescale worker hpa target desired now).Uses KeepingOp := by
  refine (keeping_locked _).andThen fun _ => ?_
  refine (keeping_call _).andThen fun time => ?_
  cases readable : target.object.spec.asDict with
  | none => exact trivial
  | some spec =>
      refine (uses_perform (.scale _ _ _ _ spec readable _ _)).andThen fun written => ?_
      refine (Uses.ofOption _).andThen fun updated => ?_
      have applied : (applyScaled worker target.kind updated).Uses WorkloadOp :=
        Uses.ite (uses_applyDeployment ..) (Uses.ite (uses_applyStatefulset ..)
          (Uses.ite (uses_applyDaemonset ..) trivial))
      refine (applied.mono fun _ => WorkloadOp.keeping).andThen fun _ => ?_
      have recorded : (recordScaled target.app).Uses KeepingOp := by
        refine (keeping_call _).andThen fun answered => ?_
        cases answered with
        | none => trivial
        | some row => exact (keeping_call _).andThen fun _ => trivial
      exact recorded.andThen fun _ => trivial

theorem keeping_handleHpaEvent (type : EventType) (hpa : K8sObject) :
    (handleHpaEvent worker type hpa).Uses KeepingOp := by
  refine Uses.ite trivial ?_
  refine (keeping_scaleTargetOf hpa).andThen fun target => ?_
  cases target with
  | none => trivial
  | some target =>
      refine (Uses.ofOption _).andThen fun limits => ?_
      refine (Uses.ofOption _).andThen fun metricsSpec => ?_
      refine (keeping_call _).andThen fun measured => ?_
      refine (Uses.ofOption _).andThen fun metrics => ?_
      refine (Uses.ofOption _).andThen fun outcome => ?_
      have scaled : (scaleUnlessLimited worker hpa target limits.1
          (min (max outcome.1 limits.2.1) limits.2.2)).Uses KeepingOp := by
        refine (keeping_call _).andThen fun now => ?_
        refine (keeping_locked _).andThen fun memory => ?_
        refine Uses.ite trivial (Uses.ite trivial ?_)
        exact (keeping_rescale ..).andThen fun time => trivial
      refine scaled.andThen fun result => ?_
      refine (Uses.ofOption _).andThen fun status => ?_
      exact (uses_perform (.status ..)).andThen fun _ => trivial

/-- Every call keeps the content of the copies that it writes. -/
theorem keeping_body (call : AdapterCall) : (call.body worker).Uses KeepingOp := by
  cases call with
  | workload kind type object => exact keeping_handleWorkloadEvent ..
  | service type svc => exact keeping_handleServiceEvent ..
  | ingress type ing => exact keeping_handleIngressEvent ..
  | pvc type object =>
      exact (uses_handlePvcEvent ..).mono fun _ => WorkloadOp.keeping
  | hpa type object => exact keeping_handleHpaEvent ..
  | requeue => exact (uses_requeuePending worker).mono fun _ => WorkloadOp.keeping
  | rescan => exact (uses_rescanPvcWorkloads worker).mono fun _ => WorkloadOp.keeping
  | clientWrite gvr ns name metadata spec status =>
      exact (uses_perform (.create ..)).andThen fun _ => trivial
  | clientDelete gvr ns name =>
      exact (uses_perform (.other _ (by simp))).andThen fun _ => trivial

end Handlers

/-! ## One operation -/

theorem row?_write
    (gvr : Gvr) (ns : Option String) (name : String) (metadata spec status : Json)
    (key : ObjectKey) :
    (world.write gvr ns name metadata spec status).2.store.row? key =
      if gvr.key ns name = key then
        some ⟨metadata, spec, status.or (.dict []), world.store.nextRv⟩
      else world.store.row? key :=
  world.store.row?_upsert gvr ns name metadata spec status key

/-- A guarded write is refused, or it is a write. -/
theorem row?_writeGuarded
    (outside : Outside) (gvr : Gvr) (ns : Option String) (name : String)
    (metadata spec status : Json) (key : ObjectKey) :
    (world.writeGuarded outside gvr ns name metadata spec status).2.store.row? key =
      if (tombstoneActive world.tombstones (gvr.key ns name)
          (outside.now world.calls)).1 = true then world.store.row? key
      else (world.write gvr ns name metadata spec status).2.store.row? key := by
  unfold World.writeGuarded
  dsimp only
  split
  · rfl
  · rw [row?_write, row?_write]
    rfl

theorem row?_remove
    (settings : Settings) (outside : Outside) (gvr : Gvr) (ns : Option String)
    (name : String) (key : ObjectKey) :
    (world.remove settings outside gvr ns name).2.store.row? key =
      if gvr.key ns name = key then none else world.store.row? key :=
  world.store.row?_delete gvr ns name key

/-- Operations that neither write nor delete leave the store alone. -/
theorem store_execute
    (settings : Settings) (outside : Outside) (operation : AdapterOp) (world : World)
    (noWrite : ∀ guarded basis gvr ns name metadata spec status,
      operation ≠ .upsert guarded basis gvr ns name metadata spec status)
    (noDelete : ∀ gvr ns name, operation ≠ .delete gvr ns name) :
    (operation.execute settings outside world).2.store = world.store := by
  cases operation with
  | upsert guarded basis gvr ns name metadata spec status =>
      exact absurd rfl (noWrite guarded basis gvr ns name metadata spec status)
  | delete gvr ns name => exact absurd rfl (noDelete gvr ns name)
  | registerApp | deleteRegisteredApp | deleteAppState | removeApp =>
      simp only [AdapterOp.execute, World.control]
      split <;> rfl
  | ports portOperation =>
      simp only [AdapterOp.execute]
      split <;> rfl
  | get | list | listAll | memory | startPod | stopPod | recordRow | call => rfl

/-- What leaves the rows alone keeps the content. -/
theorem ContentKept.congr
    {authored : Authored} {world : World} (kept : ContentKept authored)
    (same : ∀ key, world.store.row? key = authored.world.store.row? key) :
    ContentKept { authored with world := world } := by
  constructor
  · simpa only [same] using kept.kept
  · simpa only [same] using kept.gone

/-- A write whose metadata and spec agree with the stored ones keeps the content. -/
theorem ContentKept.rewrite
    {authored : Authored} {world : World} {scaled : List ObjectKey} {key : ObjectKey}
    {row new : ObjectRow} (kept : ContentKept authored)
    (stored : authored.world.store.row? key = some row)
    (after : ∀ other, world.store.row? other =
      if key = other then some new else authored.world.store.row? other)
    (subset : ∀ key ∈ authored.scaled, key ∈ scaled)
    (metadata : new.metadata = row.metadata)
    (spec : SameSpec scaled key new.spec row.spec) :
    ContentKept { authored with world := world, scaled := scaled } := by
  constructor
  · intro other given givenSpec written
    obtain ⟨former, found, sameMetadata, sameSpec⟩ :=
      kept.kept other given givenSpec written
    by_cases equal : key = other
    · subst equal
      obtain rfl := Option.some.inj (stored.symm.trans found)
      refine ⟨new, by simp [after], metadata.trans sameMetadata, ?_⟩
      exact spec.trans (sameSpec.mono subset)
    · exact ⟨former, by simpa [after, equal] using found, sameMetadata,
        sameSpec.mono subset⟩
  · intro other written
    have absent := kept.gone other written
    have apart : key ≠ other := by
      rintro rfl
      rw [stored] at absent
      cases absent
    simpa [after, apart] using absent

theorem drop_set (entries : Dict) (key : String) (value : Json) :
    Dict.drop (Dict.set entries key value) key = Dict.drop entries key := by
  induction entries with
  | nil => simp [Dict.set, Dict.drop]
  | cons entry rest ih =>
      obtain ⟨present, old⟩ := entry
      by_cases equal : present = key
      · simp [Dict.set, Dict.drop, equal]
      · simpa [Dict.set, Dict.drop, equal] using ih

variable {settings : Settings} {outside : Outside}

/-- The row that a write is based on, unless a tombstone refuses the write. -/
theorem CurrentCopy.row
    {authored : Authored} {guarded : Bool} {basis : K8sObject} {gvr : Gvr}
    {ns : Option String} {name : String} {metadata spec status : Json}
    (current : CurrentCopy outside authored
      (.upsert guarded (some basis) gvr ns name metadata spec status))
    (accepted : guarded = true → (tombstoneActive authored.world.tombstones
      (gvr.key ns name) (outside.now authored.world.calls)).1 = false) :
    ∃ row, authored.world.store.row? (gvr.key ns name) = some row ∧ row.metadata = basis.metadata ∧
      SameSpec authored.scaled (gvr.key ns name) row.spec basis.spec := by
  rcases current with ⟨guard, refused⟩ | stored
  · rw [accepted guard] at refused
    cases refused
  · split at stored
    · exact stored.elim
    · next row found => exact ⟨row, found, stored⟩

/-- A status write that is accepted. -/
theorem ContentKept.status
    {authored : Authored} {world : World} {basis : K8sObject} {key : ObjectKey}
    {row : ObjectRow} {status : Json} {version : Nat} (kept : ContentKept authored)
    (stored : authored.world.store.row? key = some row) (metadata : row.metadata = basis.metadata)
    (spec : SameSpec authored.scaled key row.spec basis.spec)
    (after : ∀ other, world.store.row? other =
      if key = other then some ⟨basis.metadata, basis.spec, status, version⟩
      else authored.world.store.row? other) :
    ContentKept { authored with world := world } :=
  kept.rewrite stored after (fun _ member => member) metadata.symm spec.symm

theorem ContentKept.executeStatus
    {authored : Authored} {guarded : Bool} {basis : K8sObject} {gvr : Gvr}
    {ns : Option String} {name : String} {status : Json} (kept : ContentKept authored)
    (current : CurrentCopy outside authored
      (.upsert guarded (some basis) gvr ns name basis.metadata basis.spec status)) :
    ContentKept (authored.execute settings outside
      (.upsert guarded (some basis) gvr ns name basis.metadata basis.spec status)).2 := by
  simp only [Authored.execute, Authored.noting, if_true]
  cases guarded with
  | false =>
      obtain ⟨row, stored, metadata, spec⟩ := current.row (by simp)
      exact kept.status stored metadata spec fun other => row?_write ..
  | true =>
      cases active : (tombstoneActive authored.world.tombstones (gvr.key ns name)
          (outside.now authored.world.calls)).1 with
      | true =>
          refine kept.congr fun key => ?_
          simp only [AdapterOp.execute, row?_writeGuarded, active, if_true]
      | false =>
          obtain ⟨row, stored, metadata, spec⟩ := current.row fun _ => active
          have written : ∀ other, (AdapterOp.execute settings outside
              (.upsert true (some basis) gvr ns name basis.metadata basis.spec status)
              authored.world).2.store.row? other =
              if gvr.key ns name = other then
                some ⟨basis.metadata, basis.spec, status.or (.dict []),
                  authored.world.store.nextRv⟩
              else authored.world.store.row? other := by
            intro other
            simp only [AdapterOp.execute, row?_writeGuarded, active,
              Bool.false_eq_true, if_false, row?_write]
          exact kept.status stored metadata spec written

theorem ContentKept.executeScale
    {authored : Authored} {basis : K8sObject} {gvr : Gvr} {ns : Option String}
    {name : String} {entries : Dict} {replicas status : Json} (kept : ContentKept authored)
    (readable : basis.spec.asDict = some entries)
    (current : CurrentCopy outside authored (.upsert false (some basis) gvr ns name basis.metadata
        (.dict (Dict.set entries "replicas" replicas)) status)) :
    ContentKept (authored.execute settings outside
      (.upsert false (some basis) gvr ns name basis.metadata
        (.dict (Dict.set entries "replicas" replicas)) status)).2 := by
  obtain ⟨row, stored, metadata, spec⟩ := current.row (by simp)
  simp only [Authored.execute, Authored.noting]
  have nonempty : (Dict.set entries "replicas" replicas).isEmpty = false := by
    simpa using Dict.set_ne_nil entries "replicas" replicas
  have rest : withoutReplicas (.dict (Dict.set entries "replicas" replicas)) =
      withoutReplicas basis.spec := by
    simp only [withoutReplicas, readable, Option.map_some]
    simp [Json.asDict, Json.or, Json.truthy, nonempty, drop_set]
  split
  · next same =>
      refine kept.rewrite stored (fun other => row?_write ..) (fun _ member => member)
        metadata.symm ?_
      rw [same]
      exact spec.symm
  · refine kept.rewrite stored (fun other => row?_write ..)
      (fun _ member => List.mem_cons_of_mem _ member) metadata.symm ?_
    refine SameSpec.trans (.inr ⟨by simp, ?_, rest⟩)
      (spec.symm.mono fun _ member => List.mem_cons_of_mem _ member)
    rw [rest, withoutReplicas, readable]
    rfl

/-- A write that gives an object its content. -/
theorem ContentKept.executeCreate
    {authored : Authored} {gvr : Gvr} {ns : Option String} {name : String}
    {metadata spec status : Json} (kept : ContentKept authored) :
    ContentKept (authored.execute settings outside
      (.upsert false none gvr ns name metadata spec status)).2 := by
  simp only [Authored.execute, Authored.noting, AdapterOp.execute]
  constructor
  · intro key given givenSpec written
    by_cases equal : gvr.key ns name = key
    · subst equal
      simp only [Function.update_self, Option.some.injEq, Prod.mk.injEq] at written
      refine ⟨_, by rw [row?_write, if_pos rfl], written.1, .inl written.2⟩
    · simp only [Function.update_of_ne (Ne.symm equal)] at written
      simpa [row?_write, equal] using kept.kept key given givenSpec written
  · intro key written
    by_cases equal : gvr.key ns name = key
    · subst equal
      simp at written
    · simp only [Function.update_of_ne (Ne.symm equal)] at written
      simpa [row?_write, equal] using kept.gone key written

/-- A deletion. -/
theorem ContentKept.executeDelete
    {authored : Authored} {gvr : Gvr} {ns : Option String} {name : String}
    (kept : ContentKept authored) :
    ContentKept (authored.execute settings outside (.delete gvr ns name)).2 := by
  simp only [Authored.execute, Authored.noting, AdapterOp.execute]
  constructor
  · intro key given givenSpec written
    by_cases equal : gvr.key ns name = key
    · subst equal
      simp at written
    · simp only [Function.update_of_ne (Ne.symm equal)] at written
      simpa [row?_remove, equal] using kept.kept key given givenSpec written
  · intro key written
    by_cases equal : gvr.key ns name = key
    · rw [row?_remove, if_pos equal]
    · simp only [Function.update_of_ne (Ne.symm equal)] at written
      simpa [row?_remove, equal] using kept.gone key written

theorem ContentKept.execute
    {authored : Authored} {operation : AdapterOp} (kept : ContentKept authored)
    (keeping : KeepingOp operation) (current : CurrentCopy outside authored operation) :
    ContentKept (authored.execute settings outside operation).2 := by
  cases keeping with
  | status guarded basis gvr ns name status => exact kept.executeStatus current
  | scale basis gvr ns name entries readable replicas status =>
      exact kept.executeScale readable current
  | create gvr ns name metadata spec status => exact kept.executeCreate
  | other operation noWrite =>
      by_cases deletes : ∃ gvr ns name, operation = .delete gvr ns name
      · obtain ⟨gvr, ns, name, rfl⟩ := deletes
        exact kept.executeDelete
      · have noDelete : ∀ gvr ns name, operation ≠ .delete gvr ns name :=
          fun gvr ns name equal => deletes ⟨gvr, ns, name, equal⟩
        have same := store_execute settings outside operation authored.world noWrite noDelete
        have noted : (authored.execute settings outside operation).2 =
            { authored with
              world := (operation.execute settings outside authored.world).2 } := by
          unfold Authored.execute Authored.noting
          split
          · exact (noWrite _ _ _ _ _ _ _ _ rfl).elim
          · exact (noWrite _ _ _ _ _ _ _ _ rfl).elim
          · exact (noDelete _ _ _ rfl).elim
          · rfl
        rw [noted]
        exact kept.congr fun key => by rw [same]

/-! ## Runs -/

/-- What the writes of all calls have to keep to. -/
def contentDiscipline (settings : Settings) (outside : Outside) :
    Discipline Authored AdapterOp AdapterOp.Reply where
  execute := Authored.execute settings outside
  permitted := CurrentCopy outside
  invariant := ContentKept
  later := fun _ _ => True
  later_refl := fun _ => trivial
  later_trans := fun _ _ _ _ _ => trivial

/-- Any number of calls, of handlers and of clients, side by side. -/
def authoredStep (worker : Worker) (outside : Outside) :
    Pool Authored AdapterOp AdapterOp.Reply Unit → PoolAction AdapterCall →
      Option (Pool Authored AdapterOp AdapterOp.Reply Unit) :=
  Pool.step (Authored.execute worker.settings outside) (AdapterCall.body worker)

/-- The call that goes on does not write from a copy whose metadata or spec is
outdated. -/
def CurrentCopyStep
    (outside : Outside) (pool : Pool Authored AdapterOp AdapterOp.Reply Unit) :
    PoolAction AdapterCall → Prop
  | .start _ _ => True
  | .advance thread =>
      ∀ operation, pool.pending thread = some operation → CurrentCopy outside pool.state operation

instance
    (outside : Outside) (pool : Pool Authored AdapterOp AdapterOp.Reply Unit)
    (action : PoolAction AdapterCall) : Decidable (CurrentCopyStep outside pool action) :=
  match action with
  | .start _ _ => inferInstanceAs (Decidable True)
  | .advance thread =>
      match waiting : pool.pending thread with
      | none => isTrue (by simp [CurrentCopyStep, waiting])
      | some operation =>
          decidable_of_iff (CurrentCopy outside pool.state operation)
            (by simp [CurrentCopyStep, waiting])

def suspendedCronjob (label : String) : K8sObject where
  gvr := cronjobsResource
  ns := some "default"
  name := "tidy"
  metadata := .dict [("name", .str "tidy"), ("labels", .dict [("team", .str label)])]
  spec := .dict [("schedule", .str "0 3 * * *"), ("suspend", .bool true)]
  status := .dict []
  resourceVersion := 1

def writeOf (object : K8sObject) : AdapterCall :=
  .clientWrite object.gvr object.ns object.name object.metadata object.spec object.status

/-- The state after the actions, from an empty store. -/
def afterCalls (actions : List (PoolAction AdapterCall)) :
    Option (Pool Authored AdapterOp AdapterOp.Reply Unit) :=
  Machine.run (authoredStep plainWorker plainOutside)
    (Pool.idle (.ofWorld (.startedOn .empty))) actions

/-- A client creates a CronJob, its event is handled, and the client writes the
CronJob again. -/
def orderlyCalls : List (PoolAction AdapterCall) :=
  [.start 0 (writeOf (suspendedCronjob "a")), .advance 0,
    .start 1 (.workload .cronjob .added (suspendedCronjob "a")), .advance 1, .advance 1,
    .advance 1, .start 2 (writeOf (suspendedCronjob "b")), .advance 2]

/-- The client writes the CronJob again before its first event is handled. -/
def overtakenCalls : List (PoolAction AdapterCall) :=
  [.start 0 (writeOf (suspendedCronjob "a")), .advance 0,
    .start 1 (.workload .cronjob .added (suspendedCronjob "a")), .advance 1, .advance 1,
    .start 2 (writeOf (suspendedCronjob "b")), .advance 2, .advance 1]

end Adapter
end K1s
