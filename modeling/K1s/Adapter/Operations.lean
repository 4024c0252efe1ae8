import K1s.ApiShim.Store
import K1s.Lib.Dictionary
import K1s.Py.Float

/-!
# The adapter and what it works on

`AdapterWorker` watches the object store and turns workloads into apps of the
controller.  Its threads share the store, some maps in memory, the bookkeeping
of node ports, the controller's state store and the runtime.  This module has
their state and the atomic operations on them.

A section under the adapter's lock is one operation on the memory.  What comes
from elsewhere (the clock, the file system, the status of apps, whether a call
of the state store or of the runtime fails) is the answer to a `Call`.
-/

namespace K1s
namespace Adapter

open Py ApiShim

/-- The namespace and name of an object. -/
abbrev ObjectRef := Option String × String

/-- The namespace and name of a workload that a service points to.  The name can
come from a label, whose value need not be a text. -/
abbrev TargetRef := Option String × Json

/-! ## What is handed to the controller -/

/-- `ServiceSpec.ServicePort`. -/
structure ServicePort where
  name : String
  port : Int
  targetPort : Option Int
  protocol : String
  nodePort : Option Int
  deriving DecidableEq

/-- The fields of `ServiceSpec` that the adapter sets. -/
structure ServiceSpec where
  type : Option String
  ports : List ServicePort
  port : Option Int
  targetPort : Option Int
  externalIps : List String
  sessionAffinity : Option String
  deriving DecidableEq

/-- The fields of `IngressSpec` that the adapter sets. -/
structure IngressSpec where
  host : String
  path : String
  tls : Bool
  tlsSecretName : Option String
  deriving DecidableEq

/-- The fields of `PvcMountSpec` that the adapter reads. -/
structure PvcMount where
  claimName : String
  claimTemplate : Bool
  ns : Option String
  deriving DecidableEq

/-- A manifest: its metadata, the claims it mounts, and the rest. -/
structure Manifest where
  name : String
  ns : Option String
  pvcMounts : List PvcMount
  rest : Json
  deriving DecidableEq

def appKey (name : String) (ns : Option String) : String :=
  match ns.map strip with
  | none => name
  | some ns => if ns = "" ∨ ns = "default" then name else ns ++ "--" ++ name

def appKeyForManifest (manifest : Manifest) : String :=
  appKey manifest.name manifest.ns

/-- The columns of `app_status` that the adapter reads. -/
structure AppStatus where
  desiredReplicas : Int
  readyReplicas : Int
  liveReplicas : Int
  revision : Int
  revisionStatus : Option String
  deriving DecidableEq

/-- The columns of `pod_status` that the adapter reads. -/
structure PodStatus where
  status : String
  exitCode : Option Int
  deriving DecidableEq

/-- The tables that `delete_app_state` empties of an app's rows. -/
inductive StateTable
  | podStatus
  | podNodes
  | appStatus
  | volumeAttachments
  | appEvents
  | appRevisions
  deriving DecidableEq

/-- A row of one of these tables. -/
structure StateRow where
  table : StateTable
  app : String
  content : String
  deriving DecidableEq

/-- A pod of an app in the runtime. -/
structure Pod where
  app : String
  name : String
  deriving DecidableEq

/-- The state store of the controller, and the runtime. -/
structure Controller where
  registered : Dictionary String Manifest
  rows : List StateRow
  pods : List Pod

/-! ## Memory -/

/-- What the adapter remembers of a CronJob. -/
structure CronRecord where
  job : String
  lastRun : Rat
  lastSchedule : String
  lastSuccess : String

/-- The maps of the adapter. -/
structure Memory where
  serviceSpecs : Dictionary TargetRef ServiceSpec
  ingressSpecs : Dictionary TargetRef IngressSpec
  serviceNameMap : Dictionary ObjectRef TargetRef
  ingressOwnerMap : Dictionary ObjectRef TargetRef
  cronjobJobs : Dictionary ObjectRef CronRecord
  hpaLastScale : Dictionary String Rat
  pendingPvcApps : List (String × String)

/-- A new adapter remembers nothing. -/
def Memory.empty : Memory where
  serviceSpecs := .empty
  ingressSpecs := .empty
  serviceNameMap := .empty
  ingressOwnerMap := .empty
  cronjobJobs := .empty
  hpaLastScale := .empty
  pendingPvcApps := []

/-! ## Node ports -/

/-- The bookkeeping of node ports, and the content of the file that it is saved
in, if there is one that can be read. -/
structure NodePorts where
  assignments : Dictionary String (Dictionary String Int)
  used : Finset Int
  file : Option Json

/-- The locked routines that change the bookkeeping. -/
inductive PortOp
  | allocate (svcKey portId : String)
  | reserve (svcKey portId : String) (port : Int)
  | releaseService (svcKey : String)
  | releaseAssignment (svcKey portId : String)
  | cleanupUnused (svcKey : String) (keep : List String)

/-- What a routine returns and leaves, and whether it saves the assignments. -/
structure PortOutcome where
  port : Option Int
  ports : NodePorts
  saves : Bool

/-- The document that `json.dumps(self._port_assignments)` writes. -/
def savedAssignments (assignments : Dictionary String (Dictionary String Int)) : Json :=
  .dict (assignments.entries.map fun (svcKey, ports) =>
    (svcKey, .dict (ports.entries.map fun (portId, port) => (portId, .int port))))

namespace NodePorts

/-- No port is assigned, and there is no file. -/
def empty : NodePorts := ⟨.empty, ∅, none⟩

variable (ports : NodePorts) (svcKey : String)

/-- `self._port_assignments.get(svc_key)`, with no ports for a missing key. -/
def portsOf : Dictionary String Int :=
  (ports.assignments.find? svcKey).getD .empty

/-- The first port of the range that is not in use. -/
def freePort (low high : Int) : Option Int :=
  ((List.range (high + 1 - low).toNat).map fun offset => low + offset).find?
    fun candidate => candidate ∉ ports.used

def allocateNodePort
    (low high : Int)
    (svcKey portId : String) : PortOutcome :=
  let existing := ports.portsOf svcKey
  let entered := { ports with assignments := ports.assignments.set svcKey existing }
  match existing.find? portId with
  | some port => ⟨some port, entered, false⟩
  | none =>
      match ports.freePort low high with
      | none => ⟨none, entered, false⟩
      | some candidate =>
          ⟨some candidate,
            { ports with
              assignments :=
                ports.assignments.set svcKey (existing.set portId candidate)
              used := insert candidate ports.used },
            true⟩

def reserveNodePort
    (svcKey portId : String)
    (port : Int) : PortOutcome :=
  ⟨none,
    { ports with
      assignments :=
        ports.assignments.set svcKey ((ports.portsOf svcKey).set portId port)
      used := insert port ports.used },
    true⟩

/-- Take the entries of some port ids out of a service's ports, and the ports
out of those in use.  A service without ports is removed. -/
def release
    (existing : Dictionary String Int)
    (stale : List String) : NodePorts :=
  let kept := stale.foldl (fun kept portId => kept.drop portId) existing
  { ports with
    assignments :=
      if kept.entries.isEmpty then ports.assignments.drop svcKey
      else ports.assignments.set svcKey kept
    used := stale.foldl (fun used portId =>
        match existing.find? portId with
        | some port => used.erase port
        | none => used)
      ports.used }

def releaseServicePorts : PortOutcome :=
  match ports.assignments.find? svcKey with
  | none => ⟨none, ports, false⟩
  | some existing =>
      if existing.entries.isEmpty then
        ⟨none, { ports with assignments := ports.assignments.drop svcKey }, false⟩
      else
        ⟨none, ports.release svcKey existing (existing.entries.map Prod.fst), true⟩

def releasePortAssignment (svcKey portId : String) : PortOutcome :=
  match ports.assignments.find? svcKey with
  | none => ⟨none, ports, false⟩
  | some existing =>
      if existing.entries.isEmpty then ⟨none, ports, false⟩
      else ⟨none, ports.release svcKey existing [portId], true⟩

def cleanupUnusedPorts (keep : List String) : PortOutcome :=
  match ports.assignments.find? svcKey with
  | none => ⟨none, ports, false⟩
  | some existing =>
      if existing.entries.isEmpty then ⟨none, ports, false⟩
      else
        ⟨none, ports.release svcKey existing
            ((existing.entries.map Prod.fst).filter fun portId => portId ∉ keep),
          true⟩

/-- The routine of an operation. -/
def perform (low high : Int) : PortOp → PortOutcome
  | .allocate svcKey portId => ports.allocateNodePort low high svcKey portId
  | .reserve svcKey portId port => ports.reserveNodePort svcKey portId port
  | .releaseService svcKey => ports.releaseServicePorts svcKey
  | .releaseAssignment svcKey portId => ports.releasePortAssignment svcKey portId
  | .cleanupUnused svcKey keep => ports.cleanupUnusedPorts svcKey keep

/-- `_save_port_assignments`: a failure leaves the old file. -/
def save (written : Bool) : NodePorts :=
  if written then { ports with file := some (savedAssignments ports.assignments) }
  else ports

/-- The ports of one service in the file.  An entry that is no number is left
out, and an infinite one stops the adapter from being made. -/
def loadEntries (entries : Dict) : Option (Dictionary String Int) :=
  entries.foldlM (fun normalized entry =>
      match entry.2.toInt, entry.2 with
      | some port, _ => some (normalized.set entry.1 port)
      | none, .float text =>
          match floatOfText text with
          | some (.inf _) => none
          | _ => some normalized
      | none, _ => some normalized)
    .empty

def loadService (entry : String × Json) : Option NodePorts :=
  match entry.2 with
  | .dict entries =>
      (loadEntries entries).map fun normalized =>
        { ports with
          assignments :=
            if normalized.entries.isEmpty then ports.assignments
            else ports.assignments.set entry.1 normalized
          used := ports.used ∪ (normalized.entries.map Prod.snd).toFinset }
  | _ => some ports

/-- `_load_port_assignments` of a new adapter, whose maps are empty. -/
def load (file : Option Json) : Option NodePorts :=
  match file with
  | some (.dict data) => data.foldlM loadService ⟨.empty, ∅, file⟩
  | _ => some ⟨.empty, ∅, file⟩

end NodePorts

/-! ## Calls to the outside -/

/-- What `_collect_metrics_for_app` returns. -/
structure Metrics where
  cpuUtil : Option Rat
  memUtil : Option Rat
  memBytes : Option Rat

/-- A call of the state store or of the runtime that changes what they have of
an app, unless it fails. -/
inductive ControllerCall
  | registerApp (app : String)
  | deleteRegisteredApp (app : String)
  | deleteAppState (app : String)
  | removeApp (app : String)

/-- A call that leaves the adapter. -/
inductive Call
  | now
  | timestamp
  /-- Write the file with the node ports. -/
  | savePorts
  | control (request : ControllerCall)
  | recordEvent (app : String)
  | getStatus (app : String)
  | listPods (app : String)
  | listNodes
  | metrics (app : String)
  /-- The next time of a cron expression after a time, or why it is invalid. -/
  | cronNext (expression : Json) (base : Rat)

/-- What a call returns.  `false` and an outer `none` are exceptions. -/
def Call.Reply : Call → Type
  | .now => Rat
  | .timestamp => String
  | .savePorts => Bool
  | .control _ => Bool
  | .recordEvent _ => Unit
  | .getStatus _ => Option (Option AppStatus)
  | .listPods _ => Option (List PodStatus)
  | .listNodes => Option Nat
  | .metrics _ => Metrics
  | .cronNext _ _ => Except String Rat

/-- How the outside answers, given the calls before. -/
def Outside := List Call → (request : Call) → request.Reply

/-- `time.time()`. -/
def Outside.now (outside : Outside) (calls : List Call) : Rat :=
  outside calls .now

/-- Whether the file with the node ports is written. -/
def Outside.savesPorts (outside : Outside) (calls : List Call) : Bool :=
  outside calls .savePorts

/-- Whether a call changes what the controller has of an app. -/
def Outside.succeeds
    (outside : Outside) (calls : List Call)
    (request : ControllerCall) : Bool :=
  outside calls (.control request)

/-! ## The shared state -/

/-- The type of an event in the queue of a watch. -/
inductive EventType
  | added
  | modified
  | deleted
  | bookmark
  deriving DecidableEq

/-- Everything that the threads share.  `published` has the events that the
store has put into the queues of the watches, the oldest first. -/
structure World where
  store : ObjectStore
  tombstones : Dictionary ObjectKey Rat
  published : List (EventType × K8sObject)
  memory : Memory
  ports : NodePorts
  controller : Controller
  calls : List Call

/-- What is fixed when the adapter and the store are made. -/
structure Settings where
  portLow : Int
  portHigh : Int
  tombstoneTtl : Rat
  hpaCooldownSeconds : Rat
  allowUnresolvedTargetPort : Bool
  allowInvalidCron : Bool
  /-- `int` fields of a pydantic model. -/
  pydanticInt : Json → Option Int

/-- One atomic operation. -/
inductive AdapterOp
  | get (gvr : Gvr) (ns : Option String) (name : String)
  | list (gvr : Gvr) (ns : Option String)
  | listAll (gvr : Gvr)
  /-- `guarded` is set for `upsert_if_not_deleted`.  `basis` is the copy of the
  object that the new content was computed from. -/
  | upsert
      (guarded : Bool)
      (basis : Option K8sObject)
      (gvr : Gvr)
      (ns : Option String)
      (name : String)
      (metadata spec status : Json)
  | delete (gvr : Gvr) (ns : Option String) (name : String)
  /-- A section under the lock, which returns the memory before it. -/
  | memory (update : Memory → Memory)
  | ports (operation : PortOp)
  | registerApp (manifest : Manifest)
  | deleteRegisteredApp (app : String)
  | deleteAppState (app : String)
  | removeApp (app : String)
  /-- The runtime starts a pod while an app is reconciled. -/
  | startPod (app name : String)
  | stopPod (app name : String)
  /-- The controller records a row while an app is reconciled. -/
  | recordRow (row : StateRow)
  | call (request : Call)

/-- What an operation returns. -/
def AdapterOp.Reply : AdapterOp → Type
  | .get _ _ _ => Option K8sObject
  | .list _ _ => List K8sObject
  | .listAll _ => List K8sObject
  | .upsert _ _ _ _ _ _ _ _ => Option K8sObject
  | .delete _ _ _ => Bool
  | .memory _ => Memory
  | .ports _ => Option Int
  | .registerApp _ => Unit
  | .deleteRegisteredApp _ => Unit
  | .deleteAppState _ => Unit
  | .removeApp _ => Unit
  | .startPod _ _ => Unit
  | .stopPod _ _ => Unit
  | .recordRow _ => Unit
  | .call request => request.Reply

abbrev AdapterProgram := Program AdapterOp AdapterOp.Reply

/-! ## Executing operations -/

/-- `self._tombstone_active(key)`, and the tombstones it leaves. -/
def tombstoneActive
    (tombstones : Dictionary ObjectKey Rat) (key : ObjectKey)
    (now : Rat) : Bool × Dictionary ObjectKey Rat :=
  match tombstones.find? key with
  | none => (false, tombstones)
  | some expiry =>
      if expiry ≤ now then (false, tombstones.drop key) else (true, tombstones)

namespace World

variable (world : World)

def noting (request : Call) : World :=
  { world with calls := request :: world.calls }

/-- Write a row and publish the event. -/
def write
    (gvr : Gvr) (ns : Option String) (name : String)
    (metadata spec status : Json) : K8sObject × World :=
  let existed := (world.store.get gvr ns name).isSome
  let (object, store) := world.store.upsert gvr ns name metadata spec status
  (object,
    { world with
      store := store
      published :=
        world.published ++ [(if existed then .modified else .added, object)] })

/-- `store.upsert_if_not_deleted`. -/
def writeGuarded
    (outside : Outside) (gvr : Gvr) (ns : Option String) (name : String)
    (metadata spec status : Json) : Option K8sObject × World :=
  let checked := tombstoneActive world.tombstones (gvr.key ns name)
    (outside.now world.calls)
  let reached := { world.noting .now with tombstones := checked.2 }
  if checked.1 then (none, reached)
  else
    let (object, written) := reached.write gvr ns name metadata spec status
    (some object, written)

/-- `store.delete`. -/
def remove
    (settings : Settings) (outside : Outside) (gvr : Gvr) (ns : Option String)
    (name : String) : Bool × World :=
  let (removed, store) := world.store.delete gvr ns name
  (removed,
    { world.noting .now with
      store := store
      tombstones :=
        if 0 < settings.tombstoneTtl then
          world.tombstones.set (gvr.key ns name) (outside.now world.calls + settings.tombstoneTtl)
        else world.tombstones
      published :=
        match world.store.get gvr ns name with
        | some object => world.published ++ [(.deleted, object)]
        | none => world.published })

/-- A change of the controller that a call may fail to make. -/
def control
    (world : World) (outside : Outside) (request : ControllerCall)
    (change : Controller → Controller) : World :=
  if outside.succeeds world.calls request then
    { world.noting (.control request) with controller := change world.controller }
  else world.noting (.control request)

end World

namespace Controller

variable (controller : Controller)

/-- `register_app`. -/
def register (manifest : Manifest) : Controller :=
  { controller with
    registered := controller.registered.set (appKeyForManifest manifest) manifest }

/-- `delete_registered_app`. -/
def unregister (app : String) : Controller :=
  { controller with registered := controller.registered.drop app }

/-- `delete_app_state(app_name, purge_history=True)`. -/
def purge (app : String) : Controller :=
  { controller with rows := controller.rows.filter fun row => row.app ≠ app }

/-- The runtime's `remove_app`. -/
def removePods (app : String) : Controller :=
  { controller with pods := controller.pods.filter fun pod => pod.app ≠ app }

end Controller

def AdapterOp.execute (settings : Settings) (outside : Outside) :
    (operation : AdapterOp) → World → operation.Reply × World
  | .get gvr ns name, world => (world.store.get gvr ns name, world)
  | .list gvr ns, world => (world.store.list gvr ns, world)
  | .listAll gvr, world => (world.store.listAll gvr, world)
  | .upsert false _ gvr ns name metadata spec status, world =>
      let (object, world) := world.write gvr ns name metadata spec status
      (some object, world)
  | .upsert true _ gvr ns name metadata spec status, world =>
      world.writeGuarded outside gvr ns name metadata spec status
  | .delete gvr ns name, world => world.remove settings outside gvr ns name
  | .memory update, world =>
      (world.memory, { world with memory := update world.memory })
  | .ports operation, world =>
      let outcome :=
        world.ports.perform settings.portLow settings.portHigh operation
      if outcome.saves then
        (outcome.port,
          { world.noting .savePorts with
            ports := outcome.ports.save (outside.savesPorts world.calls) })
      else (outcome.port, { world with ports := outcome.ports })
  | .registerApp manifest, world =>
      ((), world.control outside (.registerApp (appKeyForManifest manifest))
        fun controller => controller.register manifest)
  | .deleteRegisteredApp app, world =>
      ((), world.control outside (.deleteRegisteredApp app)
        fun controller => controller.unregister app)
  | .deleteAppState app, world =>
      ((), world.control outside (.deleteAppState app)
        fun controller => controller.purge app)
  | .removeApp app, world =>
      ((), world.control outside (.removeApp app)
        fun controller => controller.removePods app)
  | .startPod app name, world =>
      ((), { world with
        controller :=
          { world.controller with pods := ⟨app, name⟩ :: world.controller.pods } })
  | .stopPod app name, world =>
      ((), { world with
        controller :=
          { world.controller with
            pods := world.controller.pods.filter fun pod => pod ≠ ⟨app, name⟩ } })
  | .recordRow row, world =>
      ((), { world with
        controller :=
          { world.controller with rows := row :: world.controller.rows } })
  | .call request, world =>
      (outside world.calls request, world.noting request)

/-! ## Operations by name -/

def perform (operation : AdapterOp) : AdapterProgram operation.Reply :=
  Program.ask operation

def call (request : Call) : AdapterProgram request.Reply :=
  perform (.call request)

def storeGet (gvr : Gvr) (ns : Option String) (name : String) :
    AdapterProgram (Option K8sObject) :=
  perform (.get gvr ns name)

def storeList (gvr : Gvr) (ns : Option String) : AdapterProgram (List K8sObject) :=
  perform (.list gvr ns)

def storeListAll (gvr : Gvr) : AdapterProgram (List K8sObject) :=
  perform (.listAll gvr)

/-- `store.upsert`, which returns the object it wrote. -/
def storeUpsert
    (basis : Option K8sObject) (gvr : Gvr) (ns : Option String) (name : String)
    (metadata spec status : Json) : AdapterProgram (Option K8sObject) :=
  perform (.upsert false basis gvr ns name metadata spec status)

def storeUpsertIfNotDeleted
    (basis : Option K8sObject) (gvr : Gvr) (ns : Option String) (name : String)
    (metadata spec status : Json) : AdapterProgram (Option K8sObject) :=
  perform (.upsert true basis gvr ns name metadata spec status)

def remembered : AdapterProgram Memory := perform (.memory id)

/-- A section under the lock. -/
def locked (update : Memory → Memory) : AdapterProgram Memory :=
  perform (.memory update)

/-- A routine of the node ports whose result is not used. -/
def onPorts (operation : PortOp) : AdapterProgram Unit :=
  (perform (.ports operation)).andThen fun _ => .done ()

end Adapter
end K1s
