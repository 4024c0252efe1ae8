import K1s.Inference.Admission
import K1s.Inference.EtcdLeases
import K1s.Inference.FabricSessions

/-!
# The state machine of inference cells

`InferenceCellController._run_once` takes a cell from one phase to the next.  It is a
program over the calls to the store, the fabric, the nodes and the leader's API, each of
which can raise an exception, and ends in the arguments of `_update`, whose write is the
only one to the record of the cell.

The manifests of the workloads, the rendered plans under `workloads`, the messages of
events and conditions and the boot assurance are left out: nothing here reads them.
-/

namespace K1s
namespace Inference

open Py

/-! ## Cells -/

inductive CellPhase
  | pending
  | admitting
  | reserving
  | fabric
  | startingWorkers
  | startingLeader
  | joining
  | ready
  | restarting
  | failed
  deriving DecidableEq

/-- The ports of `InferenceExecutorSpec.ray_ports`. -/
structure RayPorts where
  headPort : Int
  nodeManagerPort : Int
  objectManagerPort : Int
  runtimeEnvAgentPort : Int
  minWorkerPort : Int
  maxWorkerPort : Int
  rayClientServerPort : Option Int
  metricsExportPort : Option Int
  includeDashboard : Bool
  dashboardPort : Int

/-- What the controller reads of `InferenceCellSpec` and of the name of the cell. -/
structure CellSpec where
  cellName : String
  cellNamespace : String
  layout : CellLayout
  budgets : CellBudgets
  executorType : String
  fallbackMode : String
  rayPorts : RayPorts
  masterStage : Int
  masterPortMin : Int
  masterPortMax : Int
  apiPortMin : Int
  apiPortMax : Int
  policyMode : String
  fabricMode : String
  ttlSeconds : Int
  maxRestarts : Nat

/-- A workload that has been applied to a node. -/
structure CellWorkload where
  nodeId : String
  appName : String
  role : String
  deriving DecidableEq

structure Allocations where
  placements : List SitedPlacement
  gpuSlots : List (String × Int)
  activeExecutor : Option String
  leaseId : Option String
  masterPort : Option Int
  apiPort : Int
  lockedNodes : List String
  fabricSessionId : Option String
  fabricIfname : String
  memberFabricIps : Dictionary String String
  fabricAllowedRules : List Json
  fabricMode : Option String
  masterAddr : Option String
  /-- `execution.workloads`. -/
  execution : Option (List CellWorkload)
  leaderNodeId : String
  apiEndpoint : String

/-- `{}`. -/
def noAllocations : Allocations where
  placements := []
  gpuSlots := []
  activeExecutor := none
  leaseId := none
  masterPort := none
  apiPort := 0
  lockedNodes := []
  fabricSessionId := none
  fabricIfname := ""
  memberFabricIps := .empty
  fabricAllowedRules := []
  fabricMode := none
  masterAddr := none
  execution := none
  leaderNodeId := ""
  apiEndpoint := ""

/-- `InferenceCellRecord`. -/
structure CellRecord where
  cellKey : String
  phase : CellPhase
  allocations : Allocations
  admitted : Option Bool
  conditions : Dictionary String Bool
  restarts : Nat
  lastError : Option String

/-- The record that `register_inference_cell` writes for a new cell. -/
def newCell (cellKey : String) : CellRecord where
  cellKey := cellKey
  phase := .pending
  allocations := noAllocations
  admitted := none
  conditions := .empty
  restarts := 0
  lastError := none

/-- The arguments of `_update`.  What is `none` stays as it is. -/
structure CellUpdate where
  phase : CellPhase
  allocations : Option Allocations
  admitted : Option Bool
  conditions : Dictionary String Bool
  restarts : Option Nat
  lastError : Option (Option String)

/-- An update to a phase that leaves admission and restarts as they are. -/
def moveTo
    (phase : CellPhase) (allocations : Option Allocations) (conditions : Dictionary String Bool)
    (lastError : Option String) : CellUpdate where
  phase := phase
  allocations := allocations
  admitted := none
  conditions := conditions
  restarts := none
  lastError := some lastError

variable (record : CellRecord) (spec : CellSpec) (alloc : Allocations)
  (placements : List SitedPlacement) (executionEnabled : Bool)

/-- `update_inference_cell_status`. -/
def CellRecord.updated (update : CellUpdate) : CellRecord where
  cellKey := record.cellKey
  phase := update.phase
  allocations := update.allocations.getD record.allocations
  admitted := update.admitted <|> record.admitted
  conditions := update.conditions
  restarts := update.restarts.getD record.restarts
  lastError := update.lastError.getD record.lastError

/-! ## Calls -/

/-- A container as `list_containers_info` shows it. -/
structure ContainerInfo where
  app : String
  running : Bool

/-- The calls of the controller. -/
inductive CellOp
  | logEvent (eventType : String)
  /-- `_validate_members_for_execution`. -/
  | memberErrors
  /-- `list_fabric_link_metrics`, up to the first exception. -/
  | linkMetrics
  | reserve (request : ReserveRequest)
  | release (lease : LeaseBundle)
  | createSession (request : FabricRequest)
  | ensureSession (nodeId : String) (session : FabricSession)
  /-- `teardown_session` of the agent. -/
  | leaveSession (nodeId sessionId : String)
  /-- `teardown_session` of the broker. -/
  | dropSession (sessionId : String)
  /-- `ensure_app` on a node, which shows the endpoints of the pods. -/
  | ensureApp (nodeId appName : String)
  /-- `remove_app` on a node. -/
  | removeApp (nodeId appName : String)
  | containers (nodeId : String)
  /-- `_node_hostport_endpoint`. -/
  | nodeEndpoint (nodeId : String) (port : Int)
  /-- The request to the health URL of an endpoint. -/
  | health (endpoint : String)

/-- What a call returns. -/
abbrev CellOp.Value : CellOp → Type
  | .logEvent _ => Unit
  | .memberErrors => List String
  | .linkMetrics => List LinkSample
  | .reserve _ => Option LeaseBundle
  | .release _ => Unit
  | .createSession _ => FabricSession
  | .ensureSession _ _ => Bool
  | .leaveSession _ _ => Unit
  | .dropSession _ => Unit
  | .ensureApp _ _ => List String
  | .removeApp _ _ => Unit
  | .containers _ => List ContainerInfo
  | .nodeEndpoint _ _ => String
  | .health _ => Bool

/-- The reply to a call, `none` for an exception. -/
abbrev CellOp.Reply (operation : CellOp) : Type := Option operation.Value

abbrev CellProgram := Program CellOp CellOp.Reply

/-- A call whose exceptions are raised. -/
def call (operation : CellOp) : CellProgram operation.Value :=
  (Program.ask operation).andThen Program.ofOption

/-- A call whose exceptions are suppressed. -/
def suppressed (operation : CellOp) : CellProgram Unit :=
  (Program.ask operation).andThen fun _ => .done ()

/-- `_log_event`, and then `_update`. -/
def logged (eventType : String) (update : CellUpdate) : CellProgram CellUpdate :=
  (call (.logEvent eventType)).andThen fun _ => .done update

/-! ## Helpers of the controller -/

def appKey (name cellNamespace : String) : String :=
  let ns := strip cellNamespace
  if ns = "" ∨ ns = "default" then name else ns ++ "--" ++ name

/-- `_active_executor`: `true` for Ray. -/
@[irreducible] def usesRay : Bool :=
  let active := alloc.activeExecutor.getD ""
  let raw := if active = "" then (if spec.executorType = "" then "ray" else spec.executorType)
    else active
  lower (strip raw) ≠ "mp"

@[irreducible] def supportsMpFallback : Bool :=
  lower (strip (if spec.fallbackMode = "" then "none" else spec.fallbackMode)) = "mp_on_failure"

def allocStagePlacements : List SitedPlacement :=
  orderedStages alloc.placements

/-- The placement of the master stage, or else the first one. -/
def leaderOf : Option SitedPlacement :=
  placements.head?.map fun first =>
    (placements.find? fun placement => placement.stage = spec.masterStage).getD first

def leaseFromAllocations : Option LeaseBundle :=
  let leaseId := alloc.leaseId.getD ""
  if leaseId = "" then none
  else some ⟨leaseId, alloc.gpuSlots, alloc.masterPort, alloc.apiPort, alloc.lockedNodes⟩

def linkMetricsForAdmission (manifest controller : List LinkSample) : List LinkSample :=
  let pair (sample : LinkSample) :=
    (min sample.fromSite sample.toSite, max sample.fromSite sample.toSite)
  if manifest.isEmpty then controller
  else
    controller.filter (fun sample => !(manifest.map pair).contains (pair sample)) ++ manifest

def portRule (port : Int) : Json := .dict [("proto", .str "tcp"), ("port", .int port)]

/-- `_build_allowed_rules`. -/
def allowedRules (lease : LeaseBundle) : List Json :=
  let ports := spec.rayPorts
  let first := portRule lease.apiPort :: (lease.masterPort.map portRule).toList
  if spec.executorType = "mp" then first
  else
    first ++ [portRule ports.headPort, portRule ports.nodeManagerPort,
      portRule ports.objectManagerPort, portRule ports.runtimeEnvAgentPort,
      .dict [("proto", .str "tcp"),
        ("range", .list [.int ports.minWorkerPort, .int ports.maxWorkerPort])]] ++
      (ports.rayClientServerPort.map portRule).toList ++
      (ports.metricsExportPort.map portRule).toList ++
      (if ports.includeDashboard then [portRule ports.dashboardPort] else [])

/-- The arguments of `reserve`. -/
def reserveRequest (record : CellRecord) : ReserveRequest where
  cellKey := record.cellKey
  placements := (allocStagePlacements record.allocations).map SitedPlacement.toStagePlacement
  ttlSeconds := spec.ttlSeconds
  masterStage := spec.masterStage
  masterPortMin := spec.masterPortMin
  masterPortMax := spec.masterPortMax
  apiPortMin := spec.apiPortMin
  apiPortMax := spec.apiPortMax
  executorType := spec.executorType
  fallbackMode := spec.fallbackMode
  policyMode := spec.policyMode

/-- The arguments of `create_session`. -/
def fabricRequest (record : CellRecord) (lease : LeaseBundle) :
    FabricRequest where
  cellKey := record.cellKey
  policyMode := spec.policyMode
  mode := if spec.fabricMode = "" then "lan_direct" else spec.fabricMode
  ttlSeconds := spec.ttlSeconds
  placements := allocStagePlacements record.allocations
  allowedRules := allowedRules spec lease

def usesLauncherLocalRay
    (alloc : Allocations)
    (ray : Bool) : Bool :=
  let mode := alloc.fabricMode.getD ""
  ray && placements.length = 1 &&
    strip (if mode = "" then spec.fabricMode else mode) = "lan_direct"

/-- `_apply_manifest_to_node`, with the endpoints of the pods. -/
def applyManifestToNode (nodeId name role : String) :
    CellProgram (CellWorkload × List String) :=
  (call (.ensureApp nodeId (appKey name spec.cellNamespace))).andThen fun endpoints =>
    .done (⟨nodeId, appKey name spec.cellNamespace, role⟩, endpoints)

def removeExecutionWorkloads : CellProgram Unit :=
  Program.forEach (alloc.execution.getD []) fun workload =>
    if workload.nodeId = "" ∨ workload.appName = "" then .done ()
    else suppressed (.removeApp workload.nodeId workload.appName)

def teardownFabric : CellProgram Unit :=
  let sessionId := alloc.fabricSessionId.getD ""
  if sessionId = "" then .done ()
  else
    (Program.forEach (allocStagePlacements alloc) fun placement =>
      suppressed (.leaveSession placement.nodeId sessionId)).andThen fun _ =>
        call (.dropSession sessionId)

@[irreducible] def resolveApiEndpoint (nodeId apiEndpoint : String) : CellProgram String :=
  if strip apiEndpoint ≠ "" then .done (strip apiEndpoint)
  else
    (call (.nodeEndpoint nodeId alloc.apiPort)).andThen fun nodeEndpoint =>
      if nodeEndpoint ≠ "" then .done nodeEndpoint
      else
        let masterAddr := strip (alloc.masterAddr.getD "")
        if masterAddr ≠ "" ∧ 0 < alloc.apiPort then
          .done (masterAddr ++ ":" ++ toString alloc.apiPort)
        else .done ""

def probeLeaderApi : CellProgram Bool :=
  (resolveApiEndpoint alloc alloc.leaderNodeId alloc.apiEndpoint).andThen fun endpoint =>
    if strip endpoint = "" then .done false else call (.health (strip endpoint))

/-! ## From phase to phase -/

def runPending : CellProgram CellUpdate :=
  logged "PhaseChange"
    { phase := .admitting
      allocations := none
      admitted := none
      conditions := record.conditions
      restarts := none
      lastError := none }

/-- The failures of `ADMITTING`. -/
def rejected (allocations : Allocations) (lastError : String) : CellProgram CellUpdate :=
  logged "AdmissionFailed"
    { phase := .failed
      allocations := some allocations
      admitted := some false
      conditions := record.conditions.set "AdmissionReady" false
      restarts := none
      lastError := some (some lastError) }

/-- `ADMITTING` after the members have been validated. -/
def admitCell (record : CellRecord) : CellProgram CellUpdate :=
  match plan spec.layout with
  | .error _ => rejected record record.allocations "ADMISSION_PLACEMENT_FAILED"
  | .ok placements =>
      (Program.ask .linkMetrics).andThen fun controllerMetrics =>
        let metrics :=
          linkMetricsForAdmission spec.budgets.linkMetrics (controllerMetrics.getD [])
        let allocations :=
          { record.allocations with
            placements := placements
            gpuSlots := gpuSlots (placements.map SitedPlacement.toStagePlacement)
            activeExecutor := some spec.executorType }
        if (evaluate spec.budgets placements (some metrics)).admitted then
          logged "AdmissionPassed"
            { phase := .reserving
              allocations := some allocations
              admitted := some true
              conditions := record.conditions.set "AdmissionReady" true
              restarts := none
              lastError := some none }
        else rejected record allocations "ADMISSION_REJECTED"

def runAdmitting (spec : CellSpec) (record : CellRecord) : CellProgram CellUpdate :=
  if executionEnabled then
    (call .memberErrors).andThen fun memberErrors =>
      if memberErrors.isEmpty then admitCell spec record
      else rejected record record.allocations "ADMISSION_MEMBER_INVALID"
  else admitCell spec record

def runReserving (record : CellRecord) : CellProgram CellUpdate :=
  (call (.reserve (reserveRequest spec record))).andThen fun
    | none =>
        logged "ReserveFailed" (moveTo .failed none
          (record.conditions.set "ResourcesReserved" false) (some "RESOURCE_RESERVE_FAILED"))
    | some lease =>
        logged "Reserved" (moveTo .fabric (some { record.allocations with
            leaseId := some lease.leaseId
            masterPort := lease.masterPort
            apiPort := lease.apiPort
            lockedNodes := lease.lockedNodes })
          (record.conditions.set "ResourcesReserved" true) none)

/-- Ensure a session on the nodes up to the first that refuses: those that did not, and
whether there was none that refused. -/
def ensureSessions (session : FabricSession) :
    List SitedPlacement → CellProgram (List String × Bool)
  | [] => .done ([], true)
  | placement :: rest =>
      (call (.ensureSession placement.nodeId session)).andThen fun ensured =>
        if ensured then
          (ensureSessions session rest).andThen fun later =>
            .done (placement.nodeId :: later.1, later.2)
        else .done ([], false)

/-- `FABRIC` with a session on all nodes. -/
def fabricReady
    (record : CellRecord)
    (session : FabricSession) : CellProgram CellUpdate :=
  (Program.ofOption (leaderOf spec (allocStagePlacements record.allocations))).andThen
    fun leader =>
      logged "FabricReady" (moveTo .startingWorkers (some { record.allocations with
          fabricSessionId := some session.sessionId
          fabricIfname := session.ifname
          memberFabricIps := session.memberIps
          fabricAllowedRules := session.allowedRules
          fabricMode := some session.mode
          masterAddr := session.memberIps.find? leader.nodeId })
        (record.conditions.set "FabricReady" true) none)

def setUpFabric
    (record : CellRecord)
    (lease : LeaseBundle) : CellProgram CellUpdate :=
  (call (.createSession (fabricRequest spec record lease))).andThen fun session =>
    (ensureSessions session (allocStagePlacements record.allocations)).andThen fun ensured =>
      if ensured.2 then fabricReady spec record session
      else
        (Program.forEach ensured.1 fun nodeId =>
          suppressed (.leaveSession nodeId session.sessionId)).andThen fun _ =>
        (call (.dropSession session.sessionId)).andThen fun _ =>
          logged "FabricFailed" (moveTo .failed (some record.allocations)
            (record.conditions.set "FabricReady" false) (some "FABRIC_AGENT_FAILED"))

def runFabric (record : CellRecord) : CellProgram CellUpdate :=
  match leaseFromAllocations record.allocations with
  | none =>
      .done (moveTo .failed none (record.conditions.set "FabricReady" false)
        (some "FABRIC_MISSING_LEASE"))
  | some lease => setUpFabric spec record lease

def applyWorkerSet (ray : Bool) (placements : List SitedPlacement) :
    CellProgram (List CellWorkload) :=
  Program.collect (placements.filter fun placement => placement.stage ≠ spec.masterStage)
    fun placement =>
      (if ray then
        applyManifestToNode spec placement.nodeId
          (spec.cellName ++ "-ray-worker-" ++ placement.nodeId) "ray-worker"
      else
        applyManifestToNode spec placement.nodeId
          (spec.cellName ++ "-mp-stage" ++ toString placement.stage) "mp-worker").andThen
        fun applied => .done [applied.1]

/-- `STARTING_WORKERS` that goes on to the leader. -/
def workersStarted
    (eventType : String) (allocations : Allocations)
    (conditions : Dictionary String Bool) : CellProgram CellUpdate :=
  logged eventType (moveTo .startingLeader (some allocations)
    (conditions.set "WorkersStarted" true) none)

/-- `STARTING_WORKERS` that fails. -/
def workersFailed (allocations : Allocations) : CellProgram CellUpdate :=
  logged "WorkersFailed" (moveTo .failed (some allocations)
    (record.conditions.set "WorkersStarted" false) (some "WORKER_START_FAILED"))

def runStartingWorkers (spec : CellSpec) (record : CellRecord) : CellProgram CellUpdate :=
  let alloc := record.allocations
  let placements := allocStagePlacements alloc
  let ray := usesRay spec alloc
  if executionEnabled then
    (applyWorkerSet spec ray placements).attempt.andThen fun
      | some applied =>
          workersStarted "WorkersStarted"
            { alloc with execution := some (alloc.execution.getD [] ++ applied) }
            record.conditions
      | none =>
          if ray && supportsMpFallback spec then
            (call (.logEvent "ExecutorFallback")).andThen fun _ =>
            (removeExecutionWorkloads alloc).andThen fun _ =>
            (applyWorkerSet spec false placements).attempt.andThen fun
              | some applied =>
                  workersStarted "WorkersStarted"
                    { alloc with activeExecutor := some "mp", execution := some applied }
                    (record.conditions.set "ExecutorFallback" true)
              | none => workersFailed record { alloc with activeExecutor := some "mp" }
          else workersFailed record alloc
  else workersStarted "WorkersPlanned" alloc record.conditions

/-- A part of the leader's start: what it has applied and then what was applied before,
with the value, `none` for an exception. -/
def trying {α : Type} (applied : List CellWorkload) (part : CellProgram α) :
    CellProgram (List CellWorkload × Option α) :=
  part.attempt.andThen fun value => .done (applied, value)

/-- The last part of the leader's start: the workload with the API.  The workloads
that have been applied are there also after an exception. -/
def startApi
    (leader : SitedPlacement) (name role : String)
    (before : List CellWorkload) : CellProgram (List CellWorkload × Option String) :=
  (applyManifestToNode spec leader.nodeId name role).attempt.andThen fun
    | none => .done (before, none)
    | some (workload, endpoints) =>
        trying (before ++ [workload]) (resolveApiEndpoint alloc leader.nodeId (endpoints.headD ""))

def startLeader
    (leader : SitedPlacement) : CellProgram (List CellWorkload × Option String) :=
  if usesRay spec alloc then
    let launcher := startApi spec alloc leader (spec.cellName ++ "-ray-launcher") "ray-launcher"
    if usesLauncherLocalRay spec placements alloc true then launcher []
    else
      (applyManifestToNode spec leader.nodeId (spec.cellName ++ "-ray-head")
        "ray-head").attempt.andThen fun
        | none => .done ([], none)
        | some (head, _) => launcher [head]
  else
    startApi spec alloc leader (spec.cellName ++ "-mp-stage" ++ toString leader.stage)
      "mp-leader" []

/-- The fallback of `STARTING_LEADER` and of `JOINING`. -/
def fallBack : CellProgram CellUpdate :=
  (call (.logEvent "ExecutorFallback")).andThen fun _ =>
  (removeExecutionWorkloads alloc).andThen fun _ =>
    .done (moveTo .startingWorkers
      (some { alloc with activeExecutor := some "mp", execution := some [] })
      (record.conditions.set "ExecutorFallback" true) none)

/-- `STARTING_LEADER` with execution. -/
def applyLeader
    (record : CellRecord)
    (leader : SitedPlacement) : CellProgram CellUpdate :=
  let alloc := { record.allocations with leaderNodeId := leader.nodeId }
  (startLeader spec alloc (allocStagePlacements alloc) leader).andThen fun
    | (applied, some apiEndpoint) =>
        logged "LeaderStarted" (moveTo .joining (some { alloc with
            execution := some (alloc.execution.getD [] ++ applied)
            apiEndpoint := apiEndpoint })
          (record.conditions.set "LeaderStarted" true) none)
    | (applied, none) =>
        -- The list is that of the allocations themselves, where they have one.
        let alloc := { alloc with execution := alloc.execution.map (· ++ applied) }
        if usesRay spec alloc && supportsMpFallback spec then fallBack record alloc
        else
          logged "LeaderFailed" (moveTo .failed (some alloc)
            (record.conditions.set "LeaderStarted" false) (some "LEADER_START_FAILED"))

def runStartingLeader (spec : CellSpec) (record : CellRecord) : CellProgram CellUpdate :=
  (Program.ofOption (leaderOf spec (allocStagePlacements record.allocations))).andThen
    fun leader =>
      if executionEnabled then applyLeader spec record leader
      else
        logged "LeaderPlanned" (moveTo .joining (some record.allocations)
          (record.conditions.set "LeaderStarted" true) none)

/-- What the containers on its node show of a workload. -/
inductive WorkloadCheck
  | running
  | stopped
  | missing
  deriving DecidableEq

def checkWorkload (workload : CellWorkload) : CellProgram (List WorkloadCheck) :=
  if workload.nodeId = "" ∨ workload.appName = "" then .done []
  else
    (Program.ask (.containers workload.nodeId)).andThen fun (infos : Option (List ContainerInfo)) =>
      let own := (infos.getD []).filter fun info => info.app = workload.appName
      .done [if own.isEmpty then .missing
        else if own.any ContainerInfo.running then .running else .stopped]

/-- `JOINING` with a workload that is stopped or missing. -/
def joinFailed (record : CellRecord) : CellProgram CellUpdate :=
  let conditions := record.conditions.set "ApiReady" false
  if record.restarts < spec.maxRestarts then
    logged "JoinPending"
      (moveTo .restarting (some record.allocations) conditions (some "JOIN_FAILED"))
  else
    logged "JoinFailed" (moveTo .failed (some record.allocations) conditions (some "JOIN_FAILED"))

/-- `JOINING` with all workloads running. -/
def awaitApi : CellProgram CellUpdate :=
  (probeLeaderApi record.allocations).andThen fun apiReady =>
    if apiReady then
      logged "CellReady" (moveTo .ready (some record.allocations)
        (record.conditions.set "ApiReady" true) none)
    else
      logged "JoinPending" (moveTo .joining (some record.allocations)
        (record.conditions.set "ApiReady" false) (some "JOIN_API_NOT_READY"))

def runJoining (spec : CellSpec) (record : CellRecord) : CellProgram CellUpdate :=
  let alloc := record.allocations
  if executionEnabled then
    (Program.collect (alloc.execution.getD []) checkWorkload).andThen fun checks =>
      if checks.contains .stopped then
        if usesRay spec alloc && supportsMpFallback spec then fallBack record alloc
        else joinFailed spec record
      else if checks.contains .missing then joinFailed spec record
      else awaitApi record
  else
    logged "CellReady" (moveTo .ready none (record.conditions.set "ApiReady" true) none)

/-- `_leases.release`, if there is a lease. -/
def releaseLease : CellProgram Unit :=
  match leaseFromAllocations alloc with
  | none => .done ()
  | some lease => call (.release lease)

def runRestarting : CellProgram CellUpdate :=
  (removeExecutionWorkloads record.allocations).andThen fun _ =>
  (releaseLease record.allocations).andThen fun _ =>
  (teardownFabric record.allocations).andThen fun _ =>
    logged "Restarting"
      { phase := .admitting
        allocations := some noAllocations
        admitted := none
        conditions := record.conditions.set "Restarting" true
        restarts := some (record.restarts + 1)
        lastError := some none }

/-- `_run_once`, with no update in the last phases. -/
def runOnce (spec : CellSpec) (record : CellRecord) : CellProgram (Option CellUpdate) :=
  let moved (program : CellProgram CellUpdate) : CellProgram (Option CellUpdate) :=
    program.andThen fun update => .done (some update)
  match record.phase with
  | .pending => moved (runPending record)
  | .admitting => moved (runAdmitting executionEnabled spec record)
  | .reserving => moved (runReserving spec record)
  | .fabric => moved (runFabric spec record)
  | .startingWorkers => moved (runStartingWorkers executionEnabled spec record)
  | .startingLeader => moved (runStartingLeader executionEnabled spec record)
  | .joining => moved (runJoining executionEnabled spec record)
  | .restarting => moved (runRestarting record)
  | .ready | .failed => .done none

end Inference
end K1s
