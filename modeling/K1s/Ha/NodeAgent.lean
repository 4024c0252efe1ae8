import K1s.Lib.LockStep
import K1s.Work.Ledger

/-!
# The mutations of a node agent

The controllers ask the agent of a node to create and to remove workloads and fabric
sessions.  Every request carries an envelope, whose operation id is built from the
arguments of the request, and the agent brackets its effect with the calls `begin` and
`commit` of its fence.  A request whose operation is committed is a duplicate: some
handlers carry out its effect again, the others skip it.

The main result is that the agent does what the requests say that are not stale, as long
as every request that is skipped would change nothing.  The runtime of the node is any
machine on the workloads.
-/

namespace K1s
namespace Ha

open Py Machine Work

/-! ## Requests -/

structure ControllerMutationIdentity where
  controllerId : String
  controllerEpoch : Int

/-- The arguments of `ensure_app`. -/
structure EnsureAppCall where
  manifest : Json
  appKey : String
  revision : Int
  keepOld : Bool
  limitCreate : Option Int
  podNames : Option (List String)
  nodeId : Option String

/-- `FabricSessionInfo`.  The times are the texts of `isoformat`. -/
structure FabricSessionInfo where
  sessionId : String
  ifname : String
  memberIps : List (String × String)
  expiresAt : String
  policyMode : String
  allowedRules : List Json
  mode : String

/-- The mutations that `RemoteRuntime` and `HttpFabricAgentClient` ask for. -/
inductive AgentCall
  | ensureApp (call : EnsureAppCall)
  | removeApp (appName : String)
  | removeOld (appName : String) (keepRevision : Int)
  | removeReplicas (appName : String) (replicaIds : List String)
  | ensureSession (nodeId : String) (session : FabricSessionInfo)
  | teardownSession (nodeId sessionId : String)

def ensureOperation (appName : String) (revision : Int) (nodeId : String) (epoch : Int) :
    String :=
  "ensure:" ++ appName ++ ":" ++ toString revision ++ ":" ++ toString epoch ++ ":" ++ nodeId

def gcOperation (appName : String) (keepRevision : Int) (nodeId : String) : String :=
  "gc:" ++ appName ++ ":" ++ toString keepRevision ++ ":" ++ nodeId

def deleteOperation (appName nodeId : String) (epoch : Int) : String :=
  "delete:" ++ appName ++ ":" ++ toString epoch ++ ":" ++ nodeId

def fabricEnsureOperation (sessionId nodeId : String) : String :=
  "fabric.ensure:" ++ sessionId ++ ":" ++ nodeId

def fabricTeardownOperation (sessionId nodeId : String) : String :=
  "fabric.teardown:" ++ sessionId ++ ":" ++ nodeId

/-- The operation id of `RemoteRuntime.remove_replicas`. -/
def removeReplicasOperation (appName nodeId : String) (replicaIds : List String) : String :=
  "gc.replicas:" ++ appName ++ ":" ++ nodeId ++ ":" ++
    String.intercalate "," ((replicaIds.filter (· ≠ "")).mergeSort fun first second =>
      decide (first ≤ second))

/-- A request: the call, the identity of the controller, the node id of its
`RemoteRuntime`, and the times at which the agent handles it. -/
structure AgentRequest where
  call : AgentCall
  identity : ControllerMutationIdentity
  runtimeNodeId : String
  fenceTime : String
  updatedAt : String

namespace AgentRequest

variable (request : AgentRequest)

def operationId : String :=
  match request.call with
  | .ensureApp call =>
      let nodeId := call.nodeId.getD ""
      ensureOperation call.appKey call.revision
        (if nodeId = "" then request.runtimeNodeId else nodeId)
        request.identity.controllerEpoch
  | .removeApp appName =>
      deleteOperation appName request.runtimeNodeId request.identity.controllerEpoch
  | .removeOld appName keepRevision =>
      gcOperation appName keepRevision request.runtimeNodeId
  | .removeReplicas appName replicaIds =>
      removeReplicasOperation appName request.runtimeNodeId replicaIds
  | .ensureSession nodeId session => fabricEnsureOperation session.sessionId nodeId
  | .teardownSession nodeId sessionId => fabricTeardownOperation sessionId nodeId

/-- The envelope that the agent reads from the payload of the request. -/
def envelope : Option MutationEnvelope :=
  parseEnvelope (.dict [("controller_id", .str request.identity.controllerId),
      ("controller_epoch", .int request.identity.controllerEpoch),
      ("operation_id", .str request.operationId)])

end AgentRequest

/-! ## The agent -/

/-- A session that the agent keeps. -/
structure FabricSession where
  sessionId : String
  nodeId : String
  mode : String
  policyMode : String
  ifname : String
  memberIps : List (String × String)
  allowedRules : List Json
  expiresAt : String
  updatedAt : String
  deriving DecidableEq

/-- The workloads of the node and its fabric sessions. -/
structure AgentState (ω : Type) where
  workloads : ω
  fabricSessions : Dictionary String FabricSession

/-- The runtime of the node.  Every call gives the body of its response, or the text of
its exception, and the workloads after it. -/
structure NodeRuntime (ω : Type) where
  /-- `inject_pvc_mounts` and `ensure_app`. -/
  ensureApp : ω → EnsureAppCall → Except String Dict × ω
  removeApp : ω → String → Except String Dict × ω
  removeOldRevisions : ω → String → Int → Except String Dict × ω
  removeReplicas : ω → String → List String → Except String Dict × ω

structure AgentSettings where
  nodeId : String
  /-- `AE_NODE_ID`, or `unknown-node`. -/
  fallbackNodeId : String
  haMode : Bool
  wgEnable : Bool

/-- The agent: its fence and its state. -/
structure NodeAgent (ω : Type) where
  fence : FenceStore
  state : AgentState ω

/-- The status and the body of a response. -/
abbrev AgentResponse := Nat × Dict

def AgentSettings.fenceScope (settings : AgentSettings) (kind : String) : String :=
  let nodeId := strip settings.nodeId
  kind ++ ":" ++ (if nodeId = "" then settings.fallbackNodeId else nodeId)

variable {ω : Type}

/-- The answer to a duplicate: the effect again, or a fixed body without the effect. -/
inductive OnDuplicate
  | again
  | skip (body : Dict)

/-- A handler: the kind of its scope, the error for arguments that do not pass, its
answer to a duplicate, and its effect with the body of its response or an error. -/
structure Mutation (ω : Type) where
  kind : String
  argumentError : Option AgentResponse
  onDuplicate : OnDuplicate
  effect : AgentState ω → Except AgentResponse Dict × AgentState ω

/-- The body of the answer to a duplicate whose effect is carried out again. -/
def duplicateBody (body : Dict) : Dict :=
  Dict.set (Dict.set body "ok" (.bool true)) "duplicate" (.bool true)

/-- The body of the answer to a duplicate removal that is skipped. -/
def skippedBody : Dict :=
  [("removed", .int 0), ("ok", .bool true), ("duplicate", .bool true)]

/-! ## The handlers -/

def runtimeMutation
    (onDuplicate : OnDuplicate)
    (call : ω → Except String Dict × ω) : Mutation ω where
  kind := "runtime"
  argumentError := none
  onDuplicate := onDuplicate
  effect state :=
    let (result, workloads) := call state.workloads
    (result.mapError fun text => (500, [("error", .str text)]),
      { state with workloads := workloads })

/-- `/v1/ensure_app`. -/
def ensureApp (runtime : NodeRuntime ω) (call : EnsureAppCall) : Mutation ω :=
  runtimeMutation .again fun workloads => runtime.ensureApp workloads call

/-- `/v1/remove_app`. -/
def removeApp (runtime : NodeRuntime ω) (appName : String) : Mutation ω :=
  runtimeMutation .again fun workloads => runtime.removeApp workloads appName

/-- `/v1/remove_old`. -/
def removeOld (runtime : NodeRuntime ω) (appName : String) (keepRevision : Int) :
    Mutation ω :=
  runtimeMutation (.skip skippedBody) fun workloads =>
    runtime.removeOldRevisions workloads appName keepRevision

/-- `/v1/remove_replicas`. -/
def removeReplicas (runtime : NodeRuntime ω) (appName : String) (replicaIds : List String) :
    Mutation ω :=
  runtimeMutation (.skip skippedBody) fun workloads =>
    runtime.removeReplicas workloads appName (replicaIds.filter (· ≠ ""))

def FabricSessionInfo.modeText (session : FabricSessionInfo) : String :=
  lower (strip (if session.mode = "" then "lan_direct" else session.mode))

/-- The checks of `/v1/fabric/ensure_session`. -/
def sessionError (settings : AgentSettings) (session : FabricSessionInfo) :
    Option AgentResponse :=
  if strip session.sessionId = "" then some (400, [("error", .str "session_id required")])
  else if session.modeText ∉ ["lan_direct", "wg_ephemeral"] then
    some (400, [("error", .str ("unsupported fabric mode " ++ session.modeText))])
  else if session.modeText = "wg_ephemeral" ∧ settings.wgEnable = false then
    some (400, [("error", .str "wg_ephemeral mode disabled (set AE_FABRIC_WG_ENABLE=1)")])
  else none

/-- `/v1/fabric/ensure_session`. -/
def ensureSession
    (settings : AgentSettings) (nodeId : String) (session : FabricSessionInfo)
    (updatedAt : String) : Mutation ω where
  kind := "fabric"
  argumentError := sessionError settings session
  onDuplicate := .again
  effect state :=
    let sessionId := strip session.sessionId
    (.ok [("ok", .bool true), ("session_id", .str sessionId), ("mode", .str session.modeText)],
      { state with
        fabricSessions := state.fabricSessions.set sessionId
          { sessionId := sessionId
            nodeId := if nodeId = "" then settings.nodeId else nodeId
            mode := session.modeText
            policyMode := session.policyMode
            ifname := session.ifname
            memberIps := session.memberIps
            allowedRules := session.allowedRules
            expiresAt := session.expiresAt
            updatedAt := updatedAt } })

/-- `/v1/fabric/teardown_session`. -/
def teardownSession (sessionId : String) : Mutation ω where
  kind := "fabric"
  argumentError :=
    if strip sessionId = "" then some (400, [("error", .str "session_id required")]) else none
  onDuplicate :=
    .skip [("ok", .bool true), ("removed", .bool false), ("duplicate", .bool true)]
  effect state :=
    (.ok [("ok", .bool true),
        ("removed", .bool (state.fabricSessions.find? (strip sessionId)).isSome)],
      { state with fabricSessions := state.fabricSessions.drop (strip sessionId) })

def AgentRequest.mutation
    (settings : AgentSettings) (runtime : NodeRuntime ω)
    (request : AgentRequest) : Mutation ω :=
  match request.call with
  | .ensureApp call => ensureApp runtime call
  | .removeApp appName => removeApp runtime appName
  | .removeOld appName keepRevision => removeOld runtime appName keepRevision
  | .removeReplicas appName replicaIds => removeReplicas runtime appName replicaIds
  | .ensureSession nodeId session => ensureSession settings nodeId session request.updatedAt
  | .teardownSession _ sessionId => teardownSession sessionId

/-! ## The frame of the handlers -/

/-- The status of `_begin_mutation`. -/
inductive BeginStatus
  | reject (response : AgentResponse)
  | accept
  | duplicate

def beginMutation
    (settings : AgentSettings) (fence : FenceStore) (scope : String)
    (envelope : Option MutationEnvelope)
    (time : String) : BeginStatus × FenceStore :=
  if settings.haMode = false then (.accept, fence)
  else
    match envelope with
    | none => (.reject (409, [("error", .str "missing_fencing_envelope")]), fence)
    | some envelope =>
        match fence.begin scope envelope time with
        | none => (.reject (500, []), fence)
        | some (decision, after) =>
            match decision.status with
            | .accept => (.accept, after)
            | .duplicate => (.duplicate, after)
            | .stale =>
                (.reject (409, ("error", .str "stale_epoch") ::
                  decision.current.toList.flatMap fun current =>
                    [("controller_id", .str current.controllerId),
                      ("controller_epoch", .int current.controllerEpoch)]), after)

/-- `_commit_mutation`.  Without the high-availability mode there is no envelope. -/
def commitMutation
    (settings : AgentSettings) (fence : FenceStore) (scope : String)
    (envelope : Option MutationEnvelope)
    (time : String) : FenceStore :=
  match envelope with
  | some envelope => if settings.haMode then fence.commit scope envelope time else fence
  | none => fence

namespace AgentRequest

variable (settings : AgentSettings) (runtime : NodeRuntime ω) (request : AgentRequest)

def scope : String := settings.fenceScope (request.mutation settings runtime).kind

def handle (agent : NodeAgent ω) : AgentResponse × NodeAgent ω :=
  let mutation := request.mutation settings runtime
  let scope := request.scope settings runtime
  let (status, fence) :=
    beginMutation settings agent.fence scope request.envelope request.fenceTime
  match status, mutation.argumentError with
  | .reject response, _ => (response, ⟨fence, agent.state⟩)
  | _, some error => (error, ⟨fence, agent.state⟩)
  | .duplicate, none =>
      match mutation.onDuplicate with
      | .skip body => ((200, body), ⟨fence, agent.state⟩)
      | .again =>
          let (result, state) := mutation.effect agent.state
          ((match result with
            | .ok body => (200, duplicateBody body)
            | .error error => error), ⟨fence, state⟩)
  | .accept, none =>
      match mutation.effect agent.state with
      | (.ok body, state) =>
          ((200, body),
            ⟨commitMutation settings fence scope request.envelope request.fenceTime, state⟩)
      | (.error error, state) => (error, ⟨fence, state⟩)

/-! ## Refinement -/

/-- The effect of the request, if its arguments pass. -/
def perform (state : AgentState ω) : AgentState ω :=
  let mutation := request.mutation settings runtime
  if mutation.argumentError.isSome then state else (mutation.effect state).2

def rejectedAsStale (agent : NodeAgent ω) : Bool :=
  settings.haMode && request.envelope.any fun envelope =>
    staleAgainst (agent.fence.current (request.scope settings runtime)) envelope

/-- The state after executing the request, unless the agent rejects it as stale. -/
def execute (agent : NodeAgent ω) (state : AgentState ω) : AgentState ω :=
  if request.rejectedAsStale settings runtime agent then state
  else request.perform settings runtime state

/-- The request is a removal of old revisions, of replicas or of a session. -/
def SkipsDuplicates : Prop :=
  match request.call with
  | .removeOld _ _ | .removeReplicas _ _ | .teardownSession _ _ => True
  | _ => False

/-- The request is not carried out, and not because it is stale: it has no envelope, or
it is such a removal and its operation is committed. -/
def Skipped (agent : NodeAgent ω) : Prop :=
  settings.haMode = true ∧ (request.envelope = none ∨
      ∃ envelope, request.envelope = some envelope ∧
        staleAgainst (agent.fence.current (request.scope settings runtime)) envelope = false ∧
        (agent.fence.fenceOperations (request.scope settings runtime)
          envelope.operationId).isSome = true ∧
        request.SkipsDuplicates)

/-- A request that is skipped would change nothing. -/
def LosesNothing (agent : NodeAgent ω) : Prop :=
  request.Skipped settings runtime agent →
    request.perform settings runtime agent.state = agent.state

end AgentRequest

/-- The answer of `begin` to one call at a time. -/
theorem FenceStore.begin_status
    (store : FenceStore) (scope : String) (envelope : MutationEnvelope) (time : String) :
    ∃ decision after, store.begin scope envelope time = some (decision, after) ∧ decision.status =
        if staleAgainst (store.current scope) envelope then .stale
        else if (store.fenceOperations scope envelope.operationId).isSome then .duplicate
        else .accept := by
  unfold FenceStore.begin
  by_cases stale : staleAgainst (store.current scope) envelope = true
  · exact ⟨_, _, if_pos stale, (if_pos stale).symm⟩
  · by_cases known : (store.fenceOperations scope envelope.operationId).isSome = true
    · refine ⟨_, _, (if_neg stale).trans (if_pos known), ?_⟩
      rw [if_neg stale, if_pos known]
    · have written : ∃ after, store.record scope envelope (store.current scope) time =
          some after := by
        unfold FenceStore.record FenceStore.current
        cases store.fenceScopes scope with
        | none => exact ⟨_, rfl⟩
        | some row =>
            dsimp only
            split
            · exact ⟨_, rfl⟩
            · exact ⟨_, rfl⟩
      obtain ⟨after, isWritten⟩ := written
      refine ⟨⟨.accept, after.current scope, epochAdvanced (store.current scope) envelope⟩,
        after, ?_, ?_⟩
      · dsimp only
        rw [if_neg stale, if_neg known, isWritten, Option.map_some]
      · rw [if_neg stale, if_neg known]

namespace AgentRequest

variable (settings : AgentSettings) (runtime : NodeRuntime ω) (request : AgentRequest)

theorem onDuplicate_iff :
    (∃ body, (request.mutation settings runtime).onDuplicate = .skip body) ↔
      request.SkipsDuplicates := by
  obtain ⟨call, identity, nodeId, fenceTime, updatedAt⟩ := request
  cases call <;> simp [mutation, SkipsDuplicates, ensureApp, removeApp, removeOld,
    removeReplicas, ensureSession, teardownSession, runtimeMutation]

/-- The status of a request: it is accepted without the high-availability mode, and
else it depends on the fence. -/
theorem beginMutation_cases (agent : NodeAgent ω) :
    ((∃ response, (beginMutation settings agent.fence (request.scope settings runtime)
        request.envelope request.fenceTime).1 = .reject response) ∧
      (request.rejectedAsStale settings runtime agent = true ∨
        settings.haMode = true ∧ request.envelope = none)) ∨
    (request.rejectedAsStale settings runtime agent = false ∧
      (beginMutation settings agent.fence (request.scope settings runtime)
        request.envelope request.fenceTime).1 = .duplicate ∧
      settings.haMode = true ∧ ∃ envelope, request.envelope = some envelope ∧
        staleAgainst (agent.fence.current (request.scope settings runtime)) envelope = false ∧
        (agent.fence.fenceOperations (request.scope settings runtime)
          envelope.operationId).isSome = true) ∨
    (request.rejectedAsStale settings runtime agent = false ∧
      (beginMutation settings agent.fence (request.scope settings runtime)
        request.envelope request.fenceTime).1 = .accept ∧
      ¬ request.Skipped settings runtime agent) := by
  unfold beginMutation rejectedAsStale Skipped
  cases settings.haMode with
  | false => simp
  | true =>
      cases isEnvelope : request.envelope with
      | none => simp
      | some envelope =>
          obtain ⟨decision, after, begun, status⟩ := agent.fence.begin_status
            (request.scope settings runtime) envelope request.fenceTime
          cases stale : staleAgainst (agent.fence.current (request.scope settings runtime))
              envelope with
          | true =>
              rw [stale, if_pos rfl] at status
              simp [begun, status, stale]
          | false =>
              rw [stale, if_neg Bool.false_ne_true] at status
              cases known : (agent.fence.fenceOperations (request.scope settings runtime)
                  envelope.operationId).isSome with
              | true =>
                  rw [known, if_pos rfl] at status
                  simp [begun, status, stale, known]
              | false =>
                  rw [known, if_neg Bool.false_ne_true] at status
                  simp [begun, status, stale, known]

theorem not_skipped_of_stale
    {agent : NodeAgent ω} (stale : request.rejectedAsStale settings runtime agent = true) :
    ¬ request.Skipped settings runtime agent := by
  rw [rejectedAsStale, Bool.and_eq_true, Option.any_eq_true] at stale
  obtain ⟨-, envelope, isEnvelope, isStale⟩ := stale
  rintro ⟨-, missing | ⟨other, isOther, notStale, -⟩⟩
  · rw [isEnvelope] at missing
    cases missing
  · obtain rfl := Option.some.inj (isEnvelope.symm.trans isOther)
    rw [isStale] at notStale
    cases notStale

/-- The state after a request that is rejected, and after one that is a duplicate or is
accepted. -/
theorem state_of_reject
    {agent : NodeAgent ω} {response : AgentResponse}
    (rejected : (beginMutation settings agent.fence (request.scope settings runtime)
      request.envelope request.fenceTime).1 = .reject response) :
    (request.handle settings runtime agent).2.state = agent.state := by
  simp only [handle, rejected]

theorem state_of_duplicate
    {agent : NodeAgent ω}
    (duplicate : (beginMutation settings agent.fence (request.scope settings runtime)
      request.envelope request.fenceTime).1 = .duplicate) :
    (request.handle settings runtime agent).2.state =
      match (request.mutation settings runtime).onDuplicate with
      | .skip _ => agent.state
      | .again => request.perform settings runtime agent.state := by
  simp only [handle, perform, duplicate]
  cases (request.mutation settings runtime).argumentError with
  | some error => cases (request.mutation settings runtime).onDuplicate <;> rfl
  | none => cases (request.mutation settings runtime).onDuplicate <;> rfl

theorem state_of_accept
    {agent : NodeAgent ω}
    (accepted : (beginMutation settings agent.fence (request.scope settings runtime)
      request.envelope request.fenceTime).1 = .accept) :
    (request.handle settings runtime agent).2.state =
      request.perform settings runtime agent.state := by
  simp only [handle, perform, accepted]
  cases (request.mutation settings runtime).argumentError with
  | some error => rfl
  | none =>
      dsimp only
      split
      · next body state result => simp [result]
      · next error state result => simp [result]

/-- What the handling of a request does to the state: nothing if the request is skipped,
and else what the request says. -/
theorem handle_state (agent : NodeAgent ω) :
    (request.Skipped settings runtime agent ∧
      request.rejectedAsStale settings runtime agent = false ∧
      (request.handle settings runtime agent).2.state = agent.state) ∨
    (¬ request.Skipped settings runtime agent ∧ (request.handle settings runtime agent).2.state =
        request.execute settings runtime agent agent.state) := by
  unfold execute
  rcases request.beginMutation_cases settings runtime agent with
    ⟨⟨response, rejected⟩, stale | ⟨haMode, missing⟩⟩ |
    ⟨notStale, duplicate, haMode, envelope, isEnvelope, fresh, known⟩ |
    ⟨notStale, accepted, notSkipped⟩
  · rw [if_pos stale]
    exact .inr ⟨request.not_skipped_of_stale settings runtime stale,
      request.state_of_reject settings runtime rejected⟩
  · refine .inl ⟨⟨haMode, .inl missing⟩, ?_, request.state_of_reject settings runtime rejected⟩
    rw [rejectedAsStale, missing, Option.any_none, Bool.and_false]
  · rw [notStale, if_neg Bool.false_ne_true, request.state_of_duplicate settings runtime duplicate]
    cases answer : (request.mutation settings runtime).onDuplicate with
    | skip body =>
        have skips := (request.onDuplicate_iff settings runtime).mp ⟨body, answer⟩
        exact .inl ⟨⟨haMode, .inr ⟨envelope, isEnvelope, fresh, known, skips⟩⟩, rfl, rfl⟩
    | again =>
        refine .inr ⟨?_, rfl⟩
        rintro ⟨-, missing | ⟨-, -, -, -, skips⟩⟩
        · rw [isEnvelope] at missing
          cases missing
        · obtain ⟨body, isSkip⟩ := (request.onDuplicate_iff settings runtime).mpr skips
          rw [answer] at isSkip
          cases isSkip
  · rw [notStale, if_neg Bool.false_ne_true]
    exact .inr ⟨notSkipped, request.state_of_accept settings runtime accepted⟩

end AgentRequest

def agentStep
    (settings : AgentSettings) (runtime : NodeRuntime ω) (agent : NodeAgent ω)
    (request : AgentRequest) : NodeAgent ω :=
  (request.handle settings runtime agent).2

/-- The state after executing a request that the agent does not reject as stale. -/
def executeStep
    (settings : AgentSettings) (runtime : NodeRuntime ω) (agent : NodeAgent ω)
    (state : AgentState ω)
    (request : AgentRequest) : AgentState ω :=
  request.execute settings runtime agent state

/-- One request agrees with its execution exactly when it loses nothing. -/
theorem agrees_iff
    (settings : AgentSettings) (runtime : NodeRuntime ω) (agent : NodeAgent ω)
    (request : AgentRequest) :
    LockStep.Agrees (agentStep settings runtime) NodeAgent.state (executeStep settings runtime)
      agent request ↔ request.LosesNothing settings runtime agent := by
  unfold LockStep.Agrees AgentRequest.LosesNothing agentStep executeStep
  rcases request.handle_state settings runtime agent with
    ⟨skipped, notStale, unchanged⟩ | ⟨notSkipped, executed⟩
  · have executed : request.execute settings runtime agent agent.state =
        request.perform settings runtime agent.state := by
      unfold AgentRequest.execute
      rw [notStale, if_neg Bool.false_ne_true]
    rw [unchanged, executed, imp_iff_right skipped, eq_comm]
  · exact iff_of_true executed fun skipped => absurd skipped notSkipped

/-- After every front of the requests, the workloads and the sessions are those of
executing, in order, every request of the front that was not rejected as stale. -/
def ExecutesRequests
    (settings : AgentSettings) (runtime : NodeRuntime ω) (agent : NodeAgent ω)
    (requests : List AgentRequest) : Prop :=
  LockStep.Refines (agentStep settings runtime) NodeAgent.state (executeStep settings runtime)
    agent requests

/-- The agent executes the requests exactly when every request that it skips would
change nothing. -/
theorem executesRequests_iff
    (settings : AgentSettings) (runtime : NodeRuntime ω) (agent : NodeAgent ω)
    (requests : List AgentRequest) :
    ExecutesRequests settings runtime agent requests ↔
      Along (fun agent request => some (agentStep settings runtime agent request))
        (fun agent request => request.LosesNothing settings runtime agent) agent requests := by
  have same : LockStep.Agrees (agentStep settings runtime) NodeAgent.state
      (executeStep settings runtime) =
      fun agent request => request.LosesNothing settings runtime agent := by
    funext agent request
    exact propext (agrees_iff settings runtime agent request)
  rw [ExecutesRequests, LockStep.refines_iff, same]

/-- A runtime whose workloads are revisions of apps. -/
def revisionsRuntime : NodeRuntime (List (String × Int)) where
  ensureApp workloads call :=
    (.ok [], (call.appKey, call.revision) :: workloads.filter fun workload =>
      call.keepOld && decide (workload ≠ (call.appKey, call.revision)))
  removeApp workloads appName :=
    (.ok [], workloads.filter fun workload => decide (workload.1 ≠ appName))
  removeOldRevisions workloads appName keepRevision :=
    (.ok [], workloads.filter fun workload =>
      decide (workload.1 ≠ appName ∨ workload.2 = keepRevision))
  removeReplicas workloads _ _ := (.ok [], workloads)

/-- A call of the controller `c` in its epoch 1. -/
def requestOfOne (call : AgentCall) : AgentRequest := ⟨call, ⟨"c", 1⟩, "n", "t", "t"⟩

/-- The second removal of the old revisions is taken for the first one, and the revision
that was created in between stays. -/
theorem not_executesRequests_removeTwice :
    ¬ ExecutesRequests ⟨"n", "unknown-node", true, false⟩ revisionsRuntime
      ⟨FenceStore.empty, [], .empty⟩
      [requestOfOne (.removeOld "app" 2),
        requestOfOne (.ensureApp ⟨.null, "app", 1, false, none, none, none⟩),
        requestOfOne (.removeOld "app" 2)] := by
  intro executes
  have states := executes _ List.prefix_rfl
  exact absurd (congrArg AgentState.workloads states) (by decide +kernel)

end Ha
end K1s
