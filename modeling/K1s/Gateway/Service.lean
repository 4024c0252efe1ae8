import K1s.Lib.Program
import K1s.Gateway.Spool

/-!
# The gateway of a site

`SiteGateway` in `gateway/service.py` takes work messages from a JetStream consumer,
hands them to the nodes of its site, and passes the results of the nodes on to the
controller.  Its loop polls for messages, keeps the messages that are in work alive
and replays results; results of the nodes come in on another thread.

Every step is one operation: a call of the spool, of the fence or of the message bus,
or a look at or a change of the fields in memory.  A call may raise before or after
it has had its effect.
-/

namespace K1s
namespace Gateway

open Ha (MutationEnvelope FenceStore FenceDecision)
open Py (Dict)

/-! ## Messages and memory -/

structure WorkMessage where
  workId : Option String
  attempt : Option Int
  /-- What `parse_envelope` finds in it. -/
  envelope : Option MutationEnvelope
  preferredNode : Option String
  nodeId : Option String
  desiredGeneration : Option Int
  rest : Dict
  deriving DecidableEq

/-- `JetStreamMessage`: one delivery of a message.  The payload is `none` if it is no
object. -/
structure JsMessage where
  payload : Option WorkMessage
  stream : Option String
  consumer : Option String
  seq : Option Int
  deriving DecidableEq

def workKey (workId : Option String) (attempt : Option Int) : Option WorkKey :=
  match workId, attempt with
  | some workId, some attempt => some (workId, attempt)
  | _, _ => none

structure Memory where
  inflight : Dictionary WorkKey JsMessage
  inflightProgress : Dictionary WorkKey Rat
  inflightHeartbeat : Dictionary WorkKey Rat
  inflightEnvelopes : Dictionary WorkKey MutationEnvelope
  completed : Dictionary WorkKey Rat
  runningSent : Dictionary WorkKey Rat

/-- The fields of a gateway that has just been started. -/
def Memory.initial : Memory :=
  ⟨Dictionary.empty, Dictionary.empty, Dictionary.empty, Dictionary.empty, Dictionary.empty,
    Dictionary.empty⟩

/-- The message of a key is no longer in work. -/
def Memory.forget (memory : Memory) (key : WorkKey) : Memory :=
  { memory with
    inflight := memory.inflight.drop key
    inflightProgress := memory.inflightProgress.drop key
    inflightHeartbeat := memory.inflightHeartbeat.drop key
    inflightEnvelopes := memory.inflightEnvelopes.drop key
    runningSent := memory.runningSent.drop key }

/-- The settings that the modelled methods read. -/
structure GatewayConfig where
  siteId : String
  nodeId : String
  jsStream : String
  spoolEnabled : Bool
  jsEnabled : Bool
  heartbeatTimeoutS : Rat
  progressIntervalS : Rat
  ackWaitS : Rat
  nakDelayS : Rat
  resultRetryMinS : Rat
  resultRetryMaxS : Rat

/-- `self._fence_scope`. -/
def GatewayConfig.fenceScope (config : GatewayConfig) : String := "site:" ++ config.siteId

/-! ## Operations -/

/-- The operations. -/
inductive Op
  | recordResult (key : WorkKey) (status : String) (payload : WorkResult)
  | updateInflightState (key : WorkKey) (state : InflightState) (nodeId : Option String)
  | getResult (key : WorkKey)
  | getInflightRecord (key : WorkKey)
  | recordInflight (key : WorkKey) (record : InflightRecord)
  | listReplayReadyResults (limit : Nat)
  | markResultDelivered (key : WorkKey)
  | recordResultDeliveryAttempt (key : WorkKey) (retryDelayS : Rat)
  /-- `self._fence.begin` for a work message.  The call does not look at the message. -/
  | fenceBegin (message : JsMessage) (envelope : MutationEnvelope)
  | fenceCommit (envelope : MutationEnvelope)
  /-- `publish_json` to the controller. -/
  | publishResult (payload : WorkResult)
  /-- `publish_json` to a node of the site. -/
  | publishWork (nodeId : String) (payload : WorkMessage)
  | ackSync (message : JsMessage)
  | nak (message : JsMessage) (delayS : Rat)
  | inProgress (message : JsMessage)
  /-- A look at the fields in memory. -/
  | look
  /-- A change of the fields in memory. -/
  | assign (change : Memory → Memory)
  /-- `self._inflight.pop(work_key)`. -/
  | popInflight (key : WorkKey)
  /-- `time.monotonic()`. -/
  | monotonic

/-- What an operation returns, `none` for an exception. -/
abbrev Reply : Op → Type
  | .recordResult _ _ _ => Option Unit
  | .updateInflightState _ _ _ => Option Unit
  | .getResult _ => Option (Option ResultRecord)
  | .getInflightRecord _ => Option (Option InflightRecord)
  | .recordInflight _ _ => Option Unit
  | .listReplayReadyResults _ => Option (List (WorkKey × ResultRecord))
  | .markResultDelivered _ => Option Unit
  | .recordResultDeliveryAttempt _ _ => Option Unit
  | .fenceBegin _ _ => Option FenceDecision
  | .fenceCommit _ => Option Unit
  | .publishResult _ => Option Unit
  | .publishWork _ _ => Option Unit
  | .ackSync _ => Option Unit
  | .nak _ _ => Option Unit
  | .inProgress _ => Option Unit
  | .look => Memory
  | .assign _ => Unit
  | .popInflight _ => Option JsMessage
  | .monotonic => Rat

/-- What becomes of a call: it is answered, it raises without effect, or it raises
after its effect. -/
inductive Fate
  | answered
  | requestLost
  | answerLost
  deriving DecidableEq

/-- What comes from outside, by the number of the operation: the fates of the calls,
the text of the exception that is being handled, and the two clocks. -/
structure Outside where
  fate : Nat → Fate
  errorText : Nat → String
  clock : Nat → Int
  monotonic : Nat → Rat

/-- The state that the threads share.  The acknowledged messages, the messages that the
fence has called stale and the published results are remembered. -/
structure World where
  fence : FenceStore
  spool : Spool
  memory : Memory
  acked : List JsMessage
  stale : List JsMessage
  published : List WorkResult
  performed : Nat

/-- A gateway with a new database and a new spool. -/
def World.initial : World := ⟨FenceStore.empty, .empty, .initial, [], [], [], 0⟩

/-- The world after an operation. -/
def World.next (world : World) : World := { world with performed := world.performed + 1 }

variable (config : GatewayConfig) (outside : Outside)

/-- A call meets its fate. -/
def World.meet {α : Type} (world : World) (answer : α) (after : World) : Option α × World :=
  match outside.fate world.performed with
  | .answered => (some answer, after.next)
  | .requestLost => (none, world.next)
  | .answerLost => (none, after.next)

def execute (operation : Op) (world : World) : Reply operation × World :=
  let now := outside.clock world.performed
  match operation with
  | .recordResult key status payload =>
      world.meet outside () { world with spool := world.spool.recordResult key now status payload }
  | .updateInflightState key state nodeId =>
      world.meet outside ()
        { world with spool := world.spool.updateInflightState key now state nodeId }
  | .getResult key => world.meet outside (world.spool.results.find? key) world
  | .getInflightRecord key => world.meet outside (world.spool.inflight.find? key) world
  | .recordInflight key record =>
      world.meet outside () { world with
        spool := world.spool.recordInflight key
          { record with receivedAt := now, lastProgressAt := now } }
  | .listReplayReadyResults limit =>
      world.meet outside (world.spool.listReplayReadyResults now limit) world
  | .markResultDelivered key =>
      world.meet outside () { world with spool := world.spool.markResultDelivered key now }
  | .recordResultDeliveryAttempt key retryDelayS =>
      world.meet outside () { world with
        spool := world.spool.recordResultDeliveryAttempt key now
          (some (outside.errorText world.performed))
          (some (now + (retryDelayS * 1000000).floor)) }
  | .fenceBegin message envelope =>
      match world.fence.begin config.fenceScope envelope (Py.isoformat now) with
      | none => (none, world.next)
      | some (decision, after) =>
          world.meet outside decision { world with
            fence := after
            stale := if decision.status = .stale then message :: world.stale else world.stale }
  | .fenceCommit envelope =>
      world.meet outside () { world with
        fence := world.fence.commit config.fenceScope envelope (Py.isoformat now) }
  | .publishResult payload =>
      world.meet outside () { world with published := payload :: world.published }
  | .publishWork _ _ => world.meet outside () world
  | .ackSync message => world.meet outside () { world with acked := message :: world.acked }
  | .nak _ _ => world.meet outside () world
  | .inProgress _ => world.meet outside () world
  | .look => (world.memory, world.next)
  | .assign change => ((), { world with memory := change world.memory }.next)
  | .popInflight key =>
      (world.memory.inflight.find? key,
        { world with
          memory := { world.memory with inflight := world.memory.inflight.drop key } }.next)
  | .monotonic => (outside.monotonic world.performed, world.next)

/-! ## Programs -/

abbrev GatewayProgram (α : Type) := Program Op Reply α

/-- `try: … except Exception: pass` around a call that returns nothing. -/
def quietly (operation : Op) : GatewayProgram Unit :=
  .perform operation fun _ => .done ()

def resolveResultEnvelope (payload : WorkResult) : GatewayProgram (Option MutationEnvelope) :=
  match payload.envelope with
  | some envelope => .done (some envelope)
  | none =>
      .perform .look fun memory =>
        match (workKey payload.workId payload.attempt).bind memory.inflightEnvelopes.find? with
        | some cached => .done (some cached)
        | none =>
            let workId := payload.workId.getD ""
            let attempt := payload.attempt.getD 0
            if workId = "" ∨ attempt ≤ 0 ∨ config.spoolEnabled = false then .done none
            else
              .perform (.getInflightRecord (workId, attempt)) fun reply =>
                match reply with
                | some (some record) =>
                    .done (record.envelope.filter fun envelope =>
                      envelope.operationId ≠ "" ∧ envelope.controllerId ≠ "" ∧
                        0 < envelope.controllerEpoch)
                | _ => .done none

/-- The end of `_on_local_result`: the message that is in work is acknowledged. -/
def acknowledge (key : WorkKey) : GatewayProgram Unit :=
  .perform .look fun memory =>
    if (memory.inflight.find? key).isSome then
      .perform (.popInflight key) fun popped =>
        match popped with
        | none => .raise
        | some message =>
            .perform (.assign fun memory =>
              { memory with
                inflightProgress := memory.inflightProgress.drop key
                inflightHeartbeat := memory.inflightHeartbeat.drop key
                inflightEnvelopes := memory.inflightEnvelopes.drop key
                runningSent := memory.runningSent.drop key }) fun _ =>
              .perform .monotonic fun now =>
                .perform (.assign fun memory =>
                  { memory with completed := memory.completed.set key now }) fun _ =>
                  quietly (.ackSync message)
    else .done ()

/-- `_on_local_result` once the result is in the spool, or has no place there. -/
def passOn (payload : WorkResult) (key : Option WorkKey) : GatewayProgram Unit :=
  .perform (.publishResult payload) fun published =>
    (match published, key with
    | some _, some key =>
        if config.spoolEnabled then quietly (.markResultDelivered key) else .done ()
    | _, _ => .done ()).andThen fun _ =>
      match key with
      | none => .done ()
      | some key => acknowledge key

def onLocalResult (given : WorkResult) : GatewayProgram Unit :=
  let filled : WorkResult :=
    { given with
      siteId := some (given.siteId.getD config.siteId)
      nodeId := some (given.nodeId.getD config.nodeId) }
  (resolveResultEnvelope config filled).andThen fun envelope =>
    match envelope with
    | none => .done ()
    | some envelope =>
        let payload : WorkResult := { filled with envelope := some envelope }
        match workKey payload.workId payload.attempt with
        | none => passOn config payload none
        | some key =>
            if config.spoolEnabled then
              .perform (.recordResult key (payload.status.getD "") payload) fun recorded =>
                match recorded with
                | none => .done ()
                | some _ =>
                    .perform (.updateInflightState key .terminal none) fun updated =>
                      match updated with
                      | none => .done ()
                      | some _ => passOn config payload (some key)
            else passOn config payload (some key)

def onLocalProgress (key : WorkKey) : GatewayProgram Unit :=
  .perform .monotonic fun now =>
    .perform (.assign fun memory =>
      { memory with inflightHeartbeat := memory.inflightHeartbeat.set key now }) fun _ => .done ()

def nextResultRetryDelay (attemptNumber : Nat) : Rat :=
  if attemptNumber ≤ 1 then config.resultRetryMinS
  else min (config.resultRetryMinS * 2 ^ (attemptNumber - 1)) config.resultRetryMaxS

def replayRow (row : WorkKey × ResultRecord) : GatewayProgram Unit :=
  if row.2.envelope.isNone then .done ()
  else
    let failed : GatewayProgram Unit :=
      quietly (.recordResultDeliveryAttempt row.1
        (nextResultRetryDelay config (row.2.replayAttempts + 1)))
    .perform (.publishResult row.2.payload) fun published =>
      match published with
      | none => failed
      | some _ =>
          .perform (.markResultDelivered row.1) fun marked =>
            match marked with
            | none => failed
            | some _ => .done ()

def replaySpoolResults : GatewayProgram Unit :=
  if config.spoolEnabled then
    .perform (.listReplayReadyResults 100) fun listed =>
      match listed with
      | none => .raise
      | some rows => Program.forEach rows (replayRow config)
  else .done ()

/-- `_emit_running`.  The message has the time of its start as well. -/
def emitRunning (payload : WorkMessage) (nodeId : String) (envelope : MutationEnvelope) :
    GatewayProgram Unit :=
  match workKey payload.workId payload.attempt with
  | none => .done ()
  | some key =>
      .perform .look fun memory =>
        if (memory.runningSent.find? key).isSome then .done ()
        else
          (if config.spoolEnabled ∧ config.jsEnabled then
            quietly (.updateInflightState key .running (some nodeId))
          else .done ()).andThen fun _ =>
            .perform (.publishResult
              { workId := payload.workId
                attempt := payload.attempt
                status := some "running"
                siteId := some config.siteId
                nodeId := some nodeId
                envelope := some envelope
                rest := [("observed_generation",
                  (payload.desiredGeneration.map Py.Json.int).getD .null)] }) fun published =>
              match published with
              | none => .done ()
              | some _ =>
                  .perform .monotonic fun now =>
                    .perform (.assign fun memory =>
                      { memory with runningSent := memory.runningSent.set key now }) fun _ =>
                      .done ()

/-- `value or other` of two texts. -/
def textOr (value : Option String) (other : String) : String :=
  ((value.filter (· ≠ "")).getD other)

def dispatchWork (payload : WorkMessage) (envelope : MutationEnvelope) : GatewayProgram Bool :=
  let nodeId := textOr payload.preferredNode (textOr payload.nodeId config.nodeId)
  .perform (.publishWork nodeId payload) fun published =>
    match published with
    | none => .done false
    | some _ =>
        (if config.spoolEnabled ∧ config.jsEnabled = false then
          quietly (.recordInflight ((payload.workId.getD "None"), payload.attempt.getD 0)
            { jsStream := "WORK_PULL"
              jsConsumer := "WORK_PULL_" ++ config.siteId
              jsSeq := 0
              receivedAt := 0
              nodeId := some nodeId
              state := .accepted
              lastProgressAt := 0
              envelope := some envelope })
        else .done ()).andThen fun _ =>
          (match workKey payload.workId payload.attempt with
          | none => (.done () : GatewayProgram Unit)
          | some key =>
              .perform (.assign fun memory =>
                { memory with
                  inflightEnvelopes := memory.inflightEnvelopes.set key envelope }) fun _ =>
                .done ()).andThen fun _ =>
            (emitRunning config payload nodeId envelope).andThen fun _ => .done true

variable (now : Rat) (message : JsMessage)

/-- The last part of `_poll_js` for one message: it is handed to a node. -/
def accept
    (payload : WorkMessage)
    (envelope : MutationEnvelope) : GatewayProgram Unit :=
  let key := workKey payload.workId payload.attempt
  (match key with
  | some key =>
      if config.spoolEnabled ∧ config.jsEnabled then
        quietly (.recordInflight key
          { jsStream := textOr message.stream config.jsStream
            jsConsumer := textOr message.consumer ("WORK_SITE_" ++ config.siteId)
            jsSeq := message.seq.getD 0
            receivedAt := 0
            nodeId := none
            state := .accepted
            lastProgressAt := 0
            envelope := some envelope })
      else .done ()
  | none => .done ()).andThen fun _ =>
    (dispatchWork config payload envelope).andThen fun dispatched =>
      if dispatched then
        .perform (.fenceCommit envelope) fun committed =>
          match committed, key with
          | none, _ => .raise
          | some _, none => .done ()
          | some _, some key =>
              .perform (.assign fun memory =>
                { memory with
                  inflight := memory.inflight.set key message
                  inflightProgress := memory.inflightProgress.set key now
                  inflightHeartbeat := memory.inflightHeartbeat.set key now
                  inflightEnvelopes := memory.inflightEnvelopes.set key envelope }) fun _ =>
                .done ()
      else quietly (.nak message config.nakDelayS)

/-- `_poll_js` for a message that is in work or whose completion is remembered, or
else for one that is to be accepted. -/
def pollRemembered
    (payload : WorkMessage)
    (envelope : MutationEnvelope) : GatewayProgram Unit :=
  match workKey payload.workId payload.attempt with
  | none => accept config now message payload envelope
  | some key =>
      .perform .look fun memory =>
        if (memory.inflight.find? key).isSome then
          let heartbeatAt := (memory.inflightHeartbeat.find? key).getD
            ((memory.inflightProgress.find? key).getD now)
          if config.heartbeatTimeoutS < now - heartbeatAt then
            .perform (.nak message config.nakDelayS) fun _ =>
              (if config.spoolEnabled then
                quietly (.updateInflightState key .abandoned none)
              else .done ()).andThen fun _ =>
                .perform (.assign fun memory => memory.forget key) fun _ => .done ()
          else quietly (.inProgress message)
        else if (memory.completed.find? key).isSome then quietly (.ackSync message)
        else accept config now message payload envelope

/-- `_poll_js` for a message that the fence accepts: the spool is asked first. -/
def pollAccepted
    (payload : WorkMessage)
    (envelope : MutationEnvelope) : GatewayProgram Unit :=
  match workKey payload.workId payload.attempt with
  | none => accept config now message payload envelope
  | some key =>
      if config.spoolEnabled ∧ config.jsEnabled then
        .perform (.getResult key) fun result =>
          if (result.bind id).isSome then
            .perform (.ackSync message) fun _ =>
              .perform (.assign fun memory =>
                { memory with completed := memory.completed.set key now }) fun _ => .done ()
          else
            .perform (.getInflightRecord key) fun record =>
              if (record.bind id).any fun found => found.state ≠ .abandoned then
                .perform (.assign fun memory =>
                  { memory with
                    inflight := memory.inflight.set key message
                    inflightProgress := memory.inflightProgress.set key
                      ((memory.inflightProgress.find? key).getD now)
                    inflightHeartbeat := memory.inflightHeartbeat.set key
                      ((memory.inflightHeartbeat.find? key).getD now) }) fun _ => .done ()
              else pollRemembered config now message payload envelope
      else pollRemembered config now message payload envelope

/-- `_poll_js` for one message. -/
def pollMessage : GatewayProgram Unit :=
  match message.payload with
  | none => .done ()
  | some payload =>
      match payload.envelope with
      | none => quietly (.ackSync message)
      | some envelope =>
          .perform (.fenceBegin message envelope) fun decision =>
            match decision with
            | none => .raise
            | some decision =>
                if decision.status = .stale ∨ decision.status = .duplicate then
                  quietly (.ackSync message)
                else pollAccepted config now message payload envelope

/-- `_poll_js`, for the messages that are fetched. -/
def pollJs (messages : List JsMessage) (now : Rat) : GatewayProgram Unit :=
  Program.forEach messages (pollMessage config now)

/-- `_run_progress` for one message.  The key is taken apart at its first colon, so a
work id with a colon is not found in the spool. -/
def progressMessage (entry : WorkKey × JsMessage) : GatewayProgram Unit :=
  let (key, message) := entry
  .perform .look fun memory =>
    let last := (memory.inflightProgress.find? key).getD 0
    let heartbeatAt := (memory.inflightHeartbeat.find? key).getD (if last = 0 then now else last)
    if config.heartbeatTimeoutS < now - heartbeatAt then
      .perform (.nak message config.nakDelayS) fun _ =>
        (if config.spoolEnabled ∧ ':' ∉ key.1.toList then
          quietly (.updateInflightState key .abandoned none)
        else .done ()).andThen fun _ =>
          .perform (.assign fun memory => memory.forget key) fun _ => .done ()
    else if config.progressIntervalS ≤ now - last then
      .perform (.inProgress message) fun kept =>
        match kept with
        | none => .done ()
        | some _ =>
            .perform (.assign fun memory =>
              { memory with inflightProgress := memory.inflightProgress.set key now }) fun _ =>
              .done ()
    else .done ()

/-- The entries that are not older than a TTL. -/
def pruned (now ttl : Rat) (times : Dictionary WorkKey Rat) : Dictionary WorkKey Rat :=
  times.keep fun key => (times.find? key).all fun since => decide (now - since ≤ ttl)

def runProgress : GatewayProgram Unit :=
  .perform .look fun memory =>
    if memory.inflight.entries = [] then .done ()
    else
      (Program.forEach memory.inflight.entries (progressMessage config now)).andThen fun _ =>
        .perform (.assign fun memory =>
          { memory with
            completed := pruned now (max 30 (config.ackWaitS * 3)) memory.completed
            runningSent := pruned now (max 30 (config.ackWaitS * 3)) memory.runningSent })
          fun _ => .done ()

/-! ## Calls -/

/-- What a thread is started on. -/
inductive Call
  | localResult (payload : WorkResult)
  | localProgress (key : WorkKey)
  | replay
  | poll (messages : List JsMessage) (now : Rat)
  | progress (now : Rat)

def Call.program : Call → GatewayProgram Unit
  | .localResult payload => onLocalResult config payload
  | .localProgress key => onLocalProgress key
  | .replay => replaySpoolResults config
  | .poll messages now => pollJs config messages now
  | .progress now => runProgress config now

abbrev Threads := Program.Pool World Op Reply Unit

abbrev Threads.step (threads : Threads) (action : Program.PoolAction Call) : Option Threads :=
  Program.Pool.step (execute config outside) (Call.program config) threads action

end Gateway
end K1s
