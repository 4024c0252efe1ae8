import K1s.Work.Ledger
import K1s.Lib.Program

/-!
# The three writers of the work ledger

The result handler of the controller's ingress, the outbox publisher and the
watchdog each run in a thread of their own on one SQLite store.  They are
programs over the calls of the store, each of which is one transaction, and
over what they ask of the world outside: whether this controller leads, the
time, and the message bus.
-/

namespace K1s
namespace Work

open Py Ha

/-! ## The calls of the store -/

/-- The text of the exception for an integer that SQLite cannot hold. -/
def integerTooLarge : String := "Python int too large to convert to SQLite INTEGER"

/-- Whether a state is one a work item ends in. -/
def WorkState.isTerminal : WorkState → Bool
  | .succeeded | .failed => true
  | _ => false

/-- The arguments of `update_work_state`. -/
structure WorkUpdate where
  workId : String
  attempt : Int
  state : WorkState
  assignedNodeId : Option String
  observedGeneration : Option Int
  result : Option Json

def coalesce (given : Option Json) (column : Json) : Json :=
  given.getD column

/-- The row after `update_work_state`. -/
def LedgerRow.updated (row : LedgerRow) (update : WorkUpdate) (now : String) : LedgerRow :=
  { row with
    state := update.state
    assignedNodeId := coalesce (update.assignedNodeId.map Json.str) row.assignedNodeId
    observedGeneration :=
      coalesce (update.observedGeneration.map Json.int) row.observedGeneration
    result := coalesce update.result row.result
    updatedAt := now
    stateUpdatedAt := now }

/-- The integers of an update can be bound to the statement. -/
def WorkUpdate.bindable (update : WorkUpdate) : Bool :=
  Work.bindable (.int update.attempt) &&
    update.observedGeneration.all fun generation => Work.bindable (.int generation)

/-- `update_work_state`: the row is found by its work id and its attempt,
whatever its state. -/
def Tables.updateWorkState (tables : Tables) (update : WorkUpdate) (now : String) :
    Except String (Bool × Tables) :=
  if update.bindable then
    match tables.ledger.find? update.workId with
    | none => .ok (false, tables)
    | some row =>
        if row.attempt = update.attempt then
          .ok (true,
            { tables with ledger := tables.ledger.set update.workId (row.updated update now) })
        else .ok (false, tables)
  else .error integerTooLarge

/-- `list_work_state_before`, with `none` for an exception. -/
def Tables.listWorkStateBefore (tables : Tables) (state : WorkState) (cutoff : String) :
    Option (List WorkLedgerEntry) :=
  ((tables.ledger.entries.filter fun (_, row) =>
        decide (row.state = state) && decide (row.stateUpdatedAt ≤ cutoff)).insertionSort
      fun first second => first.2.stateUpdatedAt ≤ second.2.stateUpdatedAt).mapM
    fun (workId, row) => row.entry workId

/-- An outbox row as `list_outbox_unpublished` returns it. -/
structure WorkOutboxEntry where
  workId : String
  attempt : Int
  siteId : String
  payload : Json
  publishSubject : String
  publishMsgId : String

/-- The entry of an outbox row, with `none` for an exception. -/
def OutboxRow.entry (row : OutboxRow) (key : String × Int) : Option WorkOutboxEntry :=
  let subject :=
    if row.publishSubject = "" then outboxPublishSubject row.siteId else row.publishSubject
  let entry (msgId : String) : WorkOutboxEntry :=
    { workId := key.1
      attempt := key.2
      siteId := row.siteId
      payload := row.payload
      publishSubject := subject
      publishMsgId := msgId }
  if row.publishMsgId = "" then
    match row.payload with
    | .dict payload => some (entry (outboxPublishMsgId key.1 key.2 payload))
    | _ => none
  else some (entry row.publishMsgId)

/-- The first rows of a list, all of them for a negative limit. -/
def limited {α : Type} (limit : Int) (rows : List α) : List α :=
  if limit < 0 then rows else rows.take limit.toNat

/-- `list_outbox_unpublished`, with `none` for an exception. -/
def Tables.listOutboxUnpublished (tables : Tables) (limit : Int) :
    Option (List WorkOutboxEntry) :=
  (limited limit ((tables.outbox.entries.filter fun (_, row) => !row.published).insertionSort
      fun first second => first.2.createdAt ≤ second.2.createdAt)).mapM
    fun (key, row) => row.entry key

def Tables.updateOutbox
    (tables : Tables) (workId : String) (attempt : Int)
    (change : OutboxRow → OutboxRow) : Tables :=
  match tables.outbox.find? (workId, attempt) with
  | none => tables
  | some row => { tables with outbox := tables.outbox.set (workId, attempt) (change row) }

def Tables.markOutboxPublished (tables : Tables) (workId : String) (attempt : Int)
    (now : String) : Tables :=
  tables.updateOutbox workId attempt fun row =>
    { row with
      published := true
      publishAttempts := row.publishAttempts + 1
      lastPublishAt := some now
      lastPublishError := none
      updatedAt := now }

def Tables.recordOutboxPublishAttempt (tables : Tables) (workId : String) (attempt : Int)
    (error now : String) : Tables :=
  tables.updateOutbox workId attempt fun row =>
    { row with
      publishAttempts := row.publishAttempts + 1
      lastPublishAt := some now
      lastPublishError := some error
      updatedAt := now }

/-! ## Operations -/

/-- What a writer asks of the store and of the world outside. -/
inductive Op
  | isLeader
  | now
  | identity
  | publish (subject : String) (payload : Json) (msgId : String)
  | getWorkLedger (workId : String)
  | updateWorkState (update : WorkUpdate)
  | markWorkDone (workId : String) (attempt : Int)
  | listOutboxUnpublished (limit : Int)
  | markOutboxPublished (workId : String) (attempt : Int)
  | recordOutboxPublishAttempt (workId : String) (attempt : Int) (error : String)
  | listWorkStateBefore (state : WorkState) (cutoff : String)
  | rescheduleWork (workId : String) (attempt : Int) (controllerId : String)
      (controllerEpoch : Int)

/-- The replies.  Where the caller uses the text of an exception the reply has
it; elsewhere an exception is `none`. -/
abbrev Reply : Op → Type
  | .isLeader => Bool
  | .now => Rat → String
  | .identity => String × Int
  | .publish _ _ _ => Except String Unit
  | .getWorkLedger _ => Option (Option WorkLedgerEntry)
  | .updateWorkState _ => Except String Bool
  | .markWorkDone _ _ => Option Unit
  | .listOutboxUnpublished _ => Option (List WorkOutboxEntry)
  | .markOutboxPublished _ _ => Except String Unit
  | .recordOutboxPublishAttempt _ _ _ => Option Unit
  | .listWorkStateBefore _ _ => Option (List WorkLedgerEntry)
  | .rescheduleWork _ _ _ _ => Option (Option Int)

/-- What the world outside answers, by the number of the operation. -/
structure Outside where
  /-- Whether the controller is the leader. -/
  isLeader : Nat → Bool
  /-- The identity that `resolve_controller_identity` gives. -/
  identity : Nat → String × Int
  /-- The text of the exception that a publication raises. -/
  publishFault : Nat → Option String
  /-- The text of the exception that a call of the store raises. -/
  storeFault : Nat → Option String
  /-- The text of the time so many seconds before the operation. -/
  timeBefore : Nat → Rat → String

/-- The tables, and how many operations have been performed. -/
structure World where
  tables : Tables
  performed : Nat

variable (outside : Outside)

/-- `datetime.now(timezone.utc).isoformat()` in a call of the store. -/
def nowIso (world : World) : String :=
  outside.timeBefore world.performed 0

def World.next (world : World) (tables : Tables) : World :=
  ⟨tables, world.performed + 1⟩

def execute (operation : Op) (world : World) : Reply operation × World :=
  let tables := world.tables
  let fault := outside.storeFault world.performed
  match operation with
  | .isLeader => (outside.isLeader world.performed, world.next tables)
  | .now => (outside.timeBefore world.performed, world.next tables)
  | .identity => (outside.identity world.performed, world.next tables)
  | .publish _ _ _ =>
      match outside.publishFault world.performed with
      | some error => (.error error, world.next tables)
      | none => (.ok (), world.next tables)
  | .getWorkLedger workId =>
      match fault with
      | some _ => (none, world.next tables)
      | none => (tables.getWorkLedger workId, world.next tables)
  | .updateWorkState update =>
      match fault with
      | some error => (.error error, world.next tables)
      | none =>
          match tables.updateWorkState update (nowIso outside world) with
          | .error error => (.error error, world.next tables)
          | .ok (found, after) => (.ok found, world.next after)
  -- The queue that is marked is a table of its own.
  | .markWorkDone _ _ =>
      match fault with
      | some _ => (none, world.next tables)
      | none => (some (), world.next tables)
  | .listOutboxUnpublished limit =>
      match fault with
      | some _ => (none, world.next tables)
      | none => (tables.listOutboxUnpublished limit, world.next tables)
  | .markOutboxPublished workId attempt =>
      match fault with
      | some error => (.error error, world.next tables)
      | none =>
          (.ok (), world.next (tables.markOutboxPublished workId attempt (nowIso outside world)))
  | .recordOutboxPublishAttempt workId attempt error =>
      match fault with
      | some _ => (none, world.next tables)
      | none =>
          (some (), world.next
            (tables.recordOutboxPublishAttempt workId attempt error (nowIso outside world)))
  | .listWorkStateBefore state cutoff =>
      match fault with
      | some _ => (none, world.next tables)
      | none => (tables.listWorkStateBefore state cutoff, world.next tables)
  | .rescheduleWork workId attempt controllerId controllerEpoch =>
      match fault with
      | some _ => (none, world.next tables)
      | none =>
          match tables.rescheduleWork
              ⟨workId, attempt, some controllerId, some controllerEpoch, nowIso outside world⟩ with
          | none => (none, world.next tables)
          | some (reply, after) => (some reply, world.next after)

/-! ## The result handler -/

abbrev Writer (α : Type) := Program Op Reply α

/-- `update_work_state` of the store. -/
abbrev updateWorkState (update : WorkUpdate) : Writer (Except String Bool) :=
  Program.perform (.updateWorkState update) Program.done

/-- `mark_outbox_published` of the store. -/
abbrev markOutboxPublished (workId : String) (attempt : Int) : Writer (Except String Unit) :=
  Program.perform (.markOutboxPublished workId attempt) Program.done

/-- `publish_js_json` of the message bus. -/
abbrev publishJson (subject : String) (payload : Json) (msgId : String) :
    Writer (Except String Unit) :=
  Program.perform (.publish subject payload msgId) Program.done

/-- A message from a site: its subject, and what `_safe_json` reads from it. -/
structure ResultMessage where
  subject : String
  payload : Json

def siteIdFromSubject (subject : String) : Json :=
  match split '.' subject with
  | first :: second :: third :: site :: _ =>
      if first ≠ "k1s" ∨ second ≠ "v1" ∨ third ≠ "site" then .null else .str site
  | _ => .null

def scopedNodeId (siteId nodeId : String) : String :=
  let site := strip siteId
  let node := strip nodeId
  if site = "" then node
  else if startsWith (site ++ "--") node then node
  else site ++ "--" ++ node

/-- The node that a result names. -/
def nodeKey (siteId nodeId : Json) : Option String :=
  if siteId.truthy ∧ nodeId.truthy then some (scopedNodeId siteId.toStr nodeId.toStr)
  else if nodeId.truthy then some nodeId.toStr
  else none

def stateOfStatus (status : String) : Option WorkState :=
  if status = "running" then some .running
  else if status = "succeeded" ∨ status = "success" ∨ status = "completed" then
    some .succeeded
  else if status = "failed" ∨ status = "error" then some .failed
  else none

/-- Write the state that a result asks for. -/
def recordResult (siteId : Json) (payload : Dict) (workId : String) (attempt : Int) :
    Writer Unit :=
  match stateOfStatus (lower ((Dict.get payload "status").or (.str "")).toStr) with
  | none => pure ()
  | some state => do
      let observed ← Program.ofOption (optionalInt (Dict.get payload "observed_generation"))
      let reply ← updateWorkState
        { workId := workId
          attempt := attempt
          state := state
          assignedNodeId := nodeKey siteId (Dict.get payload "node_id")
          observedGeneration := observed
          result := some (.dict payload) }
      match reply with
      | .error _ => Program.raise
      | .ok _ =>
          if state.isTerminal then do
            let _ ← Program.ask (.markWorkDone workId attempt)
            pure ()
          else pure ()

/-- The `try` block of `_on_result`. -/
def takeResult (siteId : Json) (payload : Dict) (workId : String) : Writer Unit := do
  let attempt ← Program.ofOption ((Dict.get payload "attempt").or (.int 0)).toInt
  if attempt = 0 then pure ()
  else do
    let ledger ← Program.ask (.getWorkLedger workId)
    let ledger ← Program.ofOption ledger
    if resultMatchesLedger ledger attempt (parseEnvelope (.dict payload)) then
      recordResult siteId payload workId attempt
    else pure ()

def onResult (message : ResultMessage) : Writer Unit := do
  let leads ← Program.ask .isLeader
  if leads then
    match message.payload with
    | .dict payload =>
        let workId := Dict.get payload "work_id"
        let siteId := (siteIdFromSubject message.subject).or (Dict.get payload "site_id")
        if workId.truthy then do
          let _ ← (takeResult siteId payload workId.toStr).attempt
          pure ()
        else pure ()
    | _ => Program.raise
  else pure ()

/-! ## The outbox publisher -/

/-- The identifier under which an entry is published, with `none` for an
exception. -/
def WorkOutboxEntry.msgId (entry : WorkOutboxEntry) : Option String :=
  if entry.publishMsgId ≠ "" then some entry.publishMsgId
  else
    match entry.payload with
    | .dict payload => some (outboxPublishMsgId entry.workId entry.attempt payload)
    | _ => none

def WorkOutboxEntry.subject (entry : WorkOutboxEntry) : String :=
  if entry.publishSubject ≠ "" then entry.publishSubject
  else outboxPublishSubject entry.siteId

/-- The `except` block of `run_once`. -/
def publicationFailed (entry : WorkOutboxEntry) (error : String) : Writer Unit := do
  let recorded ← Program.ask
    (.recordOutboxPublishAttempt entry.workId entry.attempt error)
  Program.ofOption recorded

/-- The update that the publisher makes. -/
def dispatchedUpdate (entry : WorkOutboxEntry) : WorkUpdate where
  workId := entry.workId
  attempt := entry.attempt
  state := .dispatched
  assignedNodeId := none
  observedGeneration := none
  result := none

/-- What follows a publication that came through. -/
def notePublished (entry : WorkOutboxEntry) : Writer Unit := do
  let marked ← markOutboxPublished entry.workId entry.attempt
  match marked with
  | .error error => publicationFailed entry error
  | .ok () => do
      let updated ← updateWorkState (dispatchedUpdate entry)
      match updated with
      | .error error => publicationFailed entry error
      | .ok _ => pure ()

/-- The loop of `run_once`. -/
def publishEntries : List WorkOutboxEntry → Writer Unit
  | [] => pure ()
  | entry :: rest => do
      let leads ← Program.ask .isLeader
      if leads then do
        let msgId ← Program.ofOption entry.msgId
        let published ← publishJson entry.subject entry.payload msgId
        match published with
        | .error error => do
            publicationFailed entry error
            publishEntries rest
        | .ok () => do
            let stillLeads ← Program.ask .isLeader
            if stillLeads then do
              notePublished entry
              publishEntries rest
            else pure ()
      else pure ()

/-- `run_once` of the outbox publisher. -/
def publishOnce (batchSize : Int) : Writer Unit := do
  let leads ← Program.ask .isLeader
  if leads then do
    let entries ← Program.ask (.listOutboxUnpublished batchSize)
    let entries ← Program.ofOption entries
    publishEntries entries
  else pure ()

/-! ## The watchdog -/

/-- The times of `WorkWatchdogConfig`, in seconds. -/
structure WorkWatchdogConfig where
  dispatchedMaxS : Rat
  runningMaxS : Rat

def reschedule (entry : WorkLedgerEntry) : Writer Unit := do
  let identity ← Program.ask .identity
  let rescheduled ← Program.ask
    (.rescheduleWork entry.workId entry.attempt identity.1 identity.2)
  let _ ← Program.ofOption rescheduled
  pure ()

/-- Reschedule what has been in a state for too long. -/
def rescheduleOverdue (state : WorkState) (maxS : Rat) (timeBefore : Rat → String) :
    Writer Unit :=
  if 0 < maxS then do
    let entries ← Program.ask (.listWorkStateBefore state (timeBefore maxS))
    let entries ← Program.ofOption entries
    Program.forEach entries reschedule
  else pure ()

/-- `run_once` of the watchdog. -/
def sweep (config : WorkWatchdogConfig) : Writer Unit := do
  let timeBefore ← Program.ask .now
  rescheduleOverdue .dispatched config.dispatchedMaxS timeBefore
  rescheduleOverdue .running config.runningMaxS timeBefore

/-! ## The threads -/

/-- What a thread is started on. -/
inductive Call
  | result (message : ResultMessage)
  | publish (batchSize : Int)
  | sweep (config : WorkWatchdogConfig)

def Call.program : Call → Writer Unit
  | .result message => onResult message
  | .publish batchSize => publishOnce batchSize
  | .sweep config => Work.sweep config

/-- The threads of the writers over the tables. -/
abbrev Writers := Program.Pool World Op Reply Unit

abbrev Writers.step (writers : Writers) (action : Program.PoolAction Call) :
    Option Writers :=
  Program.Pool.step (execute outside) Call.program writers action

end Work
end K1s
