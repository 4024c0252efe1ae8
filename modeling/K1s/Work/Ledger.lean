import K1s.Etcd.Store
import K1s.Ha.Fencing
import K1s.Py.Float

/-!
# The work ledger and the outbox

A work item has one ledger row, with its current attempt, and one outbox row
for every attempt.  The outbox row holds the message that is published to the
site; the site echoes the envelope of the message in its results, and the
controller compares it with the ledger row before it takes a result.

The rows of the SQLite store are those of `controller/state.py`, the records of
the etcd store those of `controller/etcd_state.py`.  Times are the texts that
`isoformat` writes for UTC, which order like the times.
-/

namespace K1s
namespace Work

open Py Ha

/-! ## Envelopes -/

def workOperation (workId : String) (attempt : Int) : String :=
  "work:" ++ workId ++ ":" ++ toString attempt

def envelopeText (value : Json) : String :=
  strip (value.or (.str "")).toStr

/-- `int(value or 0)`, with 0 for what is no number. -/
def envelopeEpoch (value : Json) : Int :=
  (value.or (.int 0)).toInt.getD 0

def parseEnvelope (payload : Json) : Option MutationEnvelope :=
  match payload with
  | .dict entries =>
      let controllerId := envelopeText (Dict.get entries "controller_id")
      let operationId := envelopeText (Dict.get entries "operation_id")
      let controllerEpoch := envelopeEpoch (Dict.get entries "controller_epoch")
      if controllerId = "" ∨ operationId = "" ∨ controllerEpoch ≤ 0 then none
      else some ⟨controllerId, controllerEpoch, operationId⟩
  | _ => none

/-- A ledger row as `get_work_ledger` returns it, without its times. -/
structure WorkLedgerEntry where
  workId : String
  attempt : Int
  siteId : String
  state : String
  controllerId : Option String
  controllerEpoch : Option Int
  operationId : Option String
  desiredGeneration : Json
  assignedNodeId : Json
  observedGeneration : Json
  result : Json

def resultMatchesLedger
    (ledger : Option WorkLedgerEntry) (attempt : Int)
    (envelope : Option MutationEnvelope) : Bool :=
  match ledger, envelope with
  | some ledger, some envelope =>
      decide (ledger.attempt = attempt) &&
        decide (ledger.controllerId.getD "" = envelope.controllerId) &&
        decide (ledger.controllerEpoch.getD 0 = envelope.controllerEpoch) &&
        decide (ledger.operationId.getD "" = envelope.operationId)
  | _, _ => false

/-! ## The payload of a new attempt -/

/-- The arguments of `reschedule_work` and the time of the call. -/
structure RescheduleCall where
  workId : String
  attempt : Int
  controllerId : Option String
  controllerEpoch : Option Int
  now : String

namespace RescheduleCall

variable (call : RescheduleCall)

/-- `payload["controller_id"]` after `if controller_id: ...`. -/
def controllerIdOf (payload : Dict) : Json :=
  match call.controllerId with
  | some given => if given = "" then Dict.get payload "controller_id" else .str given
  | none => Dict.get payload "controller_id"

/-- `payload["controller_epoch"]` after `if controller_epoch is not None: ...`. -/
def controllerEpochOf (payload : Dict) : Json :=
  match call.controllerEpoch with
  | some given => .int given
  | none => Dict.get payload "controller_epoch"

def withController (payload : Dict) : Dict :=
  let named :=
    match call.controllerId with
    | some given => if given = "" then payload else Dict.set payload "controller_id" (.str given)
    | none => payload
  match call.controllerEpoch with
  | some given => Dict.set named "controller_epoch" (.int given)
  | none => named

/-- The payload with its attempt, its defaults and its time. -/
def dated (siteId : Json) (payload : Dict) : Dict :=
  Dict.set (Dict.setdefault (Dict.setdefault (Dict.set payload "attempt" (.int (call.attempt + 1)))
        "work_id" (.str call.workId))
      "site_id" siteId)
    "created_at" (.str call.now)

/-- The payload of the new attempt, made from that of the old one. -/
def newPayload (siteId : Json) (payload : Dict) : Dict :=
  let controlled := call.withController (call.dated siteId payload)
  if (Dict.get controlled "controller_id").truthy ∧
      Dict.get controlled "controller_epoch" ≠ .null then
    Dict.set controlled "operation_id" (.str (workOperation call.workId (call.attempt + 1)))
  else controlled

end RescheduleCall

/-! ## The SQLite store -/

/-- What `int(column)` gives for a value bound to an `INTEGER` column: `none`
where binding or reading it raises.  A text that is a number is stored as the
number. -/
def sqlInteger : Json → Option (Option Int)
  | .null => some none
  | .bool value => some (some (if value then 1 else 0))
  | .int value =>
      if -(2 ^ 63) ≤ value ∧ value < 2 ^ 63 then some (some value) else none
  | .float text => ((Json.float text).toInt).map some
  | .str text => (((Json.str text).toInt).or ((Json.float text).toInt)).map some
  | .list _ | .dict _ => none

/-- Whether a value can be bound to a statement. -/
def bindable : Json → Bool
  | .int value => decide (-(2 ^ 63) ≤ value ∧ value < 2 ^ 63)
  | .list _ | .dict _ => false
  | _ => true

inductive WorkState
  | pending
  | dispatched
  | running
  | succeeded
  | failed
  deriving DecidableEq

def WorkState.text : WorkState → String
  | .pending => "Pending"
  | .dispatched => "Dispatched"
  | .running => "Running"
  | .succeeded => "Succeeded"
  | .failed => "Failed"

/-- A row of `work_ledger` without its key.  The three columns of the envelope
are kept as the values that were bound to them. -/
structure LedgerRow where
  attempt : Int
  siteId : String
  state : WorkState
  controllerId : Json
  controllerEpoch : Json
  operationId : Json
  desiredGeneration : Json
  assignedNodeId : Json
  observedGeneration : Json
  result : Json
  createdAt : String
  updatedAt : String
  stateUpdatedAt : String

/-- A row of `work_outbox` without its key. -/
structure OutboxRow where
  siteId : String
  payload : Json
  publishSubject : String
  publishMsgId : String
  published : Bool
  publishAttempts : Nat
  lastPublishAt : Option String
  lastPublishError : Option String
  createdAt : String
  updatedAt : String

structure Tables where
  ledger : Dictionary String LedgerRow
  outbox : Dictionary (String × Int) OutboxRow

/-- `str(column) if column else None` of a `TEXT` column. -/
def textColumn (value : Json) : Option String :=
  match value.sqlText with
  | some (some text) => if text = "" then none else some text
  | _ => none

/-- The entry of a row, with `none` for an exception. -/
def LedgerRow.entry (row : LedgerRow) (workId : String) : Option WorkLedgerEntry :=
  (sqlInteger row.controllerEpoch).map fun controllerEpoch =>
    { workId := workId
      attempt := row.attempt
      siteId := row.siteId
      state := row.state.text
      controllerId := textColumn row.controllerId
      controllerEpoch := controllerEpoch
      operationId := textColumn row.operationId
      desiredGeneration := row.desiredGeneration
      assignedNodeId := row.assignedNodeId
      observedGeneration := row.observedGeneration
      result := row.result }

/-- `get_work_ledger`, with `none` for an exception. -/
def Tables.getWorkLedger (tables : Tables) (workId : String) :
    Option (Option WorkLedgerEntry) :=
  match tables.ledger.find? workId with
  | none => some none
  | some row => (row.entry workId).map some

def outboxPublishSubject (siteId : String) : String :=
  "k1s.v1.work.site." ++ siteId

def outboxPublishMsgId (workId : String) (attempt : Int) (payload : Dict) : String :=
  ((Dict.get payload "operation_id").or (.str (workId ++ ":" ++ toString attempt))).toStr

def newOutboxRow
    (workId siteId : String) (attempt : Int) (payload : Dict)
    (now : String) : OutboxRow where
  siteId := siteId
  payload := .dict payload
  publishSubject := outboxPublishSubject siteId
  publishMsgId := outboxPublishMsgId workId attempt payload
  published := false
  publishAttempts := 0
  lastPublishAt := none
  lastPublishError := none
  createdAt := now
  updatedAt := now

def LedgerRow.rescheduled (row : LedgerRow) (attempt : Int) (payload : Dict) (now : String) :
    LedgerRow :=
  { row with
    attempt := attempt
    state := .pending
    controllerId := Dict.get payload "controller_id"
    controllerEpoch := Dict.get payload "controller_epoch"
    operationId := Dict.get payload "operation_id"
    updatedAt := now
    stateUpdatedAt := now }

/-- The values of the envelope can be bound to the columns of the ledger. -/
def envelopeBindable (payload : Dict) : Bool :=
  bindable (Dict.get payload "controller_id") && bindable (Dict.get payload "controller_epoch") &&
    bindable (Dict.get payload "operation_id")

/-- `reschedule_work` of the SQLite store: the new attempt and the tables, or
`none` for an exception, which leaves the tables as they are. -/
def Tables.rescheduleWork (tables : Tables) (call : RescheduleCall) :
    Option (Option Int × Tables) :=
  match tables.outbox.find? (call.workId, call.attempt) with
  | none => some (none, tables)
  | some outbox =>
      match outbox.payload with
      | .dict old =>
          let payload := call.newPayload (.str outbox.siteId) old
          if envelopeBindable payload then
            match tables.ledger.find? call.workId with
            | none => some (none, tables)
            | some row =>
                if row.attempt ≠ call.attempt then some (none, tables)
                -- The key of the new outbox row must be free.
                else if (tables.outbox.find? (call.workId, call.attempt + 1)).isSome then none
                else
                  some (some (call.attempt + 1),
                    { ledger := tables.ledger.set call.workId
                        (row.rescheduled (call.attempt + 1) payload call.now)
                      outbox := tables.outbox.set (call.workId, call.attempt + 1)
                        (newOutboxRow call.workId outbox.siteId (call.attempt + 1) payload
                          call.now) })
          else none
      | _ => none

/-! ## The etcd store -/

/-- `_k("work", "ledger", work_id)`. -/
def ledgerKey (root workId : String) : Etcd.Key :=
  Etcd.k root ["work", "ledger", workId]

/-- `_k("outbox", "work", work_id, str(attempt))`. -/
def outboxKey (root workId : String) (attempt : Int) : Etcd.Key :=
  Etcd.k root ["outbox", "work", workId, toString attempt]

/-- `str(value) if value is not None else None`. -/
def optionalText : Json → Option String
  | .null => none
  | value => some value.toStr

/-- `int(value) if value is not None else None`, with `none` for an exception. -/
def optionalInt : Json → Option (Option Int)
  | .null => some none
  | value => value.toInt.map some

/-- The entry of a record, with `none` for an exception. -/
def entryOfRecord (workId : String) (record : Dict) : Option WorkLedgerEntry :=
  (Etcd.field record "attempt" (.int 0)).toInt.bind fun attempt =>
    (optionalInt (Dict.get record "controller_epoch")).map fun controllerEpoch =>
      { workId := (Etcd.field record "work_id" (.str workId)).toStr
        attempt := attempt
        siteId := (Etcd.field record "site_id" (.str "")).toStr
        state := (Etcd.field record "state" (.str "")).toStr
        controllerId := optionalText (Dict.get record "controller_id")
        controllerEpoch := controllerEpoch
        operationId := optionalText (Dict.get record "operation_id")
        desiredGeneration := Dict.get record "desired_generation"
        assignedNodeId := Dict.get record "assigned_node_id"
        observedGeneration := Dict.get record "observed_generation"
        result := Dict.get record "result" }

/-- `get_work_ledger` of the etcd store, with `none` for an exception. -/
def getWorkLedger (root workId : String) (store : Etcd.Store) :
    Option (Option WorkLedgerEntry) :=
  match store.getJson (ledgerKey root workId) with
  | none => some none
  | some ([], _) => some none
  | some (record, _) => (entryOfRecord workId record).map some

def outboxRecord
    (workId : String) (attempt : Int) (siteId : Json) (payload : Dict)
    (now : String) : Dict :=
  [("work_id", .str workId), ("attempt", .int attempt), ("site_id", siteId),
    ("payload", .dict payload),
    ("publish_subject", .str (outboxPublishSubject siteId.toStr)),
    ("publish_msg_id", .str (outboxPublishMsgId workId attempt payload)),
    ("state", .str "Unpublished"), ("publish_attempts", .int 0),
    ("last_publish_at", .null), ("last_publish_error", .null),
    ("created_at", .str now), ("updated_at", .str now)]

def enqueueWorkOutbox
    (root workId : String) (attempt : Int) (siteId : Json) (payload : Dict) (now : String)
    (store : Etcd.Store) : Etcd.Store :=
  store.putJson (outboxKey root workId attempt) (outboxRecord workId attempt siteId payload now)

/-- The ledger record that `reschedule_work` of the etcd store writes. -/
def rescheduledRecord (record : Dict) (attempt : Int) (now : String) : Dict :=
  Dict.set (Dict.set (Dict.set (Dict.set record "attempt" (.int attempt)) "state" (.str "Pending"))
      "updated_at" (.str now))
    "state_updated_at" (.str now)

/-- `reschedule_work` of the etcd store.  The ledger record is written before
the payload is made, and the envelope that is then copied into the record in
memory is not written.  The first component is `none` for an exception. -/
def rescheduleWork (root : String) (call : RescheduleCall) (store : Etcd.Store) :
    Option (Option Int) × Etcd.Store :=
  match store.getJson (outboxKey root call.workId call.attempt) with
  | none => (some none, store)
  | some ([], _) => (some none, store)
  | some (outbox, _) =>
      match store.getJson (ledgerKey root call.workId) with
      | none => (some none, store)
      | some ([], _) => (some none, store)
      | some (ledger, _) =>
          match (Etcd.field ledger "attempt" (.int (-1))).toInt with
          | none => (none, store)
          | some attempt =>
              if attempt ≠ call.attempt then (some none, store)
              else
                let written := store.putJson (ledgerKey root call.workId)
                  (rescheduledRecord ledger (call.attempt + 1) call.now)
                match (Dict.get outbox "payload").or (.dict []) with
                | .dict old =>
                    (some (some (call.attempt + 1)),
                      enqueueWorkOutbox root call.workId (call.attempt + 1)
                        (Etcd.field outbox "site_id" (.str ""))
                        (call.newPayload (Dict.get outbox "site_id") old) call.now written)
                | _ => (none, written)

end Work
end K1s
