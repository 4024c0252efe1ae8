import K1s.Lib.Dictionary
import K1s.Ha.Fencing
import K1s.Py.Json
import K1s.Py.Time

/-!
# The spool of a gateway

`GatewaySpool` in `gateway/spool.py` keeps what the gateway has accepted and the
results it has, each under a work id and an attempt.  A result that is recorded takes
the place of an earlier one and is not delivered; `mark_result_delivered` marks
whatever row stands under its key.

Times are microseconds.
-/

namespace K1s
namespace Gateway

open Ha (MutationEnvelope)
open Py (Dict)

/-- A work id and an attempt. -/
abbrev WorkKey := String × Int

/-- The payload of a result: the fields that the gateway reads or sets, and the
others. -/
structure WorkResult where
  workId : Option String
  attempt : Option Int
  status : Option String
  siteId : Option String
  nodeId : Option String
  envelope : Option MutationEnvelope
  rest : Dict
  deriving DecidableEq

/-- The states of a row of `inflight`. -/
inductive InflightState
  | accepted
  | running
  | terminal
  | abandoned
  deriving DecidableEq

/-- `InflightRecord`, without its key. -/
structure InflightRecord where
  jsStream : String
  jsConsumer : String
  jsSeq : Int
  receivedAt : Int
  nodeId : Option String
  state : InflightState
  lastProgressAt : Int
  envelope : Option MutationEnvelope
  deriving DecidableEq

/-- `ResultRecord`, without its key. -/
structure ResultRecord where
  status : String
  payload : WorkResult
  committedAt : Int
  deliveredToControllerAt : Option Int
  replayAttempts : Nat
  lastReplayAt : Option Int
  nextRetryAt : Option Int
  lastReplayError : Option String
  envelope : Option MutationEnvelope
  deriving DecidableEq

/-- The two tables. -/
structure Spool where
  inflight : Dictionary WorkKey InflightRecord
  results : Dictionary WorkKey ResultRecord

namespace Spool

def empty : Spool := ⟨Dictionary.empty, Dictionary.empty⟩

variable (spool : Spool) (key : WorkKey) (now : Int)

/-- `record_inflight`.  A row that stands there keeps the time it was received. -/
def recordInflight (record : InflightRecord) : Spool :=
  { spool with
    inflight := spool.inflight.set key
      { record with
        receivedAt := ((spool.inflight.find? key).map InflightRecord.receivedAt).getD
          record.receivedAt } }

def updateInflightState (state : InflightState) (nodeId : Option String) : Spool :=
  match spool.inflight.find? key with
  | none => spool
  | some record =>
      { spool with
        inflight := spool.inflight.set key
          { record with
            state := state
            nodeId := nodeId.or record.nodeId
            lastProgressAt := now } }

def recordResult (status : String) (payload : WorkResult) : Spool :=
  { spool with
    results := spool.results.set key
      { status := status
        payload := payload
        committedAt := now
        deliveredToControllerAt := none
        replayAttempts := 0
        lastReplayAt := none
        nextRetryAt := none
        lastReplayError := none
        envelope := payload.envelope } }

/-- An update of the row under a key. -/
def updateResult (change : ResultRecord → ResultRecord) : Spool :=
  match spool.results.find? key with
  | none => spool
  | some record => { spool with results := spool.results.set key (change record) }

def markResultDelivered : Spool :=
  spool.updateResult key fun record =>
    { record with
      deliveredToControllerAt := some now
      nextRetryAt := none
      lastReplayError := none }

def recordResultDeliveryAttempt (error : Option String) (retryAt : Option Int) : Spool :=
  spool.updateResult key fun record =>
    { record with
      replayAttempts := record.replayAttempts + 1
      lastReplayAt := some now
      nextRetryAt := retryAt
      lastReplayError := error }

/-- The order of the rows that are ready for a replay. -/
def replayLe (first second : WorkKey × ResultRecord) : Bool :=
  let firstAt := first.2.nextRetryAt.getD first.2.committedAt
  let secondAt := second.2.nextRetryAt.getD second.2.committedAt
  decide (firstAt < secondAt) ||
    (decide (firstAt = secondAt) && decide (first.2.committedAt ≤ second.2.committedAt))

def listReplayReadyResults (limit : Nat) : List (WorkKey × ResultRecord) :=
  ((spool.results.entries.filter fun row =>
    row.2.deliveredToControllerAt.isNone &&
      row.2.nextRetryAt.all fun retryAt => decide (retryAt ≤ now)).insertionSort
    fun first second => replayLe first second = true).take limit

end Spool

end Gateway
end K1s
