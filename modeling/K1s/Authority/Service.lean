import K1s.Lib.Program
import Mathlib.Algebra.Order.Ring.Rat

/-!
# The controller authority

`ControllerAuthorityService` in `controller/authority.py` decides whether this
controller is the leader.  `run_once` keeps the presence record alive, renews the
leadership of a leader, and lets a follower look for a leader or claim the leader
key.

A routine runs on the fields of the service and makes calls to the store, any of
which may raise.  The fields as they stand when a call is made are part of the
operation, so that an interleaving of store calls shows them to an observer.

Times are rational numbers.
-/

namespace K1s
namespace Authority

/-! ## Data -/

/-- `AuthorityConfig`, with the least TTL that `from_env` allows. -/
structure AuthorityConfig where
  enabled : Bool
  controllerId : String
  advertiseAddr : Option String
  leaseTtlSeconds : Int
  keepaliveIntervalSeconds : Rat
  standbyRetryMinSeconds : Rat
  standbyRetryMaxSeconds : Rat
  followerPollSeconds : Rat
  version : String
  ttl_ge_five : 5 ≤ leaseTtlSeconds

structure LeaderRecord where
  controllerId : String
  leaseId : Int
  acquiredAt : String
  advertiseAddr : Option String
  version : String
  deriving DecidableEq

/-- `LeaderInfo`: the record and the mod revision of its key.  The time is kept as
its text. -/
structure LeaderInfo where
  controllerId : String
  controllerEpoch : Nat
  leaseId : Int
  advertiseAddr : Option String
  acquiredAt : String
  version : String
  deriving DecidableEq

structure PresenceRecord where
  controllerId : String
  advertiseAddr : Option String
  observedAt : String
  heartbeatAt : String
  deriving DecidableEq

structure LeaseState where
  leaseId : Int
  renewAt : Rat
  deriving DecidableEq

structure Fields where
  isLeader : Bool
  leaderInfo : Option LeaderInfo
  presenceLease : Option LeaseState
  leaderLease : Option LeaseState
  ready : Bool
  leaderLost : Bool
  nextElectionAttemptAt : Rat
  nextLeaderPollAt : Rat
  presenceObservedAt : Option String
  deriving DecidableEq

/-- The fields of a new service. -/
def Fields.initial : Fields where
  isLeader := false
  leaderInfo := none
  presenceLease := none
  leaderLease := none
  ready := false
  leaderLost := false
  nextElectionAttemptAt := 0
  nextLeaderPollAt := 0
  presenceObservedAt := none

/-- What a call of `run_once` takes from outside: the monotonic time, the texts of
the wall clock, and the draw of `random.uniform`. -/
structure Tick where
  now : Rat
  heartbeatIso : String
  acquiredIso : String
  draw : Rat

/-! ## Calls to the store -/

/-- The calls to the store, by the place they are made from. -/
inductive StoreCall
  | presenceGrant (ttlSeconds : Int)
  | presenceKeepalive (leaseId : Int)
  | presencePut (leaseId : Int) (record : PresenceRecord)
  | electionGrant (ttlSeconds : Int)
  /-- The transaction that creates the leader key if it is absent. -/
  | claim (record : LeaderRecord)
  | revoke (leaseId : Int)
  | leaderKeepalive (leaseId : Int)
  /-- The reads of the leader key: by a follower that polls, after a claim that was
  refused, after one that succeeded, after a renewal, and after a loss. -/
  | pollRead
  | refusedRead
  | claimedRead
  | renewedRead
  | lostRead
  deriving DecidableEq

/-- What a call is answered with: the id of a lease, the remaining TTL, whether the
transaction succeeded, or the leader. -/
abbrev StoreCall.Answer : StoreCall → Type
  | .presenceGrant _ => Int
  | .presenceKeepalive _ => Int
  | .presencePut _ _ => Unit
  | .electionGrant _ => Int
  | .claim _ => Bool
  | .revoke _ => Unit
  | .leaderKeepalive _ => Int
  | .pollRead => Option LeaderInfo
  | .refusedRead => Option LeaderInfo
  | .claimedRead => Option LeaderInfo
  | .renewedRead => Option LeaderInfo
  | .lostRead => Option LeaderInfo

/-- A call, and the fields when it is made. -/
structure StoreOp where
  fields : Fields
  call : StoreCall

/-- The reply to a call, `none` if it raises. -/
abbrev StoreOp.Reply (operation : StoreOp) : Type := Option operation.call.Answer

abbrev ServiceProgram := Program StoreOp StoreOp.Reply

/-- A routine on the fields of the service: its value, `none` if it raises, and the
fields after it. -/
def Routine (α : Type) : Type := Fields → ServiceProgram (Option α × Fields)

namespace Routine

variable {α β : Type}

instance : Monad Routine where
  pure value := fun fields => .done (some value, fields)
  bind routine next := fun fields =>
    (routine fields).andThen fun result =>
      match result with
      | (some value, after) => next value after
      | (none, after) => .done (none, after)

/-- Raise an exception. -/
def throw : Routine α := fun fields => .done (none, fields)

def self : Routine Fields := fun fields => .done (some fields, fields)

def assign (change : Fields → Fields) : Routine Unit :=
  fun fields => .done (some (), change fields)

/-- `try: … except Exception`: the value, or `none` if the routine raised. -/
def attempt (routine : Routine α) : Routine (Option α) := fun fields =>
  (routine fields).andThen fun result => .done (some result.1, result.2)

def call (call : StoreCall) : Routine call.Answer := fun fields =>
  .perform ⟨fields, call⟩ fun answer => .done (answer, fields)

end Routine

open Routine

/-! ## The service -/

section Service

variable (config : AuthorityConfig) (tick : Tick)

/-- The time at which a lease that is renewed now is to be renewed again. -/
def renewAt : Rat := tick.now + config.keepaliveIntervalSeconds

def presenceRecord (fields : Fields) : PresenceRecord where
  controllerId := config.controllerId
  advertiseAddr := config.advertiseAddr
  observedAt := (fields.presenceObservedAt.filter (· ≠ "")).getD tick.heartbeatIso
  heartbeatAt := tick.heartbeatIso

def publishPresence (leaseId : Int) : Routine Unit := do
  let fields ← self
  let record := presenceRecord config tick fields
  call (.presencePut leaseId record)
  assign fun fields => { fields with presenceObservedAt := some record.observedAt }

/-- A new presence lease. -/
def grantPresence : Routine Unit := do
  let leaseId ← call (.presenceGrant config.leaseTtlSeconds)
  publishPresence config tick leaseId
  assign fun fields => { fields with presenceLease := some ⟨leaseId, renewAt config tick⟩ }

def ensurePresence : Routine Unit := do
  let fields ← self
  match fields.presenceLease with
  | none => do
      grantPresence config tick
      assign fun fields => { fields with ready := true }
  | some lease =>
      if tick.now < lease.renewAt then pure ()
      else do
        let kept ← attempt (call (.presenceKeepalive lease.leaseId))
        match kept with
        | none => grantPresence config tick
        | some _ => do
            publishPresence config tick lease.leaseId
            assign fun fields =>
              { fields with presenceLease := some ⟨lease.leaseId, renewAt config tick⟩ }

/-- `_schedule_retry`, with the number drawn between the two bounds. -/
def scheduleRetry : Routine Unit :=
  assign fun fields =>
    { fields with
      nextElectionAttemptAt := tick.now + tick.draw
      nextLeaderPollAt := tick.now + config.followerPollSeconds }

def attemptLeadership : Routine Unit := do
  let leaseId ← call (.electionGrant config.leaseTtlSeconds)
  let claimed ← attempt (call (.claim
    ⟨config.controllerId, leaseId, tick.acquiredIso, config.advertiseAddr, config.version⟩))
  match claimed with
  | none => do
      let _ ← attempt (call (.revoke leaseId))
      scheduleRetry config tick
      throw
  | some false => do
      let _ ← attempt (call (.revoke leaseId))
      let leaderInfo ← call .refusedRead
      assign fun fields => { fields with leaderInfo := leaderInfo }
      scheduleRetry config tick
      assign fun fields => { fields with ready := true }
  | some true => do
      let leaderInfo ← call .claimedRead
      match leaderInfo with
      | none => do
          let _ ← attempt (call (.revoke leaseId))
          scheduleRetry config tick
      | some info =>
          assign fun fields =>
            let led : Fields :=
              { fields with
                isLeader := decide (info.controllerId = config.controllerId)
                leaderInfo := some info
                ready := true }
            if info.controllerId = config.controllerId then
              { led with
                leaderLease := some ⟨leaseId, renewAt config tick⟩
                leaderLost := false }
            else led

def loseLeadership : Routine Unit := do
  assign fun fields => { fields with isLeader := false, leaderLease := none }
  let leaderInfo ← call .lostRead
  assign fun fields => { fields with leaderInfo := leaderInfo, leaderLost := true }
  scheduleRetry config tick

/-- Whether this is a record of this controller. -/
def isOwn (leaderInfo : Option LeaderInfo) : Bool :=
  leaderInfo.any fun info => decide (info.controllerId = config.controllerId)

def renewLeader : Routine Unit := do
  let fields ← self
  match fields.leaderLease with
  | none => do
      assign fun fields => { fields with isLeader := false }
      scheduleRetry config tick
  | some lease =>
      if tick.now < lease.renewAt then pure ()
      else do
        let kept ← attempt (call (.leaderKeepalive lease.leaseId))
        match kept with
        | none => loseLeadership config tick
        | some _ => do
            let leaderInfo ← call .renewedRead
            if isOwn config leaderInfo then
              assign fun fields =>
                { fields with
                  leaderInfo := leaderInfo
                  leaderLease := some ⟨lease.leaseId, renewAt config tick⟩ }
            else loseLeadership config tick

/-- What a follower does. -/
def follow : Routine Unit := do
  let fields ← self
  if fields.nextLeaderPollAt ≤ tick.now then do
    let leaderInfo ← call .pollRead
    assign fun fields =>
      { fields with
        leaderInfo := leaderInfo
        ready := true
        nextLeaderPollAt := tick.now + config.followerPollSeconds }
  else pure ()
  let polled ← self
  if polled.leaderInfo = none ∧ polled.nextElectionAttemptAt ≤ tick.now then
    attemptLeadership config tick
  else pure ()

/-- `value or other` of two times. -/
def timeOr (value other : Rat) : Rat := if value = 0 then other else value

def nextSleep (fields : Fields) : Rat :=
  let targets := [tick.now + config.followerPollSeconds] ++
    (fields.presenceLease.map LeaseState.renewAt).toList ++
    (fields.leaderLease.map LeaseState.renewAt).toList ++
    (if fields.isLeader then []
    else
      [timeOr fields.nextElectionAttemptAt (tick.now + config.standbyRetryMinSeconds),
        timeOr fields.nextLeaderPollAt (tick.now + config.followerPollSeconds)])
  let nextAt := targets.foldl min (tick.now + config.followerPollSeconds)
  max (1 / 20) (min 1 (nextAt - tick.now))

def runOnce : Routine Rat :=
  if config.enabled then do
    ensurePresence config tick
    let fields ← self
    if fields.isLeader then renewLeader config tick else follow config tick
    let after ← self
    pure (nextSleep config tick after)
  else do
    assign fun fields => { fields with isLeader := true, ready := true }
    pure 1

end Service

end Authority
end K1s
