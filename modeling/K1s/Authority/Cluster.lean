import K1s.Lib.Machine
import K1s.Authority.Service

/-!
# Controllers that share a leader key

Any number of controllers call `run_once` on one etcd.  A step is one call to the
store together with the local code up to the next call, an expiry of a lease, a write
of another key, or the late arrival of a claim whose caller has given up on it.  A
call may fail before or after the store has executed it.

etcd creates the leader key only if it is absent and under a lease that is alive,
deletes it with its lease, and gives every write a new revision.

The state remembers which leaderships have begun, and which claims have created the
leader key.
-/

namespace K1s
namespace Authority

/-! ## etcd -/

/-- The leader key: the record and its mod revision.  It is attached to the lease
that the record names. -/
structure LeaderKey where
  record : LeaderRecord
  modRevision : Nat
  deriving DecidableEq

/-- What etcd holds for the election. -/
structure Election where
  revision : Nat
  /-- The leases that are alive. -/
  leases : List Int
  leader : Option LeaderKey
  /-- Claims that are still on their way though their callers have given up. -/
  inFlight : List LeaderRecord
  /-- Every leader key that has been created, by its revision and the controller. -/
  created : List (Nat × String)
  deriving DecidableEq

/-- What etcd decides itself: the id of a lease that it grants, and the TTL that it
reports for a lease that is alive. -/
structure Draw where
  leaseId : Int
  ttl : Int
  deriving DecidableEq

/-- `_read_leader_info`, for the record and the revision of the key. -/
def LeaderKey.info (config : AuthorityConfig) (key : LeaderKey) : LeaderInfo where
  controllerId := key.record.controllerId
  controllerEpoch := key.modRevision
  leaseId := key.record.leaseId
  advertiseAddr := key.record.advertiseAddr.filter (· ≠ "")
  acquiredAt := key.record.acquiredAt
  version := if key.record.version = "" then config.version else key.record.version

namespace Election

/-- A new lease. -/
def grant (draw : Draw) (store : Election) : Option Int × Election :=
  if draw.leaseId ∈ store.leases then (none, store)
  else (some draw.leaseId, { store with leases := draw.leaseId :: store.leases })

/-- What a keepalive is answered with. -/
def remaining (draw : Draw) (leaseId : Int) (store : Election) : Int :=
  if leaseId ∈ store.leases then draw.ttl else 0

/-- A write of another key. -/
def written (store : Election) : Election :=
  { store with revision := store.revision + 1 }

/-- A lease ends, and the leader key with it if it is attached to it. -/
def expire (leaseId : Int) (store : Election) : Election :=
  if leaseId ∈ store.leases then
    { store with
      revision := store.revision + 1
      leases := store.leases.filter (· ≠ leaseId)
      leader := store.leader.filter fun key => key.record.leaseId ≠ leaseId }
  else store

/-- The transaction that creates the leader key if it is absent. -/
def claim (record : LeaderRecord) (store : Election) : Option Bool × Election :=
  match store.leader with
  | some _ => (some false, store)
  | none =>
      if record.leaseId ∈ store.leases then
        (some true,
          { store with
            revision := store.revision + 1
            leader := some ⟨record, store.revision + 1⟩
            created := (store.revision + 1, record.controllerId) :: store.created })
      else (none, store)

def execute
    (config : AuthorityConfig) (draw : Draw) (call : StoreCall)
    (store : Election) : Option call.Answer × Election :=
  match call with
  | .presenceGrant _ => store.grant draw
  | .electionGrant _ => store.grant draw
  | .presenceKeepalive leaseId => (some (store.remaining draw leaseId), store)
  | .leaderKeepalive leaseId => (some (store.remaining draw leaseId), store)
  | .presencePut leaseId _ =>
      if leaseId ∈ store.leases then (some (), store.written) else (none, store)
  | .claim record => store.claim record
  | .revoke leaseId =>
      if leaseId ∈ store.leases then (some (), store.expire leaseId) else (none, store)
  | .pollRead => (some (store.leader.map (LeaderKey.info config)), store)
  | .refusedRead => (some (store.leader.map (LeaderKey.info config)), store)
  | .claimedRead => (some (store.leader.map (LeaderKey.info config)), store)
  | .renewedRead => (some (store.leader.map (LeaderKey.info config)), store)
  | .lostRead => (some (store.leader.map (LeaderKey.info config)), store)

/-- The caller of a claim gives up, and the claim stays on its way.  Another call of
which this can be said has no effect on the election, or the one of an expiry. -/
def delay (call : StoreCall) (store : Election) : Election :=
  match call with
  | .claim record => { store with inFlight := record :: store.inFlight }
  | _ => store

/-- A claim arrives late. -/
def deliver (record : LeaderRecord) (store : Election) : Election :=
  (claim record { store with inFlight := store.inFlight.erase record }).2

end Election

/-! ## Interleavings -/

/-- What becomes of a call: it is executed and answered, it is not executed and
raises, it is executed and raises, or it raises and may be executed later. -/
inductive Fate
  | answered
  | requestLost
  | answerLost
  | delayed
  deriving DecidableEq

def Election.perform
    (config : AuthorityConfig) (fate : Fate) (draw : Draw) (call : StoreCall)
    (store : Election) : Option call.Answer × Election :=
  match fate with
  | .answered => store.execute config draw call
  | .requestLost => (none, store)
  | .answerLost => (none, (store.execute config draw call).2)
  | .delayed => (none, store.delay call)

/-- A call of `run_once` that is going on or has ended. -/
abbrev RunOnce := ServiceProgram (Option Rat × Fields)

/-- The fields of the service that others can see: as they stand while a call to the
store is under way, or at the end. -/
def visible : RunOnce → Fields
  | .done ended => ended.2
  | .raise => .initial
  | .perform operation _ => operation.fields

/-- `AuthoritySnapshot.controller_epoch`. -/
def Fields.controllerEpoch (fields : Fields) : Nat :=
  (fields.leaderInfo.map LeaderInfo.controllerEpoch).getD 0

/-- Controllers of one control plane.  Each has its own id, and each is enabled:
`start` calls `run_once` for no other. -/
structure Members (ι : Type) where
  config : ι → AuthorityConfig
  enabled : ∀ controller, (config controller).enabled = true
  distinct : ∀ first second,
    (config first).controllerId = (config second).controllerId → first = second

variable {ι : Type} [DecidableEq ι]

/-- The store, and the leaderships that have begun, in order, each with its epoch. -/
structure Shared (ι : Type) where
  store : Election
  begun : List (ι × Nat)

/-- A controller shows new fields.  If it did not lead before and leads now, a
leadership has begun. -/
def Shared.publish
    (controller : ι) (before after : Fields)
    (shared : Shared ι) : Shared ι :=
  if before.isLeader = false ∧ after.isLeader = true then
    { shared with begun := shared.begun ++ [(controller, after.controllerEpoch)] }
  else shared

/-- The shared state and what each controller is doing. -/
structure Cluster (ι : Type) where
  shared : Shared ι
  runs : ι → RunOnce

/-- What can happen next. -/
inductive ClusterAction (ι : Type)
  /-- The controller calls `run_once`. -/
  | start (controller : ι) (tick : Tick)
  /-- The store call that the controller is waiting for. -/
  | advance (controller : ι) (fate : Fate) (draw : Draw)
  /-- A lease runs out. -/
  | expire (leaseId : Int)
  /-- Another key is written. -/
  | write
  /-- A claim arrives late. -/
  | deliver (record : LeaderRecord)

namespace Cluster

def fields (cluster : Cluster ι) (controller : ι) : Fields := visible (cluster.runs controller)

/-- All services are new, and etcd holds no leader key. -/
def initial (revision : Nat) : Cluster ι where
  shared := ⟨⟨revision, [], none, [], []⟩, []⟩
  runs := fun _ => .done (none, .initial)

def step (members : Members ι) (cluster : Cluster ι) : ClusterAction ι → Option (Cluster ι)
  | .start controller tick =>
      match cluster.runs controller with
      | .done (_, before) =>
          let run := runOnce (members.config controller) tick before
          some
            { shared := cluster.shared.publish controller before (visible run)
              runs := Function.update cluster.runs controller run }
      | _ => none
  | .advance controller fate draw =>
      match cluster.runs controller with
      | .perform operation next =>
          let executed :=
            cluster.shared.store.perform (members.config controller) fate draw operation.call
          let run := next executed.1
          some
            { shared :=
                Shared.publish controller operation.fields (visible run)
                  { cluster.shared with store := executed.2 }
              runs := Function.update cluster.runs controller run }
      | _ => none
  | .expire leaseId =>
      some { cluster with
        shared := { cluster.shared with store := cluster.shared.store.expire leaseId } }
  | .write =>
      some { cluster with
        shared := { cluster.shared with store := cluster.shared.store.written } }
  | .deliver record =>
      if record ∈ cluster.shared.store.inFlight then
        some { cluster with
          shared := { cluster.shared with store := cluster.shared.store.deliver record } }
      else none

end Cluster

end Authority
end K1s
