import K1s.Etcd.Listing
import K1s.Lib.Machine
import K1s.Py.Time

/-!
# Leases of the nodes

`acquire_lease` gives the lease of a node to a session, and `renew_lease` extends it
for the session that holds it.  The SQLite table has one row for a node.  The etcd
store keeps a record under the site and the node, and a renewal takes the first
record of the node in the order of the keys.

The main result is that the two stores give the same outcomes, and that only the
session of the latest acquisition renews, as long as no node with a lease acquires
under another key and no key is acquired for another node.
-/

namespace K1s
namespace Nodes

open Py Machine

/-! ## Leases and calls -/

/-- `NodeLease`.  Times are in microseconds. -/
structure NodeLease where
  nodeId : String
  siteId : String
  sessionId : String
  leaseId : String
  controllerEpoch : Int
  leaseTtlMs : Int
  renewAfterMs : Int
  lastRenewAt : Int
  expiresAt : Int
  deriving DecidableEq

/-- The arguments of `acquire_lease`, the time of the call and the id that `uuid4`
draws. -/
structure AcquireCall where
  siteId : String
  nodeId : String
  sessionId : String
  leaseTtlMs : Int
  renewAfterMs : Int
  controllerEpoch : Int
  now : Int
  leaseId : String

/-- The arguments of `renew_lease`, with the time that it takes for now. -/
structure RenewCall where
  nodeId : String
  sessionId : String
  leaseId : String
  now : Int

inductive LeaseCall
  | acquire (call : AcquireCall)
  | renew (call : RenewCall)

/-- What a call returns. -/
inductive LeaseOutcome
  | lease (lease : NodeLease)
  | refused (reason : String)
  deriving DecidableEq

/-- The lease that an acquisition makes, `none` if its end is no `datetime`. -/
def AcquireCall.lease (call : AcquireCall) : Option NodeLease :=
  (addMilliseconds call.now call.leaseTtlMs).map fun expiresAt =>
    { nodeId := call.nodeId
      siteId := call.siteId
      sessionId := call.sessionId
      leaseId := call.leaseId
      controllerEpoch := call.controllerEpoch
      leaseTtlMs := call.leaseTtlMs
      renewAfterMs := call.renewAfterMs
      lastRenewAt := call.now
      expiresAt := expiresAt }

/-- What a renewal comes to, given the lease that it has found. -/
inductive RenewVerdict
  | refused (reason : String)
  /-- The lease is deleted. -/
  | expired (found : NodeLease)
  /-- The new end is no `datetime`, and the call raises. -/
  | overflow
  | renewed (lease : NodeLease)

/-- The decisions of `renew_lease`. -/
def RenewCall.verdict (call : RenewCall) : Option NodeLease → RenewVerdict
  | none => .refused "unknown_lease"
  | some found =>
      if found.sessionId ≠ call.sessionId then .refused "invalid_session"
      else if found.leaseId ≠ call.leaseId then .refused "unknown_lease"
      else if found.expiresAt ≤ call.now then .expired found
      else
        match addMilliseconds call.now found.leaseTtlMs with
        | none => .overflow
        | some expiresAt =>
            .renewed { found with lastRenewAt := call.now, expiresAt := expiresAt }

/-- What the call returns, `none` if it raises. -/
def RenewVerdict.outcome : RenewVerdict → Option LeaseOutcome
  | .refused reason => some (.refused reason)
  | .expired _ => some (.refused "expired")
  | .overflow => none
  | .renewed lease => some (.lease lease)

/-! ## The SQLite store -/

/-- The table `node_leases`. -/
structure SqliteLeases where
  rows : Dictionary String NodeLease
  keyed : ∀ nodeId lease, rows.find? nodeId = some lease → nodeId = lease.nodeId

/-- A number that can be bound to an `INTEGER` column. -/
def SqlInteger (value : Int) : Prop := -(2 ^ 63) ≤ value ∧ value < 2 ^ 63

instance (value : Int) : Decidable (SqlInteger value) :=
  inferInstanceAs (Decidable (_ ∧ _))

namespace SqliteLeases

def empty : SqliteLeases := ⟨.empty, by simp⟩

/-- The row of the node is replaced or updated. -/
def put (leases : SqliteLeases) (lease : NodeLease) : SqliteLeases where
  rows := leases.rows.set lease.nodeId lease
  keyed := by
    intro nodeId found same
    rw [Dictionary.find?_set] at same
    split at same
    · next equal =>
        obtain rfl := Option.some.inj same
        exact equal.symm
    · exact leases.keyed nodeId found same

def delete (leases : SqliteLeases) (nodeId : String) : SqliteLeases where
  rows := leases.rows.drop nodeId
  keyed := by
    intro other found same
    rw [Dictionary.find?_drop] at same
    split at same
    · cases same
    · exact leases.keyed other found same

/-- `acquire_lease`.  The row is deleted and inserted in one transaction, which is
rolled back if a number cannot be bound. -/
def acquireLease
    (leases : SqliteLeases)
    (call : AcquireCall) : Option LeaseOutcome × SqliteLeases :=
  match call.lease with
  | none => (none, leases)
  | some lease =>
      if SqlInteger lease.controllerEpoch ∧ SqlInteger lease.leaseTtlMs ∧
          SqlInteger lease.renewAfterMs then
        (some (.lease lease), leases.put lease)
      else (none, leases)

def renewLease
    (leases : SqliteLeases)
    (call : RenewCall) : Option LeaseOutcome × SqliteLeases :=
  let verdict := call.verdict (leases.rows.find? call.nodeId)
  (verdict.outcome,
    match verdict with
    | .expired _ => leases.delete call.nodeId
    | .renewed lease => leases.put lease
    | _ => leases)

end SqliteLeases

/-! ## The etcd store -/

/-- `_k("node_leases", site_id, node_id)`. -/
def leaseKey (root : String) (siteId nodeId : String) : Etcd.Key :=
  Etcd.k root ["node_leases", siteId, nodeId]

def NodeLease.key (root : String) (lease : NodeLease) : Etcd.Key :=
  leaseKey root lease.siteId lease.nodeId

/-- The records under their keys. -/
structure EtcdLeases (root : String) where
  records : Dictionary Etcd.Key NodeLease
  keyed : ∀ key lease, records.find? key = some lease → key = lease.key root

namespace EtcdLeases

variable {root : String}

def empty (root : String) : EtcdLeases root := ⟨.empty, by simp⟩

/-- `_put_json` at the key of the record. -/
def put (leases : EtcdLeases root) (lease : NodeLease) : EtcdLeases root where
  records := leases.records.set (lease.key root) lease
  keyed := by
    intro key found same
    rw [Dictionary.find?_set] at same
    split at same
    · next equal =>
        obtain rfl := Option.some.inj same
        exact equal.symm
    · exact leases.keyed key found same

/-- `_delete` at the key of the record. -/
def delete (leases : EtcdLeases root) (lease : NodeLease) : EtcdLeases root where
  records := leases.records.drop (lease.key root)
  keyed := by
    intro key found same
    rw [Dictionary.find?_drop] at same
    split at same
    · cases same
    · exact leases.keyed key found same

/-- The first listed record of the node. -/
def leaseOf (leases : EtcdLeases root) (nodeId : String) : Option NodeLease :=
  ((Etcd.rowsUnder leases.records (Etcd.k root ["node_leases"])).map Prod.snd).find?
    fun lease => lease.nodeId = nodeId

def acquireLease
    (leases : EtcdLeases root)
    (call : AcquireCall) : Option LeaseOutcome × EtcdLeases root :=
  match call.lease with
  | none => (none, leases)
  | some lease => (some (.lease lease), leases.put lease)

def renewLease
    (leases : EtcdLeases root)
    (call : RenewCall) : Option LeaseOutcome × EtcdLeases root :=
  let verdict := call.verdict (leases.leaseOf call.nodeId)
  (verdict.outcome,
    match verdict with
    | .expired found => leases.delete found
    | .renewed lease => leases.put lease
    | _ => leases)

end EtcdLeases

/-! ## The two stores side by side -/

/-- The two stores, and the session of the latest acquisition of every node. -/
structure LeaseStores (root : String) where
  etcd : EtcdLeases root
  sqlite : SqliteLeases
  latest : Dictionary String String

namespace LeaseStores

variable {root : String}

def empty (root : String) : LeaseStores root := ⟨.empty root, .empty, .empty⟩

def etcdOutcome (stores : LeaseStores root) : LeaseCall → Option LeaseOutcome
  | .acquire call => (stores.etcd.acquireLease call).1
  | .renew call => (stores.etcd.renewLease call).1

def sqliteOutcome (stores : LeaseStores root) : LeaseCall → Option LeaseOutcome
  | .acquire call => (stores.sqlite.acquireLease call).1
  | .renew call => (stores.sqlite.renewLease call).1

/-- A call is made on both stores. -/
def step (stores : LeaseStores root) (call : LeaseCall) : Option (LeaseStores root) :=
  some (match call with
    | .acquire call =>
        { etcd := (stores.etcd.acquireLease call).2
          sqlite := (stores.sqlite.acquireLease call).2
          latest :=
            if call.lease.isSome then stores.latest.set call.nodeId call.sessionId
            else stores.latest }
    | .renew call =>
        { stores with
          etcd := (stores.etcd.renewLease call).2
          sqlite := (stores.sqlite.renewLease call).2 })

/-- The outcomes are the same, and a renewal that succeeds in either store is that of
the session of the latest acquisition. -/
structure Agrees (stores : LeaseStores root) (call : LeaseCall) : Prop where
  same : stores.etcdOutcome call = stores.sqliteOutcome call
  newest : ∀ renewal lease, call = .renew renewal → stores.etcdOutcome call = some (.lease lease) ∨
      stores.sqliteOutcome call = some (.lease lease) →
    stores.latest.find? renewal.nodeId = some renewal.sessionId

/-- A node that acquires and has a lease has it under the same key, the key is not
that of another node's record, and the numbers can be bound. -/
structure Settled (stores : LeaseStores root) (call : AcquireCall) : Prop where
  stays : ∀ lease, stores.sqlite.rows.find? call.nodeId = some lease →
    lease.key root = leaseKey root call.siteId call.nodeId
  own : ∀ lease, stores.etcd.records.find? (leaseKey root call.siteId call.nodeId) =
    some lease → lease.nodeId = call.nodeId
  fits : SqlInteger call.controllerEpoch ∧ SqlInteger call.leaseTtlMs ∧
    SqlInteger call.renewAfterMs

/-- An acquisition that makes a lease is settled. -/
def AcquiresSettled (stores : LeaseStores root) : LeaseCall → Prop
  | .acquire call => call.lease.isSome → stores.Settled call
  | .renew _ => True

/-! ## The same leases in both stores -/

/-- The stores have the same leases, each of the session that acquired last. -/
structure Matched (stores : LeaseStores root) : Prop where
  leases : ∀ lease, stores.etcd.records.find? (lease.key root) = some lease ↔
    stores.sqlite.rows.find? lease.nodeId = some lease
  latest : ∀ nodeId lease, stores.sqlite.rows.find? nodeId = some lease →
    stores.latest.find? nodeId = some lease.sessionId

theorem matched_empty (root : String) : (LeaseStores.empty root).Matched where
  leases _ := Iff.rfl
  latest _ _ found := by cases found

theorem Matched.leaseOf_eq
    {stores : LeaseStores root} (matched : stores.Matched)
    (nodeId : String) : stores.etcd.leaseOf nodeId = stores.sqlite.rows.find? nodeId := by
  cases found : stores.etcd.leaseOf nodeId with
  | some lease =>
      have ofNode : lease.nodeId = nodeId := by simpa using List.find?_some found
      obtain ⟨⟨key, listed⟩, isRow, rfl⟩ := List.mem_map.mp (List.mem_of_find?_eq_some found)
      obtain ⟨stored, -⟩ := (Etcd.mem_rowsUnder _ _ _ _).mp isRow
      rw [stores.etcd.keyed key listed stored] at stored
      rw [← ofNode, (matched.leases listed).mp stored]
  | none =>
      cases present : stores.sqlite.rows.find? nodeId with
      | none => rfl
      | some lease =>
          have ofNode := stores.sqlite.keyed nodeId lease present
          rw [ofNode] at present
          have stored := (matched.leases lease).mpr present
          have starts : Etcd.k root ["node_leases"] <+: lease.key root :=
            ⟨_, (Etcd.k_append root "node_leases" [] [lease.siteId, lease.nodeId]
              (by decide)).symm⟩
          have listed := (Etcd.mem_rowsUnder _ _ _ _).mpr ⟨stored, starts⟩
          have none := List.find?_eq_none.mp found lease (List.mem_map_of_mem listed)
          exact absurd ofNode.symm (by simpa using none)

/-- Putting a lease into both stores keeps them the same. -/
theorem Matched.leases_put
    {stores : LeaseStores root} (matched : stores.Matched) (lease : NodeLease)
    (stays : ∀ old, stores.sqlite.rows.find? lease.nodeId = some old →
      old.key root = lease.key root)
    (own : ∀ old, stores.etcd.records.find? (lease.key root) = some old →
      old.nodeId = lease.nodeId)
    (other : NodeLease) :
    (stores.etcd.put lease).records.find? (other.key root) = some other ↔
      (stores.sqlite.put lease).rows.find? other.nodeId = some other := by
  simp only [EtcdLeases.put, SqliteLeases.put, Dictionary.find?_set]
  have before := matched.leases other
  by_cases sameKey : lease.key root = other.key root <;>
    by_cases sameNode : lease.nodeId = other.nodeId
  · rw [if_pos sameKey, if_pos sameNode]
  · rw [if_pos sameKey, if_neg sameNode, ← before]
    constructor
    · intro equal
      obtain rfl := Option.some.inj equal
      exact absurd rfl sameNode
    · intro found
      exact absurd (own other (sameKey ▸ found)).symm sameNode
  · rw [if_neg sameKey, if_pos sameNode, before]
    constructor
    · intro found
      exact absurd (stays other (sameNode ▸ found)).symm sameKey
    · intro equal
      obtain rfl := Option.some.inj equal
      exact absurd rfl sameKey
  · rw [if_neg sameKey, if_neg sameNode, before]

/-- Deleting a lease that both stores have keeps them the same. -/
theorem Matched.leases_delete
    {stores : LeaseStores root} (matched : stores.Matched) {lease : NodeLease}
    (found : stores.sqlite.rows.find? lease.nodeId = some lease) (other : NodeLease) :
    (stores.etcd.delete lease).records.find? (other.key root) = some other ↔
      (stores.sqlite.delete lease.nodeId).rows.find? other.nodeId = some other := by
  simp only [EtcdLeases.delete, SqliteLeases.delete, Dictionary.find?_drop]
  have before := matched.leases other
  have stored := (matched.leases lease).mpr found
  by_cases sameKey : lease.key root = other.key root <;>
    by_cases sameNode : lease.nodeId = other.nodeId
  · rw [if_pos sameKey, if_pos sameNode]
  · rw [if_pos sameKey, if_neg sameNode, ← before]
    refine iff_of_false nofun fun otherStored => ?_
    rw [← sameKey, stored] at otherStored
    exact sameNode (congrArg NodeLease.nodeId (Option.some.inj otherStored))
  · rw [if_neg sameKey, if_pos sameNode, before]
    refine iff_of_false (fun otherFound => ?_) nofun
    rw [← sameNode, found] at otherFound
    exact sameKey (congrArg (NodeLease.key root) (Option.some.inj otherFound))
  · rw [if_neg sameKey, if_neg sameNode, before]

/-! ## One call -/

theorem verdict_renewed
    {call : RenewCall} {found : Option NodeLease} {lease : NodeLease}
    (renewed : call.verdict found = .renewed lease) :
    ∃ old, found = some old ∧ old.sessionId = call.sessionId ∧
      lease.nodeId = old.nodeId ∧ lease.siteId = old.siteId ∧ lease.sessionId = old.sessionId := by
  cases found with
  | none => cases renewed
  | some old =>
      simp only [RenewCall.verdict] at renewed
      split at renewed
      · cases renewed
      · next session =>
          split at renewed
          · cases renewed
          · split at renewed
            · cases renewed
            · split at renewed
              · cases renewed
              · obtain rfl := RenewVerdict.renewed.inj renewed
                exact ⟨old, rfl, not_not.mp session, rfl, rfl, rfl⟩

theorem verdict_expired
    {call : RenewCall} {found : Option NodeLease} {lease : NodeLease}
    (expired : call.verdict found = .expired lease) : found = some lease := by
  cases found with
  | none => cases expired
  | some old =>
      simp only [RenewCall.verdict] at expired
      split at expired
      · cases expired
      · split at expired
        · cases expired
        · split at expired
          · exact congrArg some (RenewVerdict.expired.inj expired)
          · split at expired <;> cases expired

/-- A lease is returned by a renewal only. -/
theorem verdict_of_outcome
    {verdict : RenewVerdict} {lease : NodeLease}
    (returned : verdict.outcome = some (.lease lease)) : verdict = .renewed lease := by
  cases verdict with
  | refused => cases returned
  | expired => cases returned
  | overflow => cases returned
  | renewed found => exact congrArg _ (LeaseOutcome.lease.inj (Option.some.inj returned))

/-- The stores stay the same when a node acquires that is settled. -/
theorem Matched.acquire
    {stores next : LeaseStores root} {call : AcquireCall} (matched : stores.Matched)
    (settled : call.lease.isSome → stores.Settled call)
    (stepped : stores.step (.acquire call) = some next) :
    stores.Agrees (.acquire call) ∧ next.Matched := by
  obtain rfl := Option.some.inj stepped
  cases made : call.lease with
  | none =>
      refine ⟨⟨?_, nofun⟩, ?_⟩
      · simp [etcdOutcome, sqliteOutcome, EtcdLeases.acquireLease, SqliteLeases.acquireLease, made]
      · simpa [EtcdLeases.acquireLease, SqliteLeases.acquireLease, made] using matched
  | some lease =>
      obtain ⟨stays, own, fits⟩ := settled (by rw [made, Option.isSome_some])
      have fields : lease.nodeId = call.nodeId ∧ lease.siteId = call.siteId ∧
          lease.sessionId = call.sessionId ∧ lease.controllerEpoch = call.controllerEpoch ∧
          lease.leaseTtlMs = call.leaseTtlMs ∧ lease.renewAfterMs = call.renewAfterMs := by
        obtain ⟨expiresAt, -, rfl⟩ := Option.map_eq_some_iff.mp made
        exact ⟨rfl, rfl, rfl, rfl, rfl, rfl⟩
      obtain ⟨sameNode, sameSite, sameSession, sameEpoch, sameTtl, sameRenew⟩ := fields
      have bound : SqlInteger lease.controllerEpoch ∧ SqlInteger lease.leaseTtlMs ∧
          SqlInteger lease.renewAfterMs := by rwa [sameEpoch, sameTtl, sameRenew]
      have sameKey : lease.key root = leaseKey root call.siteId call.nodeId := by
        rw [NodeLease.key, sameNode, sameSite]
      refine ⟨⟨?_, nofun⟩, ?_⟩
      · simp [etcdOutcome, sqliteOutcome, EtcdLeases.acquireLease, SqliteLeases.acquireLease,
          made, bound]
      · simp only [EtcdLeases.acquireLease, SqliteLeases.acquireLease, made, bound, and_self,
          if_true, Option.isSome_some]
        refine ⟨matched.leases_put lease ?_ ?_, fun nodeId found isFound => ?_⟩
        · intro old present
          rw [sameNode] at present
          rw [stays old present, sameKey]
        · intro old present
          rw [sameKey] at present
          rw [own old present, sameNode]
        · simp only [SqliteLeases.put, Dictionary.find?_set, sameNode] at isFound ⊢
          split at isFound
          · next equal =>
              obtain rfl := Option.some.inj isFound
              rw [if_pos equal, sameSession]
          · next apart =>
              rw [if_neg apart]
              exact matched.latest nodeId found isFound

/-- A renewal has the same outcome in stores that are the same, and leaves them so. -/
theorem Matched.renew
    {stores next : LeaseStores root} {call : RenewCall} (matched : stores.Matched)
    (stepped : stores.step (.renew call) = some next) :
    stores.Agrees (.renew call) ∧ next.Matched := by
  obtain rfl := Option.some.inj stepped
  have same := matched.leaseOf_eq call.nodeId
  refine ⟨⟨?_, ?_⟩, ?_⟩
  · simp only [etcdOutcome, sqliteOutcome, EtcdLeases.renewLease, SqliteLeases.renewLease, same]
  · rintro renewal lease equal returned
    obtain rfl := LeaseCall.renew.inj equal
    simp only [etcdOutcome, sqliteOutcome, EtcdLeases.renewLease, SqliteLeases.renewLease, same,
      or_self] at returned
    obtain ⟨old, found, session, -⟩ := verdict_renewed (verdict_of_outcome returned)
    rw [matched.latest call.nodeId old found, session]
  · simp only [EtcdLeases.renewLease, SqliteLeases.renewLease, same]
    cases verdict : call.verdict (stores.sqlite.rows.find? call.nodeId) with
    | refused => exact matched
    | overflow => exact matched
    | expired lease =>
        have found := verdict_expired verdict
        have ofNode := stores.sqlite.keyed call.nodeId lease found
        have present : stores.sqlite.rows.find? lease.nodeId = some lease := ofNode ▸ found
        refine ⟨?_, fun nodeId other isFound => ?_⟩
        · rw [ofNode]
          exact matched.leases_delete present
        · simp only [SqliteLeases.delete, Dictionary.find?_drop] at isFound
          split at isFound
          · cases isFound
          · exact matched.latest nodeId other isFound
    | renewed lease =>
        obtain ⟨old, found, session, sameNode, sameSite, sameSession⟩ := verdict_renewed verdict
        have ofNode := stores.sqlite.keyed call.nodeId old found
        have present : stores.sqlite.rows.find? old.nodeId = some old := ofNode ▸ found
        have stored := (matched.leases old).mpr present
        have sameKey : lease.key root = old.key root := by
          rw [NodeLease.key, NodeLease.key, sameNode, sameSite]
        refine ⟨matched.leases_put lease ?_ ?_, fun nodeId other isFound => ?_⟩
        · intro other isFound
          rw [sameNode, present] at isFound
          obtain rfl := Option.some.inj isFound
          exact sameKey.symm
        · intro other isFound
          rw [sameKey, stored] at isFound
          obtain rfl := Option.some.inj isFound
          exact sameNode.symm
        · simp only [SqliteLeases.put, Dictionary.find?_set] at isFound
          split at isFound
          · next equal =>
              obtain rfl := Option.some.inj isFound
              rw [← equal, sameNode, ← ofNode, matched.latest call.nodeId old found, sameSession]
          · exact matched.latest nodeId other isFound

/-- Calls whose acquisitions are settled have the same outcomes in both stores, and
only the session of the latest acquisition renews. -/
theorem agrees_of_acquiresSettled
    (root : String) (calls : List LeaseCall)
    (settled : Along LeaseStores.step AcquiresSettled (LeaseStores.empty root) calls) :
    Along LeaseStores.step Agrees (LeaseStores.empty root) calls := by
  have one : ∀ (stores : LeaseStores root) call next, stores.Matched →
      stores.AcquiresSettled call → stores.step call = some next →
        stores.Agrees call ∧ next.Matched := by
    intro stores call next matched holds stepped
    cases call with
    | acquire call => exact matched.acquire holds stepped
    | renew call => exact matched.renew stepped
  exact along_of_invariant
    (fun stores call next matched holds stepped => (one stores call next matched holds stepped).2)
    (fun stores call matched holds => (one stores call _ matched holds rfl).1)
    (matched_empty root) settled

/-! ## A node that is renewed, and a node that moves -/

/-- An acquisition of the node n1 for a minute. -/
def acquireFor (siteId sessionId leaseId : String) : LeaseCall :=
  .acquire ⟨siteId, "n1", sessionId, 60000, 30000, 1, 0, leaseId⟩

/-- The node acquires twice and renews, all in one site. -/
def oneSite : List LeaseCall :=
  [acquireFor "a" "s1" "l1", acquireFor "a" "s2" "l2", .renew ⟨"n1", "s2", "l2", 1000⟩]

/-- The node acquires in one site and then in another, and its old session renews. -/
def movedNode : List LeaseCall :=
  [acquireFor "a" "s1" "l1", acquireFor "b" "s2" "l2", .renew ⟨"n1", "s1", "l1", 1000⟩]

theorem agrees_oneSite :
    Along LeaseStores.step AcquiresSettled (LeaseStores.empty "k1s") oneSite ∧
      Along LeaseStores.step Agrees (LeaseStores.empty "k1s") oneSite := by
  have settled : Along LeaseStores.step AcquiresSettled (LeaseStores.empty "k1s") oneSite := by
    refine ⟨fun _ => ⟨nofun, nofun, by decide⟩, fun second stepped => ?_⟩
    obtain rfl := Option.some.inj stepped
    refine ⟨fun _ => ⟨?_, ?_, by decide⟩, fun third _ => ⟨trivial, fun _ _ => trivial⟩⟩
    · intro lease found
      obtain rfl := Option.some.inj found
      rfl
    · intro lease found
      obtain rfl := Option.some.inj found
      rfl
  exact ⟨settled, agrees_of_acquiresSettled "k1s" oneSite settled⟩

def leaseFor (siteId sessionId leaseId : String) : NodeLease :=
  ⟨"n1", siteId, sessionId, leaseId, 1, 60000, 30000, 0, 60000000⟩

/-- The record of the first site is listed first. -/
theorem leaseOf_movedNode :
    (((EtcdLeases.empty "k1s").put (leaseFor "a" "s1" "l1")).put
      (leaseFor "b" "s2" "l2")).leaseOf "n1" = some (leaseFor "a" "s1" "l1") := by
  have sorted : Etcd.rowsUnder (((EtcdLeases.empty "k1s").put (leaseFor "a" "s1" "l1")).put
        (leaseFor "b" "s2" "l2")).records (Etcd.k "k1s" ["node_leases"]) =
      [((leaseFor "a" "s1" "l1").key "k1s", leaseFor "a" "s1" "l1"),
        ((leaseFor "b" "s2" "l2").key "k1s", leaseFor "b" "s2" "l2")] :=
    List.mergeSort_of_pairwise (by decide +kernel)
  rw [EtcdLeases.leaseOf, sorted]
  rfl

/-- The old session renews the lease of the site that the node has left. -/
theorem not_agrees_movedNode :
    ¬ Along LeaseStores.step Agrees (LeaseStores.empty "k1s") movedNode := by
  intro along
  have third := ((along.2 _ rfl).2 _ rfl).1
  have same : (RenewCall.verdict ⟨"n1", "s1", "l1", 1000⟩
        ((((EtcdLeases.empty "k1s").put (leaseFor "a" "s1" "l1")).put
          (leaseFor "b" "s2" "l2")).leaseOf "n1")).outcome =
      (RenewCall.verdict ⟨"n1", "s1", "l1", 1000⟩ (some (leaseFor "b" "s2" "l2"))).outcome :=
    third.same
  rw [leaseOf_movedNode] at same
  exact absurd same (by decide)

end LeaseStores

end Nodes
end K1s
