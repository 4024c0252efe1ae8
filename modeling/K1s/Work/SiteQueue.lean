import K1s.Py.Time
import K1s.Etcd.Listing
import K1s.Work.Writers

/-!
# The queue of a site

`pull_work` leases pending work items to the gateway of a site, and first gives
back the items whose leases have expired.  The SQLite store filters its rows by the
column `site_id`; the etcd store lists the keys that start with the key of the
site, which are also those of any site whose id continues this one.

An item is kept with its times in microseconds.  The ledger is updated as well, and
nothing that is said here depends on it.
-/

namespace K1s
namespace Work

open Py

/-! ## Items -/

inductive QueueState
  | pending
  | leased
  | acked
  | done
  deriving DecidableEq

structure QueueItem where
  workId : String
  attempt : Int
  siteId : String
  payload : Dict
  state : QueueState
  leaseId : Option String
  leasedAt : Option Int
  leaseExpiresAt : Option Int
  ackedAt : Option Int
  createdAt : Int
  updatedAt : Int
  deriving DecidableEq

structure WorkQueueLease where
  workId : String
  attempt : Int
  siteId : String
  payload : Dict
  leaseId : String
  leaseExpiresAt : Int

/-- The arguments of `pull_work`, the time of the call and the ids that `uuid4`
draws. -/
structure PullCall where
  siteId : String
  limit : Int
  visibilityTimeoutMs : Int
  now : Int
  newId : Nat → String

namespace QueueItem

variable (item : QueueItem) (now : Int)

/-- The lease of the item has expired. -/
def expired : Bool :=
  (decide (item.state = .leased) || decide (item.state = .acked)) &&
    item.leaseExpiresAt.any fun expires => decide (expires < now)

/-- The item is given back. -/
def reset : QueueItem :=
  { item with
    state := .pending
    leaseId := none
    leasedAt := none
    leaseExpiresAt := none
    ackedAt := none
    updatedAt := now }

/-- The item after the pass over the expired leases. -/
def refreshed : QueueItem := if item.expired now then item.reset now else item

def lease (leaseId : String) (expires : Int) : QueueItem :=
  { item with
    state := .leased
    leaseId := some leaseId
    leasedAt := some now
    leaseExpiresAt := some expires
    updatedAt := now }

def handOut (siteId leaseId : String) (expires : Int) : WorkQueueLease where
  workId := item.workId
  attempt := item.attempt
  siteId := siteId
  payload := item.payload
  leaseId := leaseId
  leaseExpiresAt := expires

end QueueItem

/-- `lease_expires_at`, `none` for the `OverflowError` of a time after the year
9999. -/
def PullCall.leaseExpiresAt (call : PullCall) : Option Int :=
  let expires := call.now + 1000 * max 0 call.visibilityTimeoutMs
  if expires ≤ datetimeMax then some expires else none

/-! ## The etcd store -/

def sliceTo {α : Type} (limit : Int) (rows : List α) : List α :=
  if 0 ≤ limit then rows.take limit.toNat else rows.take (rows.length - (-limit).toNat)

def queueKey (root : String) (item : QueueItem) : Etcd.Key :=
  Etcd.k root ["work_queue", item.siteId, item.workId, toString item.attempt]

/-- The key that `pull_work` lists. -/
def siteQueueKey (root siteId : String) : Etcd.Key :=
  Etcd.k root ["work_queue", siteId]

/-- The items under their keys, and the ledger. -/
structure EtcdQueue (root : String) where
  items : Dictionary Etcd.Key QueueItem
  keyed : ∀ key item, items.find? key = some item → key = queueKey root item
  ledger : Dictionary Etcd.Key LedgerRow

/-- `update_work_state` to `Dispatched`, with its exceptions swallowed. -/
def dispatched
    (root : String) (item : QueueItem) (now : Int)
    (ledger : Dictionary Etcd.Key LedgerRow) : Dictionary Etcd.Key LedgerRow :=
  match ledger.find? (ledgerKey root item.workId) with
  | none => ledger
  | some row =>
      if row.attempt = item.attempt then
        ledger.set (ledgerKey root item.workId)
          { row with
            state := .dispatched
            updatedAt := isoformat now
            stateUpdatedAt := isoformat now }
      else ledger

def EtcdQueue.put {root : String} (queue : EtcdQueue root) (item : QueueItem) :
    EtcdQueue root where
  items := queue.items.set (queueKey root item) item
  keyed := by
    intro key found same
    rw [Dictionary.find?_set] at same
    split at same
    · next equal =>
        obtain rfl := Option.some.inj same
        exact equal.symm
    · exact queue.keyed key found same
  ledger := queue.ledger

namespace EtcdQueue

variable {root : String} (queue : EtcdQueue root) (call : PullCall)

def rows : List (Etcd.Key × QueueItem) :=
  Etcd.rowsUnder queue.items (siteQueueKey root call.siteId)

/-- The pass over the rows that gives back the items whose leases have expired. -/
def resetExpired : EtcdQueue root :=
  (queue.rows call).foldl (fun reached row =>
    if row.2.expired call.now then reached.put (row.2.reset call.now) else reached) queue

/-- The pending rows, the oldest first. -/
def pendingRows : List (Etcd.Key × QueueItem) :=
  ((queue.rows call).filter fun row => decide (row.2.state = .pending)).mergeSort
    fun first second => decide (first.2.createdAt ≤ second.2.createdAt)

/-- The loop that leases the chosen rows, from the draw with this number on. -/
def leaseRows (expires : Int) :
    List (Etcd.Key × QueueItem) → Nat → EtcdQueue root → List WorkQueueLease × EtcdQueue root
  | [], _, queue => ([], queue)
  | (_, item) :: rest, draw, queue =>
      let leased := queue.put (item.lease call.now (call.newId draw) expires)
      let (leases, finish) := leaseRows expires rest (draw + 1)
        { leased with ledger := dispatched root item call.now leased.ledger }
      (item.handOut call.siteId (call.newId draw) expires :: leases, finish)

/-- `pull_work`, with `none` for an exception. -/
def pullWork : Option (List WorkQueueLease × EtcdQueue root) :=
  call.leaseExpiresAt.map fun expires =>
    let refreshed := queue.resetExpired call
    leaseRows call expires (sliceTo call.limit (refreshed.pendingRows call)) 0 refreshed

end EtcdQueue

/-! ## The SQLite store -/

/-- The table `work_queue`. -/
structure QueueTable where
  items : Dictionary (String × Int) QueueItem
  keyed : ∀ key item, items.find? key = some item → key = (item.workId, item.attempt)

/-- An update of every row. -/
def QueueTable.update
    (table : QueueTable) (change : QueueItem → QueueItem)
    (keeps : ∀ item, (change item).workId = item.workId ∧
      (change item).attempt = item.attempt) : QueueTable where
  items := table.items.mapValues change
  keyed := by
    intro key item found
    rw [Dictionary.find?_mapValues] at found
    obtain ⟨old, present, rfl⟩ := Option.map_eq_some_iff.mp found
    rw [(keeps old).1, (keeps old).2]
    exact table.keyed key old present

/-- One row is set. -/
def QueueTable.put (table : QueueTable) (item : QueueItem) : QueueTable where
  items := table.items.set (item.workId, item.attempt) item
  keyed := by
    intro key found same
    rw [Dictionary.find?_set] at same
    split at same
    · next equal =>
        obtain rfl := Option.some.inj same
        exact equal.symm
    · exact table.keyed key found same

namespace QueueTable

variable (table : QueueTable) (call : PullCall)

/-- The first statement: every expired lease is given back, whatever its site. -/
def resetExpired : QueueTable :=
  table.update (fun item => item.refreshed call.now) fun item => by
    unfold QueueItem.refreshed
    split <;> exact ⟨rfl, rfl⟩

/-- The second statement: the pending rows of the site, the oldest first. -/
def pendingRows : List ((String × Int) × QueueItem) :=
  limited call.limit ((table.items.entries.filter fun row =>
      decide (row.2.siteId = call.siteId) && decide (row.2.state = .pending)).mergeSort
      fun first second => decide (first.2.createdAt ≤ second.2.createdAt))

/-- The loop over the chosen rows, from the draw with this number on. -/
def leaseRows (expires : Int) :
    List ((String × Int) × QueueItem) → Nat → QueueTable → List WorkQueueLease × QueueTable
  | [], _, table => ([], table)
  | (key, chosen) :: rest, draw, table =>
      match table.items.find? key with
      | none => leaseRows expires rest (draw + 1) table
      | some item =>
          if item.state = .pending then
            let (leases, finish) := leaseRows expires rest (draw + 1)
              (table.put (item.lease call.now (call.newId draw) expires))
            (chosen.handOut call.siteId (call.newId draw) expires :: leases, finish)
          else leaseRows expires rest (draw + 1) table

/-- `pull_work`, with `none` for an exception. -/
def pullWork : Option (List WorkQueueLease × QueueTable) :=
  call.leaseExpiresAt.map fun expires =>
    let refreshed := table.resetExpired call
    leaseRows call expires (refreshed.pendingRows call) 0 refreshed

end QueueTable

end Work
end K1s
