import K1s.Etcd.Store
import K1s.Inference.Leases
import K1s.Py.Time

/-!
# Leases in etcd

`EtcdStateStore` keeps one key for every GPU slot, port and node that is leased.
A key is taken by a request that creates it if it is absent.  A call that takes
several keys deletes those it has created when one of them cannot be had.  A
release lists the keys of a table and then deletes, one after the other, those
that were listed under its lease.
-/

namespace K1s
namespace Inference

open Py (Dict Json)
open Etcd (Key)

/-! ## Requests -/

/-- What becomes of a request. -/
inductive Fate
  | answered
  /-- The request does not arrive, and the client raises. -/
  | requestLost
  /-- The request is carried out, and the client raises nevertheless. -/
  | answerLost
  deriving DecidableEq

/-- The clock and the network, by the number of operations before. -/
structure Outside where
  clock : Nat → Int
  fate : Nat → Fate

/-- The requests of the lease operations. -/
inductive EtcdRequest
  | create (key : Key) (payload : Dict)
  | delete (key : Key)
  | list (start : Key)

abbrev EtcdRequest.Answer : EtcdRequest → Type
  | .create _ _ => Bool
  | .delete _ => Unit
  | .list _ => List (Key × Etcd.Value)

/-- What a request does. -/
def EtcdRequest.run : (request : EtcdRequest) → Etcd.Store → request.Answer × Etcd.Store
  | .create key payload, store => store.createJsonIfAbsent key payload
  | .delete key, store => ((), store.delete key)
  | .list start, store => (store.listPrefix start, store)

/-- Reading the clock, or a request. -/
inductive EtcdOp
  | now
  | request (request : EtcdRequest)

/-- The reply to an operation, `none` if the client raises. -/
abbrev EtcdOp.Reply : EtcdOp → Type
  | .now => Int
  | .request sent => Option sent.Answer

/-- The store and the number of operations so far. -/
structure EtcdWorld where
  store : Etcd.Store
  calls : Nat

def EtcdWorld.execute (outside : Outside) :
    (operation : EtcdOp) → EtcdWorld → operation.Reply × EtcdWorld
  | .now, world => (outside.clock world.calls, { world with calls := world.calls + 1 })
  | .request request, world =>
      match outside.fate world.calls with
      | .answered =>
          (some (request.run world.store).1, ⟨(request.run world.store).2, world.calls + 1⟩)
      | .requestLost => (none, { world with calls := world.calls + 1 })
      | .answerLost => (none, ⟨(request.run world.store).2, world.calls + 1⟩)

abbrev EtcdProgram := Program EtcdOp EtcdOp.Reply

def send (request : EtcdRequest) : EtcdProgram request.Answer :=
  .perform (.request request) .ofOption

/-- `_now()`. -/
def readClock : EtcdProgram Int :=
  .perform .now .done

/-! ## The calls -/

variable (root : String)

/-- The three tables. -/
inductive LeaseArea
  | gpu
  | port
  | node
  deriving DecidableEq

/-- The prefix of the keys of a table. -/
def LeaseArea.start : LeaseArea → Key
  | .gpu => Etcd.k root ["inference", "gpu_leases"]
  | .port => Etcd.k root ["inference", "port_leases"]
  | .node => Etcd.k root ["inference", "node_locks"]

/-- `_inference_gpu_lease_key`. -/
def gpuLeaseKey (slot : String × Int) : Key :=
  Etcd.k root ["inference", "gpu_leases", slot.1, toString slot.2]

/-- `_inference_port_lease_key`. -/
def portLeaseKey (nodeId : String) (port : Int) : Key :=
  Etcd.k root ["inference", "port_leases", nodeId, toString port]

/-- `_inference_node_lock_key`. -/
def nodeLockKey (nodeId : String) : Key :=
  Etcd.k root ["inference", "node_locks", nodeId]

/-- A lease record: what it is for, and the lease, the cell and the times.  `none`
if the time it expires at cannot be computed. -/
def leasePayload
    (subject : Dict) (leaseId cellKey : String)
    (now ttlSeconds : Int) : Option Dict :=
  (Py.addSeconds now (max 1 ttlSeconds)).map fun expires =>
    subject ++ [("lease_id", .str leaseId), ("cell_key", .str cellKey),
        ("expires_at", .str (Py.isoformat expires)),
        ("created_at", .str (Py.isoformat now)), ("updated_at", .str (Py.isoformat now))]

/-- The loop of the calls that take several keys.  `created` are the keys that
have been created so far. -/
def createAll {α : Type} (keyOf : α → Key) (payloadOf : α → Option Dict) :
    List α → List Key → EtcdProgram Bool
  | [], _ => .done true
  | item :: rest, created => do
      let payload ← .ofOption (payloadOf item)
      let fresh : Bool ← send (.create (keyOf item) payload)
      if fresh then createAll keyOf payloadOf rest (created ++ [keyOf item])
      else do
        Program.forEach created fun key => send (.delete key)
        pure false

/-- `str(rec.get("lease_id", ""))`. -/
def recordLease (record : Dict) : String :=
  (Etcd.field record "lease_id" (.str "")).toStr

/-- The three `release_inference_*` calls. -/
def releaseArea (area : LeaseArea) (leaseId : String) : EtcdProgram Unit := do
  let rows : List (Key × Etcd.Value) ← send (.list (area.start root))
  Program.forEach rows fun row =>
    if recordLease row.2.payload = leaseId then send (.delete row.1) else .done ()

/-- The lease calls of `EtcdStateStore`. -/
def etcdLeases : LeaseStore EtcdOp EtcdOp.Reply where
  acquireGpuLeases := fun leaseId cellKey slots ttlSeconds => do
    let now ← readClock
    createAll (gpuLeaseKey root)
      (fun slot => leasePayload [("node_id", .str slot.1), ("gpu_index", .int slot.2)]
        leaseId cellKey now ttlSeconds) slots []
  reservePort := fun leaseId cellKey nodeId port ttlSeconds => do
    let now ← readClock
    let payload ← .ofOption (leasePayload [("node_id", .str nodeId), ("port", .int port)]
      leaseId cellKey now ttlSeconds)
    send (.create (portLeaseKey root nodeId port) payload)
  acquireNodeLocks := fun leaseId cellKey nodeIds ttlSeconds => do
    let now ← readClock
    createAll (nodeLockKey root)
      (fun nodeId => leasePayload [("node_id", .str nodeId)] leaseId cellKey now ttlSeconds)
      nodeIds []
  releasePortLeases := releaseArea root .port
  releaseGpuLeases := releaseArea root .gpu
  releaseNodeLocks := releaseArea root .node

/-! ## Records -/

/-- The records of the three tables. -/
def etcdTable : LeaseTable EtcdWorld Key Dict where
  record? := fun world key =>
    if LeaseArea.gpu.start root <+: key ∨ LeaseArea.port.start root <+: key ∨
        LeaseArea.node.start root <+: key then
      (world.store.find? key).map Etcd.Value.payload
    else none
  leaseOf := recordLease

/-- The keys of the three tables. -/
def etcdKeys : ResourceKeys Key where
  gpuKey := gpuLeaseKey root
  portKey := portLeaseKey root
  nodeKey := nodeLockKey root
  isGpu := fun key => LeaseArea.gpu.start root <+: key
  isPort := fun key => LeaseArea.port.start root <+: key
  isNode := fun key => LeaseArea.node.start root <+: key

/-- What the lease calls rely on in etcd: nothing else touches their lease. -/
def etcdProtocol (outside : Outside) : Protocol EtcdWorld EtcdOp EtcdOp.Reply LeaseCall :=
  leaseProtocol (etcdTable root) (EtcdWorld.execute outside) false

/-! ## What the requests do to the records -/

variable {root} {outside : Outside}

def InTables (root : String) (key : Key) : Prop :=
  LeaseArea.gpu.start root <+: key ∨ LeaseArea.port.start root <+: key ∨
    LeaseArea.node.start root <+: key

theorem record?_of_inTables {key : Key} (within : InTables root key) (world : EtcdWorld) :
    (etcdTable root).record? world key = (world.store.find? key).map Etcd.Value.payload :=
  if_pos within

theorem inTables_of_record?
    {world : EtcdWorld} {key : Key} {record : Dict}
    (found : (etcdTable root).record? world key = some record) : InTables root key := by
  by_contra outsideTables
  have missing : (etcdTable root).record? world key = none := if_neg outsideTables
  rw [missing] at found
  cases found

theorem record?_congr
    {before after : EtcdWorld} {key : Key}
    (same : after.store.find? key = before.store.find? key) :
    (etcdTable root).record? after key = (etcdTable root).record? before key := by
  simp only [etcdTable, same]

section Requests

variable {leaseId : String} {held : Key → Prop} {world : EtcdWorld} {key : Key}

theorem create_absent
    {payload : Dict} (owned : recordLease payload = leaseId) (within : InTables root key)
    (holds : (etcdTable root).Holds leaseId held world)
    (absent : world.store.find? key = none) (calls : Nat) :
    (etcdTable root).KeepsOthers leaseId world ⟨world.store.putJson key payload, calls⟩ ∧
      ¬ held key ∧
      (etcdTable root).Holds leaseId (fun other => held other ∨ other = key)
        ⟨world.store.putJson key payload, calls⟩ := by
  refine LeaseTable.added holds ?_ ?_ owned fun other different => record?_congr ?_
  · rw [record?_of_inTables within, absent, Option.map_none]
  · rw [record?_of_inTables within]
    simp
  · simp [Ne.symm different]

theorem delete_held
    (holds : (etcdTable root).Holds leaseId held world) (had : held key) (calls : Nat) :
    (etcdTable root).KeepsOthers leaseId world ⟨world.store.delete key, calls⟩ ∧
      (etcdTable root).Shrinks leaseId world ⟨world.store.delete key, calls⟩ ∧
      (etcdTable root).Holds leaseId (fun other => held other ∧ other ≠ key)
        ⟨world.store.delete key, calls⟩ := by
  refine LeaseTable.removed holds had ?_ fun other different => record?_congr ?_
  · obtain ⟨record, stored, -⟩ := LeaseTable.exists_record_of_isSome ((holds key).mpr had)
    rw [record?_of_inTables (inTables_of_record? stored)]
    simp
  · simp [Ne.symm different]

end Requests

/-! ## What the calls do -/

section Calls

variable {call : LeaseCall} {held : Key → Prop} {world : EtcdWorld}

/-- What the lease holds is not disturbed by the others. -/
theorem LeaseTable.Holds.later
    (holds : (etcdTable root).Holds call.leaseId held world) {reached : EtcdWorld}
    (moved : (etcdProtocol root outside).rely call world reached) :
    (etcdTable root).Holds call.leaseId held reached := by
  have same : (etcdTable root).records call.leaseId reached =
      (etcdTable root).records call.leaseId world := by
    simpa [etcdProtocol, leaseProtocol] using moved
  intro key
  rw [same]
  exact holds key

/-- An operation that leaves the store as it is keeps every guarantee. -/
theorem guarantee_same_store (world : EtcdWorld) (calls : Nat) :
    (etcdProtocol root outside).guarantee call world ⟨world.store, calls⟩ :=
  ⟨fun _ _ => rfl, fun _ _ _ found => found⟩

/-- To reason about a request it is enough to look at the case that it is carried
out. -/
theorem follows_send
    {request : EtcdRequest} {post : request.Answer → EtcdWorld → Prop}
    (fits : ∀ reached calls, (etcdProtocol root outside).rely call world reached →
      (etcdProtocol root outside).guarantee call reached ⟨(request.run reached.store).2, calls⟩ ∧
        post (request.run reached.store).1 ⟨(request.run reached.store).2, calls⟩) :
    (etcdProtocol root outside).Follows call post (send request) world := by
  intro reached moved
  obtain ⟨kept, result⟩ := fits reached (reached.calls + 1) moved
  change (etcdProtocol root outside).guarantee call reached
      (EtcdWorld.execute outside (.request request) reached).2 ∧
    (etcdProtocol root outside).Follows call post
      (.ofOption (EtcdWorld.execute outside (.request request) reached).1)
      (EtcdWorld.execute outside (.request request) reached).2
  cases fate : outside.fate reached.calls with
  | answered =>
      simp only [EtcdWorld.execute, fate]
      exact ⟨kept, result⟩
  | requestLost =>
      simp only [EtcdWorld.execute, fate]
      exact ⟨guarantee_same_store reached _, trivial⟩
  | answerLost =>
      simp only [EtcdWorld.execute, fate]
      exact ⟨kept, trivial⟩

/-- Reading the clock changes nothing. -/
theorem follows_readClock (holds : (etcdTable root).Holds call.leaseId held world) :
    (etcdProtocol root outside).Follows call
      (fun _ => (etcdTable root).Holds call.leaseId held) readClock world := by
  intro reached moved
  have kept : (etcdTable root).Holds call.leaseId held reached := holds.later moved
  exact ⟨guarantee_same_store reached _, kept⟩

theorem follows_delete
    {key : Key} (had : held key) (holds : (etcdTable root).Holds call.leaseId held world) :
    (etcdProtocol root outside).Follows call
      (fun _ => (etcdTable root).Holds call.leaseId fun other => held other ∧ other ≠ key)
      (send (.delete key)) world := by
  refine follows_send fun reached calls moved => ?_
  obtain ⟨keeps, shrinks, left⟩ := delete_held (holds.later moved) had calls
  exact ⟨⟨keeps, fun _ => shrinks⟩, left⟩

theorem follows_deletes
    {keys : List Key} (distinct : keys.Nodup) (had : ∀ key ∈ keys, held key)
    (holds : (etcdTable root).Holds call.leaseId held world) :
    (etcdProtocol root outside).Follows call
      (fun _ => (etcdTable root).Holds call.leaseId fun key => held key ∧ key ∉ keys)
      (Program.forEach keys fun key => send (.delete key)) world := by
  induction keys generalizing held world with
  | nil => simpa [Program.forEach, Protocol.Follows] using holds
  | cons key rest ih =>
      obtain ⟨new, others⟩ := List.nodup_cons.mp distinct
      refine Protocol.Follows.andThen
        (follows_delete (had key (List.mem_cons_self ..)) holds) fun _ reached left => ?_
      refine (ih others ?_ left).weaken ?_
      · intro other member
        exact ⟨had other (List.mem_cons_of_mem key member),
          fun same => new (same ▸ member)⟩
      · intro _ finish kept
        refine kept.congr fun other => ?_
        rw [List.mem_cons, not_or, and_assoc]

theorem follows_create
    {key : Key} {payload : Dict} (owned : recordLease payload = call.leaseId)
    (within : InTables root key) (starts : call.isRelease = false)
    (holds : (etcdTable root).Holds call.leaseId held world) :
    (etcdProtocol root outside).Follows call (fun (created : Bool) reached =>
        if created then
          ¬ held key ∧
            (etcdTable root).Holds call.leaseId (fun other => held other ∨ other = key) reached
        else (etcdTable root).Holds call.leaseId held reached)
      (send (.create key payload)) world := by
  refine follows_send fun reached calls moved => ?_
  have now : (etcdTable root).Holds call.leaseId held reached := holds.later moved
  cases present : reached.store.find? key with
  | some value =>
      simp only [EtcdRequest.run, Etcd.Store.createJsonIfAbsent, present]
      exact ⟨guarantee_same_store reached calls, now⟩
  | none =>
      simp only [EtcdRequest.run, Etcd.Store.createJsonIfAbsent, present]
      obtain ⟨keeps, result⟩ := create_absent owned within now present calls
      refine ⟨⟨keeps, fun releases => ?_⟩, result⟩
      rw [starts] at releases
      cases releases

/-- The loop that creates keys, and takes back what it created when one of them
is not absent. -/
theorem follows_createAll
    {α : Type} {keyOf : α → Key} {payloadOf : α → Option Dict} {items : List α}
    {created : List Key}
    (owned : ∀ item payload, payloadOf item = some payload → recordLease payload = call.leaseId)
    (within : ∀ item, InTables root (keyOf item)) (starts : call.isRelease = false)
    (distinct : created.Nodup) (apart : ∀ key ∈ created, ¬ held key)
    (holds : (etcdTable root).Holds call.leaseId (fun key => held key ∨ key ∈ created) world) :
    (etcdProtocol root outside).Follows call (fun acquired reached =>
        if acquired then
          (etcdTable root).Holds call.leaseId
            (fun key => held key ∨ key ∈ created ++ items.map keyOf) reached
        else (etcdTable root).Holds call.leaseId held reached)
      (createAll keyOf payloadOf items created) world := by
  induction items generalizing created world with
  | nil => simpa [createAll, Protocol.Follows] using holds
  | cons item rest ih =>
      refine Protocol.Follows.ofOption_andThen fun payload built => ?_
      refine Protocol.Follows.andThen
        (follows_create (owned item payload built) (within item) starts holds) ?_
      rintro (_ | _) reached result
      · refine Protocol.Follows.andThen
          (follows_deletes distinct (fun key member => .inr member) result)
          fun _ finish left => ?_
        refine left.congr fun key => ?_
        exact ⟨fun ⟨either, absent⟩ => either.resolve_right absent,
          fun had => ⟨.inl had, fun member => apart key member had⟩⟩
      · obtain ⟨new, now⟩ := result
        refine (ih ?_ ?_ ?_).weaken ?_
        · exact List.nodup_append.mpr ⟨distinct, by simp, by
            rintro one member two equal rfl
            simp only [List.mem_singleton] at equal
            exact new (.inr (equal ▸ member))⟩
        · intro key member had
          rcases List.mem_append.mp member with old | same
          · exact apart key old had
          · simp only [List.mem_singleton] at same
            exact new (.inl (same ▸ had))
        · refine now.congr fun key => ?_
          simp only [List.mem_append, List.mem_singleton, or_assoc]
        · intro acquired finish outcome
          simpa using outcome

def listedKeys (leaseId : String) (rows : List (Key × Etcd.Value)) : List Key :=
  (rows.filter fun row => recordLease row.2.payload = leaseId).map Prod.fst

theorem LeaseArea.inTables {area : LeaseArea} {key : Key} (starts : area.start root <+: key) :
    InTables root key := by
  cases area with
  | gpu => exact .inl starts
  | port => exact .inr (.inl starts)
  | node => exact .inr (.inr starts)

/-- A listing has exactly the keys of the table that the lease holds. -/
theorem mem_listedKeys
    {leaseId : String} (holds : (etcdTable root).Holds leaseId held world)
    (area : LeaseArea) (key : Key) :
    key ∈ listedKeys leaseId (world.store.listPrefix (area.start root)) ↔
      held key ∧ area.start root <+: key := by
  simp only [listedKeys, List.mem_map, List.mem_filter, decide_eq_true_eq, Prod.exists,
    exists_and_right, exists_eq_right, Etcd.Store.mem_listPrefix]
  rw [← holds key]
  constructor
  · rintro ⟨value, ⟨found, starts⟩, owned⟩
    have stored : (etcdTable root).record? world key = some value.payload := by
      rw [record?_of_inTables (LeaseArea.inTables starts), found]
      rfl
    rw [LeaseTable.records_of_some _ stored]
    exact ⟨by simp [etcdTable, owned], starts⟩
  · rintro ⟨present, starts⟩
    obtain ⟨record, stored, owned⟩ := LeaseTable.exists_record_of_isSome present
    rw [record?_of_inTables (LeaseArea.inTables starts)] at stored
    obtain ⟨value, found, rfl⟩ := Option.map_eq_some_iff.mp stored
    exact ⟨value, ⟨found, starts⟩, owned⟩

theorem follows_releaseArea
    (area : LeaseArea) (within : (etcdTable root).HoldsWithin call.leaseId held world) :
    (etcdProtocol root outside).Follows call (fun _ => (etcdTable root).HoldsWithin call.leaseId
        fun key => held key ∧ ¬ area.start root <+: key)
      (releaseArea root area call.leaseId) world := by
  let exact_ : Key → Prop := fun key =>
    ((etcdTable root).records call.leaseId world key).isSome
  have holds : (etcdTable root).Holds call.leaseId exact_ world := fun _ => Iff.rfl
  have listed : (etcdProtocol root outside).Follows call
      (fun (rows : List (Key × Etcd.Value)) reached =>
        (etcdTable root).Holds call.leaseId exact_ reached ∧ (listedKeys call.leaseId rows).Nodup ∧
          ∀ key, key ∈ listedKeys call.leaseId rows ↔ exact_ key ∧ area.start root <+: key)
      (send (.list (area.start root))) world := by
    refine follows_send fun reached calls moved => ?_
    have now : (etcdTable root).Holds call.leaseId exact_ reached := holds.later moved
    refine ⟨guarantee_same_store reached calls, now, ?_, mem_listedKeys now area⟩
    exact (reached.store.nodup_listPrefix (area.start root)).sublist
      (List.filter_sublist.map Prod.fst)
  refine Protocol.Follows.andThen listed ?_
  rintro rows reached ⟨now, distinct, members⟩
  rw [Program.forEach_ite rows (fun row => recordLease row.2.payload = call.leaseId) Prod.fst
    fun key => send (.delete key)]
  refine (follows_deletes distinct (fun key member => ((members key).mp member).1) now).weaken ?_
  intro _ finish left key present
  obtain ⟨had, absent⟩ := (left key).mp present
  exact ⟨within key had, fun starts => absent ((members key).mpr ⟨had, starts⟩)⟩

end Calls

/-! ## The store is lawful -/

theorem recordLease_leasePayload
    {subject : Dict} {leaseId cellKey : String} {now ttlSeconds : Int} {payload : Dict}
    (plain : Py.Dict.find? subject "lease_id" = none)
    (built : leasePayload subject leaseId cellKey now ttlSeconds = some payload) :
    recordLease payload = leaseId := by
  obtain ⟨expires, -, rfl⟩ := Option.map_eq_some_iff.mp built
  rw [recordLease, Etcd.field, Py.Dict.find?_append, plain]
  rfl

theorem start_isPrefix (root area : String) (rest : List String) :
    Etcd.k root ["inference", area] <+: Etcd.k root ("inference" :: area :: rest) := by
  have longer := Etcd.k_append root "inference" [area] rest (by decide)
  exact ⟨rest.flatMap Etcd.segment, longer.symm⟩

section Lawful

variable {leaseId : String} {request : ReserveRequest} {held : Key → Prop} {world : EtcdWorld}

/-- A call that takes several keys of a table. -/
theorem follows_acquire
    {α : Type} {area : LeaseArea} {keyOf : α → Key} {subjectOf : α → Dict}
    (plain : ∀ item, Py.Dict.find? (subjectOf item) "lease_id" = none)
    (within : ∀ item, area.start root <+: keyOf item) (cellKey : String) (items : List α)
    (ttlSeconds : Int) (holds : (etcdTable root).Holds leaseId held world) :
    (etcdProtocol root outside).Follows (.reserve leaseId request) (fun acquired reached =>
        if acquired then
          (etcdTable root).Holds leaseId (fun key => held key ∨ key ∈ items.map keyOf) reached
        else (etcdTable root).Holds leaseId held reached)
      (readClock.andThen fun now => createAll keyOf
        (fun item => leasePayload (subjectOf item) leaseId cellKey now ttlSeconds) items [])
      world := by
  have clock : (etcdProtocol root outside).Follows (.reserve leaseId request)
      (fun _ => (etcdTable root).Holds leaseId held) readClock world := follows_readClock holds
  refine Protocol.Follows.andThen clock fun now reached later => ?_
  have created : (etcdTable root).Holds leaseId (fun key => held key ∨ key ∈ []) reached :=
    later.congr fun key => by simp
  exact follows_createAll (fun item _ built => recordLease_leasePayload (plain item) built)
    (fun item => LeaseArea.inTables (within item)) rfl List.nodup_nil
    (fun _ member => by cases member) created

/-- The call that takes one port. -/
theorem follows_reservePort
    (cellKey nodeId : String) (port ttlSeconds : Int)
    (holds : (etcdTable root).Holds leaseId held world) :
    (etcdProtocol root outside).Follows (.reserve leaseId request) (fun reserved reached =>
        if reserved then
          (etcdTable root).Holds leaseId
            (fun key => held key ∨ key = portLeaseKey root nodeId port) reached
        else (etcdTable root).Holds leaseId held reached)
      ((etcdLeases root).reservePort leaseId cellKey nodeId port ttlSeconds) world := by
  have clock : (etcdProtocol root outside).Follows (.reserve leaseId request)
      (fun _ => (etcdTable root).Holds leaseId held) readClock world := follows_readClock holds
  refine Protocol.Follows.andThen clock fun now reached later => ?_
  refine Protocol.Follows.ofOption_andThen fun payload built => ?_
  have inPorts : LeaseArea.port.start root <+: portLeaseKey root nodeId port :=
    start_isPrefix root "port_leases" [nodeId, toString port]
  have owned : recordLease payload = leaseId := recordLease_leasePayload rfl built
  have created : (etcdProtocol root outside).Follows (.reserve leaseId request) _
      (send (.create (portLeaseKey root nodeId port) payload)) reached :=
    follows_create owned (LeaseArea.inTables inPorts) rfl later
  refine created.weaken ?_
  rintro (_ | _) finish result
  · exact result
  · exact result.2

end Lawful

/-- The lease calls of the etcd store do what the manager expects of them. -/
theorem etcdLeases_lawful (root : String) (outside : Outside) :
    (etcdLeases root).Lawful (etcdTable root) (etcdKeys root) (etcdProtocol root outside) where
  covered := fun _ _ _ found => inTables_of_record? found
  acquireGpuLeases := by
    intro leaseId request cellKey slots ttlSeconds held world holds
    have inGpus : ∀ slot, LeaseArea.gpu.start root <+: gpuLeaseKey root slot := fun slot =>
      start_isPrefix root "gpu_leases" [slot.1, toString slot.2]
    exact follows_acquire (fun _ => rfl) inGpus cellKey slots ttlSeconds holds
  reservePort := by
    intro leaseId request cellKey nodeId port ttlSeconds held world holds
    exact follows_reservePort cellKey nodeId port ttlSeconds holds
  acquireNodeLocks := by
    intro leaseId request cellKey nodeIds ttlSeconds held world holds
    have inNodes : ∀ nodeId, LeaseArea.node.start root <+: nodeLockKey root nodeId :=
      fun nodeId => start_isPrefix root "node_locks" [nodeId]
    exact follows_acquire (fun _ => rfl) inNodes cellKey nodeIds ttlSeconds holds
  releasePortLeases := fun _ _ _ within => follows_releaseArea .port within
  releaseGpuLeases := fun _ _ _ within => follows_releaseArea .gpu within
  releaseNodeLocks := fun _ _ _ within => follows_releaseArea .node within

end Inference
end K1s
