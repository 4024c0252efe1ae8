import K1s.Nodes.Leases
import K1s.Py.IpNetwork

/-!
# Pod CIDRs of the nodes

The record of a node is written by its heartbeats, by the allocator of pod CIDRs and by
the handler that gives the node a lease.  A heartbeat writes the CIDR that the agent
supplies, or the one that the allocator returns for the node.

The main result says along which sequences of these calls the CIDRs of distinct nodes
stay disjoint as ranges of addresses and no node loses its own.
-/

namespace K1s
namespace Nodes

open Py Machine

/-! ## Records of nodes -/

/-- The columns of the table `nodes` that are read here. -/
structure NodeRecord where
  nodeId : String
  name : Option String
  labels : Dict
  backend : Option String
  endpoint : Option String
  podCidr : Option String
  wgPubkey : Option String
  rpPubkey : Option String
  deriving DecidableEq

/-- The table `nodes`. -/
structure NodeTable where
  rows : Dictionary String NodeRecord
  keyed : ∀ nodeId record, rows.find? nodeId = some record → nodeId = record.nodeId

/-- The exceptions of `allocate`. -/
inductive AllocateError
  | typeError
  | runtimeError
  deriving DecidableEq

namespace NodeTable

def empty : NodeTable := ⟨.empty, by simp⟩

/-- `upsert_node`: the whole row is replaced. -/
def upsertNode (table : NodeTable) (record : NodeRecord) : NodeTable where
  rows := table.rows.set record.nodeId record
  keyed := by
    intro nodeId found same
    rw [Dictionary.find?_set] at same
    split at same
    · next equal =>
        obtain rfl := Option.some.inj same
        exact equal.symm
    · exact table.keyed nodeId found same

/-- A call of `upsert_node`, which takes `self` and the id of the node by position and
everything else by keyword. -/
def upsertNodeCall
    (table : NodeTable) (positional : List String)
    (record : NodeRecord) : Except AllocateError NodeTable :=
  if positional = [record.nodeId] then .ok (table.upsertNode record) else .error .typeError

/-- The CIDR of the node, if the record has one that is not empty. -/
def podCidr (table : NodeTable) (nodeId : String) : Option String :=
  ((table.rows.find? nodeId).bind NodeRecord.podCidr).filter (· ≠ "")

@[simp] theorem podCidr_upsertNode
    (table : NodeTable) (record : NodeRecord) (nodeId : String) :
    (table.upsertNode record).podCidr nodeId =
      if record.nodeId = nodeId then record.podCidr.filter (· ≠ "")
      else table.podCidr nodeId := by
  unfold podCidr upsertNode
  rw [Dictionary.find?_set]
  split <;> rfl

end NodeTable

/-- The end of the lease is a `datetime`, and its numbers can be bound. -/
def AcquireCall.Stored (call : AcquireCall) : Prop :=
  call.lease.isSome = true ∧ SqlInteger call.controllerEpoch ∧ SqlInteger call.leaseTtlMs ∧
    SqlInteger call.renewAfterMs

theorem SqliteLeases.acquireLease_isSome_iff (leases : SqliteLeases) (call : AcquireCall) :
    (leases.acquireLease call).1.isSome = true ↔ call.Stored := by
  unfold acquireLease AcquireCall.Stored AcquireCall.lease
  cases addMilliseconds call.now call.leaseTtlMs with
  | none => simp
  | some expiresAt =>
      simp only [Option.map_some, Option.isSome_some, true_and]
      split
      · next bound => exact iff_of_true rfl bound
      · next unbound => exact iff_of_false Bool.false_ne_true unbound

/-! ## The allocator -/

/-- `PodCIDRAllocator`, with the check of its constructor. -/
structure PodCIDRAllocator where
  pool : IpNetwork
  mask : Nat
  fits : pool.prefixlen ≤ mask ∧ mask ≤ pool.version.bits

namespace PodCIDRAllocator

def used (table : NodeTable) : List IpNetwork :=
  table.rows.entries.filterMap fun row =>
    (row.2.podCidr.filter (· ≠ "")).bind ipNetwork

/-- The record that `allocate` writes: that of the node, with the CIDR. -/
def recordWith (table : NodeTable) (nodeId cidr : String) : NodeRecord :=
  match table.rows.find? nodeId with
  | some record => { record with podCidr := some cidr }
  | none => ⟨nodeId, none, [], none, none, some cidr, none, none⟩

def allocate
    (allocator : PodCIDRAllocator) (table : NodeTable)
    (nodeId : String) : Except AllocateError (String × NodeTable) :=
  match table.podCidr nodeId with
  | some cidr => .ok (cidr, table)
  | none =>
      match (allocator.pool.subnets allocator.mask allocator.fits.2).find? fun subnet =>
        decide (subnet ∉ used table) with
      | some subnet =>
          -- The name of the node is given a second time, by position.
          (table.upsertNodeCall [nodeId, nodeId] (recordWith table nodeId subnet.toText)).map
            fun after => (subnet.toText, after)
      | none => .error .runtimeError

/-- A call with two positional arguments raises. -/
theorem upsertNodeCall_two
    (table : NodeTable) (nodeId name : String) (record : NodeRecord) :
    table.upsertNodeCall [nodeId, name] record = .error .typeError :=
  if_neg (by simp)

/-- The allocator returns what is recorded for the node and writes nothing: its own
write always raises. -/
theorem allocate_eq_ok_iff
    (allocator : PodCIDRAllocator) (table after : NodeTable) (nodeId cidr : String) :
    allocator.allocate table nodeId = .ok (cidr, after) ↔
      table.podCidr nodeId = some cidr ∧ after = table := by
  unfold allocate
  split
  · next recorded found =>
      rw [found, Except.ok.injEq, Prod.mk.injEq, Option.some.injEq, eq_comm (b := after)]
  · next absent =>
      rw [absent]
      simp only [upsertNodeCall_two, reduceCtorEq, false_and, iff_false]
      split <;> rintro ⟨⟩

end PodCIDRAllocator

/-! ## Heartbeats -/

variable (realText : String → String)

/-- The text that a `TEXT` column keeps of a value.  A container and an integer of more
than 64 bits cannot be bound, and `nan` is bound as `NULL`.  The text of a float is the
one that SQLite gives it. -/
def columnText : Json → Option (Option String)
  | .null => some none
  | .bool value => some (some (if value then "1" else "0"))
  | .int value => if SqlInteger value then some (some (toString value)) else none
  | .float text => some (if text = "nan" then none else some (realText text))
  | .str text => some (some text)
  | .list _ | .dict _ => none

/-- A heartbeat that has been authenticated and, through a path for the admission to an
environment, admitted.  The labels are those of the payload with the ones that are
projected from the capabilities. -/
structure Heartbeat where
  payload : Dict
  throughAdmission : Bool
  labels : Dict
  certificateRevoked : Bool

namespace Heartbeat

variable (allocator : Option PodCIDRAllocator) (heartbeat : Heartbeat)

def nodeId : String :=
  let value (key : String) := Dict.get heartbeat.payload key
  strip ((if heartbeat.throughAdmission then
      (((value "node_id").or (value "gateway_id")).or (value "id")).or (.str "")
    else ((value "node_id").or (value "id")).or (.str "")).toStr)

def supplied : Json := Dict.get heartbeat.payload "pod_cidr"

/-- `pod_cidr in (None, "")`. -/
def Absent : Prop := heartbeat.supplied = .null ∨ heartbeat.supplied = .str ""

instance : Decidable heartbeat.Absent := inferInstanceAs (Decidable (_ ∨ _))

/-- The CIDR that is written, the supplied one or that of the allocator, and the table
after the allocation. -/
def podCidr (table : NodeTable) : Json × NodeTable :=
  if heartbeat.Absent then
    match allocator with
    | none => (heartbeat.supplied, table)
    | some allocator =>
        match allocator.allocate table heartbeat.nodeId with
        | .ok (cidr, after) => (.str cidr, after)
        | .error _ => (heartbeat.supplied, table)
  else (heartbeat.supplied, table)

/-- The record with this CIDR, if every column can be bound. -/
def record (podCidr : Json) : Option NodeRecord := do
  let column (value : Json) := columnText realText value
  let name ← column (Dict.get heartbeat.payload "name")
  let backend ← column (Dict.get heartbeat.payload "backend")
  let endpoint ← column (Dict.get heartbeat.payload "endpoint")
  let podCidr ← column podCidr
  let wgPubkey ← column (Dict.get heartbeat.payload "wg_pubkey")
  let rpPubkey ← column (Dict.get heartbeat.payload "rp_pubkey")
  return ⟨heartbeat.nodeId, name, heartbeat.labels, backend, endpoint, podCidr, wgPubkey, rpPubkey⟩

def handle (table : NodeTable) : NodeTable :=
  if heartbeat.nodeId = "" then table
  else
    let (podCidr, after) := heartbeat.podCidr allocator table
    if heartbeat.certificateRevoked then after
    else
      match heartbeat.record realText podCidr with
      | none => after
      | some record => after.upsertNode record

end Heartbeat

/-! ## Leases -/

/-- The settings of the controller ingress. -/
structure Ingress where
  epoch : Int
  leaseTtlMs : Int
  renewAfterMs : Int

/-- A request for a lease, the time at which it is handled and the id that `uuid4`
draws for the lease. -/
structure LeaseMessage where
  isLeader : Bool
  subject : String
  payload : Dict
  now : Int
  leaseId : String

def siteIdFromSubject (subject : String) : Option String :=
  match split '.' subject with
  | "k1s" :: "v1" :: "site" :: siteId :: _ => some siteId
  | _ => none

def scopedNodeId (siteId nodeId : String) : String :=
  let site := strip siteId
  let node := strip nodeId
  if site = "" then node
  else if startsWith (site ++ "--") node then node
  else site ++ "--" ++ node

namespace LeaseMessage

variable (ingress : Ingress) (message : LeaseMessage)

/-- `str(payload.get(key) or "")`. -/
def text (key : String) : String :=
  ((Dict.get message.payload key).or (.str "")).toStr

def siteId : String :=
  let fromSubject := (siteIdFromSubject message.subject).getD ""
  if fromSubject = "" then message.text "site_id" else fromSubject

def nodeKey : String := scopedNodeId message.siteId (strip (message.text "node_id"))

/-- The message is handled by the leader and passes the checks of the handler. -/
def Passes : Prop :=
  message.isLeader = true ∧ strip (message.text "request_id") ≠ "" ∧
    message.siteId ≠ "" ∧ strip (message.text "node_id") ≠ "" ∧
    ¬ (Json.truthy (Dict.get message.payload "site_id") = true ∧
      (Dict.get message.payload "site_id").toStr ≠ message.siteId)

instance : Decidable message.Passes := inferInstanceAs (Decidable (_ ∧ _))

/-- The call of `acquire_lease`. -/
def acquireCall : AcquireCall where
  siteId := message.siteId
  nodeId := message.nodeKey
  sessionId :=
    let sessionId := strip (message.text "session_id")
    if sessionId = "" then toString (message.now / 1000000) else sessionId
  leaseTtlMs := ingress.leaseTtlMs
  renewAfterMs := ingress.renewAfterMs
  controllerEpoch := ingress.epoch
  now := message.now
  leaseId := message.leaseId

/-- The record that the handler writes, without a CIDR and keys. -/
def record : NodeRecord where
  nodeId := message.nodeKey
  name := some (strip (message.text "node_id"))
  labels :=
    Dict.setdefault ((Dict.get message.payload "labels").entries.map fun entry =>
        (entry.1, .str entry.2.toStr))
      "site" (.str message.siteId)
  backend := some ((Dict.get message.payload "backend").or (.str "nats")).toStr
  endpoint := none
  podCidr := none
  wgPubkey := none
  rpPubkey := none

theorem record_nodeId : message.record.nodeId = message.nodeKey := by
  rw [record]

theorem record_podCidr : message.record.podCidr = none := by
  rw [record]

end LeaseMessage

/-! ## Runs -/

/-- The tables of nodes and of their leases. -/
structure NodeWorld where
  nodes : NodeTable
  leases : SqliteLeases

inductive NodeCall
  | heartbeat (heartbeat : Heartbeat)
  | allocate (nodeId : String)
  | acquireLease (message : LeaseMessage)

namespace NodeWorld

variable (allocator : Option PodCIDRAllocator) (ingress : Ingress)

def empty : NodeWorld := ⟨.empty, .empty⟩

def allocated (table : NodeTable) (nodeId : String) : NodeTable :=
  match allocator.map (PodCIDRAllocator.allocate · table nodeId) with
  | some (.ok (_, after)) => after
  | _ => table

def step (world : NodeWorld) : NodeCall → Option NodeWorld
  | .heartbeat heartbeat =>
      some { world with nodes := heartbeat.handle realText allocator world.nodes }
  | .allocate nodeId => some { world with nodes := allocated allocator world.nodes nodeId }
  | .acquireLease message =>
      if message.Passes then
        let (outcome, leases) := world.leases.acquireLease (message.acquireCall ingress)
        if outcome.isSome then
          some { nodes := world.nodes.upsertNode message.record, leases := leases }
        else some { world with leases := leases }
      else some world

end NodeWorld

/-- The CIDRs of distinct nodes are disjoint ranges of addresses. -/
def PairwiseDisjoint (cidrs : String → Option String) : Prop :=
  ∀ first second, first ≠ second → ∀ one other,
    cidrs first = some one → cidrs second = some other →
    Disjoint (addressesOf one) (addressesOf other)

/-- The CIDRs are disjoint after a step, and every node that had one has it still. -/
def KeptDisjoint (before after : String → Option String) : Prop :=
  PairwiseDisjoint after ∧ ∀ nodeId cidr, before nodeId = some cidr → after nodeId = some cidr

/-- The CIDR takes nothing from the node and meets no range of another one. -/
def Fits (cidrs : String → Option String) (nodeId : String) (written : Option String) : Prop :=
  (∀ cidr, cidrs nodeId = some cidr → written = some cidr) ∧
    ∀ cidr, written = some cidr → ∀ other, other ≠ nodeId → ∀ recorded,
      cidrs other = some recorded → Disjoint (addressesOf cidr) (addressesOf recorded)

/-- Writing the CIDR of one node is safe exactly when it fits. -/
theorem keptDisjoint_update_iff
    {cidrs : String → Option String} (disjoint : PairwiseDisjoint cidrs) (nodeId : String)
    (written : Option String) :
    KeptDisjoint cidrs (Function.update cidrs nodeId written) ↔ Fits cidrs nodeId written := by
  constructor
  · rintro ⟨after, kept⟩
    refine ⟨fun cidr recorded => ?_, fun cidr isWritten other apart recorded found => ?_⟩
    · rw [← kept nodeId cidr recorded, Function.update_self]
    · refine after nodeId other apart.symm cidr recorded ?_ ?_
      · rw [Function.update_self, isWritten]
      · rw [Function.update_of_ne apart, found]
  · rintro ⟨keeps, meetsNone⟩
    refine ⟨fun first second apart one other isFirst isSecond => ?_, fun other cidr found => ?_⟩
    · by_cases ofFirst : first = nodeId
      · subst ofFirst
        rw [Function.update_self] at isFirst
        rw [Function.update_of_ne apart.symm] at isSecond
        exact meetsNone one isFirst second apart.symm other isSecond
      · rw [Function.update_of_ne ofFirst] at isFirst
        by_cases ofSecond : second = nodeId
        · subst ofSecond
          rw [Function.update_self] at isSecond
          exact (meetsNone other isSecond first ofFirst one isFirst).symm
        · rw [Function.update_of_ne ofSecond] at isSecond
          exact disjoint first second apart one other isFirst isSecond
    · by_cases same : other = nodeId
      · subst same
        rw [Function.update_self]
        exact keeps cidr found
      · rw [Function.update_of_ne same, found]

/-- A step that changes no CIDR is safe. -/
theorem keptDisjoint_self
    {cidrs : String → Option String}
    (disjoint : PairwiseDisjoint cidrs) : KeptDisjoint cidrs cidrs :=
  ⟨disjoint, fun _ _ found => found⟩

/-- Writing what is recorded already fits. -/
theorem fits_self
    {cidrs : String → Option String} (disjoint : PairwiseDisjoint cidrs)
    (nodeId : String) : Fits cidrs nodeId (cidrs nodeId) :=
  ⟨fun _ found => found, fun cidr found other apart recorded isOther =>
    disjoint nodeId other apart.symm cidr recorded found isOther⟩

/-- Writing no CIDR fits a node without one. -/
theorem fits_none_iff (cidrs : String → Option String) (nodeId : String) :
    Fits cidrs nodeId none ↔ cidrs nodeId = none := by
  constructor
  · rintro ⟨keeps, -⟩
    exact Option.eq_none_iff_forall_ne_some.mpr fun cidr found => by
      cases keeps cidr found
  · intro free
    refine ⟨fun cidr found => ?_, fun cidr written => by cases written⟩
    rw [free] at found
    cases found

theorem NodeTable.podCidr_upsert (table : NodeTable) (record : NodeRecord) :
    (table.upsertNode record).podCidr =
      Function.update table.podCidr record.nodeId (record.podCidr.filter (· ≠ "")) := by
  funext nodeId
  rw [podCidr_upsertNode, Function.update_apply]
  simp only [eq_comm]

/-! ## The exact condition -/

namespace Heartbeat

variable (heartbeat : Heartbeat)

/-- The columns other than the CIDR can be bound. -/
def Bindable : Prop :=
  ∀ key ∈ ["name", "backend", "endpoint", "wg_pubkey", "rp_pubkey"],
    (columnText realText (Dict.get heartbeat.payload key)).isSome = true

/-- The heartbeat is of a node, with a certificate that is not revoked, and its other
columns can be bound. -/
def Accepted : Prop :=
  heartbeat.nodeId ≠ "" ∧ heartbeat.certificateRevoked = false ∧ heartbeat.Bindable realText

variable (allocator : Option PodCIDRAllocator)

/-- The heartbeat is not accepted, or what it says of the CIDR of its node fits: it
supplies one that does, or none and then there is none to lose or an allocator that
knows it. -/
def KeepsCidrs (cidrs : String → Option String) : Prop :=
  heartbeat.Accepted realText →
    if heartbeat.Absent then cidrs heartbeat.nodeId = none ∨ allocator.isSome = true
    else
      ∀ written, columnText realText heartbeat.supplied = some written →
        Fits cidrs heartbeat.nodeId (written.filter (· ≠ ""))

/-- The record is there exactly when every column can be bound. -/
theorem record_cases (podCidr : Json) :
    (heartbeat.record realText podCidr = none ∧
      ¬ (heartbeat.Bindable realText ∧ (columnText realText podCidr).isSome = true)) ∨
    ∃ record written, heartbeat.Bindable realText ∧ columnText realText podCidr = some written ∧
      record.nodeId = heartbeat.nodeId ∧ record.podCidr = written ∧
      heartbeat.record realText podCidr = some record := by
  cases name : columnText realText (Dict.get heartbeat.payload "name") with
  | none => exact .inl ⟨by simp [record, name], by simp [Bindable, name]⟩
  | some nameText =>
    cases backend : columnText realText (Dict.get heartbeat.payload "backend") with
    | none => exact .inl ⟨by simp [record, name, backend], by simp [Bindable, backend]⟩
    | some backendText =>
      cases endpoint : columnText realText (Dict.get heartbeat.payload "endpoint") with
      | none => exact .inl ⟨by simp [record, name, backend, endpoint], by simp [Bindable, endpoint]⟩
      | some endpointText =>
        cases cidr : columnText realText podCidr with
        | none => exact .inl ⟨by simp [record, name, backend, endpoint, cidr], by simp⟩
        | some written =>
          cases wgKey : columnText realText (Dict.get heartbeat.payload "wg_pubkey") with
          | none =>
            exact .inl ⟨by simp [record, name, backend, endpoint, cidr, wgKey],
              by simp [Bindable, wgKey]⟩
          | some wgText =>
            cases rpKey : columnText realText (Dict.get heartbeat.payload "rp_pubkey") with
            | none =>
              exact .inl ⟨by simp [record, name, backend, endpoint, cidr, wgKey, rpKey],
                by simp [Bindable, rpKey]⟩
            | some rpText =>
              refine .inr ⟨⟨heartbeat.nodeId, nameText, heartbeat.labels, backendText,
                endpointText, written, wgText, rpText⟩, written, ?_, rfl, rfl, rfl, ?_⟩
              · simp [Bindable, name, backend, endpoint, wgKey, rpKey]
              · simp [record, name, backend, endpoint, cidr, wgKey, rpKey]

theorem podCidr_snd (table : NodeTable) : (heartbeat.podCidr allocator table).2 = table := by
  unfold podCidr
  split
  · split
    · rfl
    · split
      · next allocated =>
          exact ((PodCIDRAllocator.allocate_eq_ok_iff _ _ _ _ _).mp allocated).2
      · rfl
  · rfl

/-- What the handler does to the table, by the CIDR that it writes. -/
theorem handle_cases (table : NodeTable) :
    (heartbeat.handle realText allocator table = table ∧
      ¬ (heartbeat.Accepted realText ∧ (columnText realText
        (heartbeat.podCidr allocator table).1).isSome = true)) ∨
    ∃ record written, heartbeat.Accepted realText ∧
      columnText realText (heartbeat.podCidr allocator table).1 = some written ∧
      record.nodeId = heartbeat.nodeId ∧ record.podCidr = written ∧
      heartbeat.handle realText allocator table = table.upsertNode record := by
  have unchanged := heartbeat.podCidr_snd allocator table
  by_cases named : heartbeat.nodeId = ""
  · exact .inl ⟨if_pos named, fun stored => stored.1.1 named⟩
  cases revoked : heartbeat.certificateRevoked with
  | true =>
      refine .inl ⟨?_, fun stored => by simp [Accepted, revoked] at stored⟩
      simp only [handle, if_neg named, revoked, if_true, unchanged]
  | false =>
      rcases heartbeat.record_cases realText (heartbeat.podCidr allocator table).1 with
        ⟨isNone, unbound⟩ | ⟨record, written, bound, isWritten, sameId, sameCidr, isSome⟩
      · refine .inl ⟨?_, fun stored => unbound ⟨stored.1.2.2, stored.2⟩⟩
        simp only [handle, if_neg named, revoked, Bool.false_eq_true, if_false, isNone, unchanged]
      · refine .inr ⟨record, written, ⟨named, revoked, bound⟩, isWritten, sameId, sameCidr, ?_⟩
        simp only [handle, if_neg named, revoked, Bool.false_eq_true, if_false, isSome, unchanged]

/-- The CIDR that is written when none is supplied: that of the node where there is an
allocator, and else none. -/
theorem podCidr_of_absent (absent : heartbeat.Absent) (table : NodeTable) :
    ∃ written, columnText realText (heartbeat.podCidr allocator table).1 = some written ∧
      written.filter (· ≠ "") =
        if allocator.isSome then table.podCidr heartbeat.nodeId else none := by
  have supplied : ∃ written, columnText realText heartbeat.supplied = some written ∧
      written.filter (· ≠ "") = none := by
    rcases absent with isNull | isEmpty
    · exact ⟨none, by rw [isNull]; rfl, rfl⟩
    · exact ⟨some "", by rw [isEmpty]; rfl, by decide⟩
  unfold podCidr
  rw [if_pos absent]
  cases allocator with
  | none => exact supplied
  | some allocator =>
      cases result : allocator.allocate table heartbeat.nodeId with
      | ok allocated =>
          obtain ⟨cidr, after⟩ := allocated
          obtain ⟨found, -⟩ :=
            (PodCIDRAllocator.allocate_eq_ok_iff _ _ _ _ _).mp result
          refine ⟨some cidr, by simp only [result]; rfl, ?_⟩
          have nonempty := (Option.filter_eq_some_iff.mp found).2
          rw [Option.isSome_some, if_pos rfl, found, Option.filter_some, if_pos nonempty]
      | error raised =>
          obtain ⟨written, isWritten, isEmpty⟩ := supplied
          refine ⟨written, by simp only [result]; exact isWritten, ?_⟩
          rw [isEmpty, Option.isSome_some, if_pos rfl]
          refine (Option.eq_none_iff_forall_ne_some.mpr fun cidr found => ?_).symm
          rw [(PodCIDRAllocator.allocate_eq_ok_iff _ _ table _ _).mpr ⟨found, rfl⟩] at result
          cases result

theorem podCidr_of_supplied
    (supplied : ¬ heartbeat.Absent)
    (table : NodeTable) : (heartbeat.podCidr allocator table).1 = heartbeat.supplied := by
  unfold podCidr
  rw [if_neg supplied]

/-- A heartbeat is safe exactly when it keeps the CIDRs. -/
theorem keptDisjoint_handle_iff
    {table : NodeTable} (disjoint : PairwiseDisjoint table.podCidr) :
    KeptDisjoint table.podCidr (heartbeat.handle realText allocator table).podCidr ↔
      heartbeat.KeepsCidrs realText allocator table.podCidr := by
  rcases heartbeat.handle_cases realText allocator table with
    ⟨unchanged, notStored⟩ | ⟨record, written, accepted, isWritten, sameId, sameCidr, changed⟩
  · rw [unchanged]
    refine iff_of_true (keptDisjoint_self disjoint) fun accepted => ?_
    split
    · next absent =>
        obtain ⟨written, isWritten, -⟩ :=
          heartbeat.podCidr_of_absent realText allocator absent table
        exact absurd ⟨accepted, by rw [isWritten]; rfl⟩ notStored
    · next isSupplied =>
        intro written isWritten
        have same := heartbeat.podCidr_of_supplied allocator isSupplied table
        exact absurd ⟨accepted, by rw [same, isWritten]; rfl⟩ notStored
  · rw [changed, NodeTable.podCidr_upsert, keptDisjoint_update_iff disjoint, sameId, sameCidr]
    unfold KeepsCidrs
    rw [imp_iff_right accepted]
    split
    · next absent =>
        obtain ⟨other, isOther, value⟩ :=
          heartbeat.podCidr_of_absent realText allocator absent table
        obtain rfl := Option.some.inj (isOther.symm.trans isWritten)
        rw [value]
        cases allocator with
        | none => simp [fits_none_iff]
        | some allocator => simp [fits_self disjoint]
    · next isSupplied =>
        have same := heartbeat.podCidr_of_supplied allocator isSupplied table
        rw [same] at isWritten
        rw [isWritten]
        simp

end Heartbeat

namespace LeaseMessage

variable (ingress : Ingress) (message : LeaseMessage)

/-- The message is not handled, its lease cannot be stored, or its node has no CIDR. -/
def KeepsCidrs (cidrs : String → Option String) : Prop :=
  message.Passes → (message.acquireCall ingress).Stored → cidrs message.nodeKey = none

end LeaseMessage

namespace NodeWorld

variable (allocator : Option PodCIDRAllocator) (ingress : Ingress)

/-- After the call the CIDRs are disjoint, and every node that had one has it still. -/
def Safe (world : NodeWorld) (call : NodeCall) : Prop :=
  ∀ next, world.step realText allocator ingress call = some next →
    KeptDisjoint world.nodes.podCidr next.nodes.podCidr

/-- The call neither takes the CIDR of a node away nor supplies one that meets another
node's. -/
def KeepsCidrs (world : NodeWorld) : NodeCall → Prop
  | .heartbeat heartbeat => heartbeat.KeepsCidrs realText allocator world.nodes.podCidr
  | .allocate _ => True
  | .acquireLease message => message.KeepsCidrs ingress world.nodes.podCidr

theorem allocated_eq (table : NodeTable) (nodeId : String) :
    allocated allocator table nodeId = table := by
  unfold allocated
  split
  · next cidr after isAllocated =>
      obtain ⟨known, -, result⟩ := Option.map_eq_some_iff.mp isAllocated
      exact ((PodCIDRAllocator.allocate_eq_ok_iff _ _ _ _ _).mp result).2
  · rfl

theorem step_acquireLease
    (world : NodeWorld) {message : LeaseMessage} (passes : message.Passes) :
    world.step realText allocator ingress (.acquireLease message) =
      some ⟨if (world.leases.acquireLease (message.acquireCall ingress)).1.isSome then
          world.nodes.upsertNode message.record else world.nodes,
        (world.leases.acquireLease (message.acquireCall ingress)).2⟩ := by
  simp only [step, if_pos passes]
  split <;> rfl

theorem podCidr_acquired (table : NodeTable) (message : LeaseMessage) :
    (table.upsertNode message.record).podCidr =
      Function.update table.podCidr message.nodeKey none := by
  rw [NodeTable.podCidr_upsert, LeaseMessage.record_nodeId, LeaseMessage.record_podCidr,
    Option.filter_none]

theorem safe_iff
    {world : NodeWorld} (disjoint : PairwiseDisjoint world.nodes.podCidr) (call : NodeCall) :
    world.Safe realText allocator ingress call ↔
      world.KeepsCidrs realText allocator ingress call := by
  cases call with
  | heartbeat heartbeat =>
      refine Iff.trans ?_ (heartbeat.keptDisjoint_handle_iff realText allocator disjoint)
      simp [Safe, step]
  | allocate nodeId =>
      simp [Safe, step, KeepsCidrs, allocated_eq, keptDisjoint_self disjoint]
  | acquireLease message =>
      change _ ↔ (message.Passes → (message.acquireCall ingress).Stored → _)
      by_cases passes : message.Passes
      · rw [imp_iff_right passes, ← SqliteLeases.acquireLease_isSome_iff world.leases]
        by_cases stored : (world.leases.acquireLease (message.acquireCall ingress)).1.isSome = true
        · rw [imp_iff_right stored, ← fits_none_iff, ← keptDisjoint_update_iff disjoint]
          simp only [Safe, step_acquireLease realText allocator ingress world passes, stored,
            if_true, Option.some.injEq, forall_eq', podCidr_acquired]
        · simp [Safe, step_acquireLease realText allocator ingress world passes, stored,
            keptDisjoint_self disjoint]
      · simp [Safe, step, passes, keptDisjoint_self disjoint]

theorem pairwiseDisjoint_empty : PairwiseDisjoint empty.nodes.podCidr := by
  intro first second _ one other found
  cases found

/-- A heartbeat of the node `site--n` that supplies a CIDR. -/
def suppliesCidr : Heartbeat where
  payload := [("node_id", .str "site--n"), ("pod_cidr", .str "10.42.0.0/24")]
  throughAdmission := false
  labels := []
  certificateRevoked := false

/-- A request for a lease of the same node. -/
def asksForLease : LeaseMessage where
  isLeader := true
  subject := "k1s.v1.site.site.lease"
  payload := [("request_id", .str "r"), ("node_id", .str "n")]
  now := 0
  leaseId := "lease"

end NodeWorld

end Nodes
end K1s
