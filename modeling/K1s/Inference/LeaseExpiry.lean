import K1s.Inference.EtcdLeases
import K1s.Inference.SqliteLeases

/-!
# Expired leases

Every lease is written with the time that it expires at.  This module says whether a
lease that has expired still stands in the way of another one, for the three calls that
take resources and for both stores, with no failure of a store and with no other call at
the same time.

A call succeeds exactly when no resource that it asks for is recorded at all.  So the
calls take notice of the expiry exactly when some record in the way has not expired, or
there is none in the way and nothing else keeps the call from succeeding.  What it means
for a record to have expired is left open.
-/

namespace K1s
namespace Inference

open Py (Dict)
open Etcd (Key)

/-- The calls that take resources. -/
inductive LeaseDemand
  /-- `acquire_inference_gpu_leases`. -/
  | gpuLeases (slots : List (String × Int))
  /-- `reserve_inference_port`. -/
  | port (nodeId : String) (number : Int)
  /-- `acquire_inference_node_locks`. -/
  | nodeLocks (nodeIds : List String)

namespace LeaseDemand

def acquire
    {Op : Type} {Reply : Op → Type} (store : LeaseStore Op Reply) (leaseId cellKey : String)
    (ttlSeconds : Int) : LeaseDemand → Program Op Reply Bool
  | .gpuLeases slots => store.acquireGpuLeases leaseId cellKey slots ttlSeconds
  | .port nodeId number => store.reservePort leaseId cellKey nodeId number ttlSeconds
  | .nodeLocks nodeIds => store.acquireNodeLocks leaseId cellKey nodeIds ttlSeconds

/-- The keys that the call asks for. -/
def wanted {κ : Type} (keys : ResourceKeys κ) : LeaseDemand → List κ
  | .gpuLeases slots => slots.map keys.gpuKey
  | .port nodeId number => [keys.portKey nodeId number]
  | .nodeLocks nodeIds => nodeIds.map keys.nodeKey

end LeaseDemand

/-! ## Taking notice of the expiry -/

section Expiry

variable {σ κ ρ : Type} (table : LeaseTable σ κ ρ) (expired : ρ → Prop)

/-- Some record in the way has not expired. -/
def SomeUnexpired (wanted : List κ) (state : σ) : Prop :=
  ∃ key ∈ wanted, ∃ record, table.record? state key = some record ∧ ¬ expired record

def NoneRecorded (wanted : List κ) (state : σ) : Prop :=
  ∀ key ∈ wanted, table.record? state key = none

/-- A call that succeeds if all records in the way have expired, and fails if one of them
has not. -/
structure HeedsExpiry
    {Op : Type} {Reply : Op → Type} (execute : (operation : Op) → σ → Reply operation × σ)
    (program : Program Op Reply Bool) (wanted : List κ)
    (state : σ) : Prop where
  succeeds : (∀ key ∈ wanted, ∀ record, table.record? state key = some record → expired record) →
    (program.runAlone execute state).1 = some true
  fails : SomeUnexpired table expired wanted state → (program.runAlone execute state).1 ≠ some true

/-- A call that succeeds exactly if no record is in the way, up to a side condition. -/
theorem heedsExpiry_iff
    {Op : Type} {Reply : Op → Type} {execute : (operation : Op) → σ → Reply operation × σ}
    {program : Program Op Reply Bool} {wanted : List κ} {state : σ} {free : Prop}
    (outcome : (program.runAlone execute state).1 = some true ↔
      NoneRecorded table wanted state ∧ free) :
    HeedsExpiry table expired execute program wanted state ↔
      SomeUnexpired table expired wanted state ∨ NoneRecorded table wanted state ∧ free := by
  have noneUnexpired : NoneRecorded table wanted state →
      ¬ SomeUnexpired table expired wanted state := by
    rintro none ⟨key, member, record, found, -⟩
    rw [none key member] at found
    cases found
  constructor
  · intro heeds
    by_cases unexpired : SomeUnexpired table expired wanted state
    · exact Or.inl unexpired
    · refine Or.inr (outcome.1 (heeds.succeeds fun key member record found => ?_))
      by_contra notExpired
      exact unexpired ⟨key, member, record, found, notExpired⟩
  · rintro (⟨key, member, record, found, notExpired⟩ | noneAndFree)
    · refine ⟨fun allExpired => absurd (allExpired key member record found) notExpired, ?_⟩
      intro _ succeeded
      rw [(outcome.1 succeeded).1 key member] at found
      cases found
    · exact ⟨fun _ => outcome.2 noneAndFree,
        fun unexpired => absurd unexpired (noneUnexpired noneAndFree.1)⟩

end Expiry

/-- The time that a lease expires at is a date. -/
def TtlFits (now ttlSeconds : Int) : Prop := (Py.addSeconds now (max 1 ttlSeconds)).isSome

/-- What is free after one key has been written: what was free, without that key. -/
theorem free_after_write
    {α κ β : Type} [DecidableEq κ] (key : κ) (value : β) (lookup : κ → Option β)
    (keyOf : α → κ) (items : List α) :
    (∀ item ∈ items, (if key = keyOf item then some value else lookup (keyOf item)) = none) ↔
      key ∉ items.map keyOf ∧ ∀ item ∈ items, lookup (keyOf item) = none := by
  simp only [List.mem_map, not_exists, not_and]
  constructor
  · intro free
    refine ⟨fun item member same => ?_, fun item member => ?_⟩
    · have stored := free item member
      rw [if_pos same.symm] at stored
      cases stored
    · have stored := free item member
      split at stored
      · cases stored
      · exact stored
  · rintro ⟨notAgain, free⟩ item member
    rw [if_neg fun same => notAgain item member same.symm]
    exact free item member

/-! ## SQLite -/

/-- Rows are inserted exactly if none of them is there and none is inserted twice. -/
theorem isSome_insertAll_iff (items : List (Resource × LeaseRow)) (rows : LeaseRows) :
    (insertAll items rows).isSome ↔
      (∀ item ∈ items, rows.find? item.1 = none) ∧ (items.map Prod.fst).Nodup := by
  induction items generalizing rows with
  | nil => simp [insertAll]
  | cons item rest ih =>
      obtain ⟨resource, row⟩ := item
      rw [insertAll, List.forall_mem_cons, List.map_cons, List.nodup_cons]
      dsimp only
      cases present : rows.find? resource with
      | some stored => simp
      | none =>
          dsimp only
          rw [ih]
          simp only [Dictionary.find?_set, free_after_write resource row rows.find? Prod.fst]
          tauto

variable (clock : Nat → Int)

/-- A database that never raises. -/
def answeringSqlite : SqliteOutside := ⟨clock, fun _ => false⟩

/-- Rows for resources are inserted exactly if none of them is recorded, none is asked for
twice, and the expiry is a date. -/
theorem runAlone_insertRows
    (leaseId cellKey : String) (resources : List Resource) (ttlSeconds : Int)
    (world : SqliteWorld) :
    ((insertRows leaseId cellKey resources ttlSeconds).runAlone
        (SqliteWorld.execute (answeringSqlite clock)) world).1 = some true ↔
      NoneRecorded sqliteTable resources world ∧
        resources.Nodup ∧ TtlFits (clock world.calls) ttlSeconds := by
  have fits : TtlFits (clock world.calls) ttlSeconds ↔
      (Py.addSeconds (clock world.calls) (max 1 ttlSeconds)).isSome := Iff.rfl
  have started : SqliteWorld.execute (answeringSqlite clock) .now world =
      (clock world.calls, { world with calls := world.calls + 1 }) := rfl
  rw [insertRows, Program.runAlone_perform, Program.runAlone_andThen, Program.runAlone_ofOption,
    started, fits]
  cases later : Py.addSeconds (clock world.calls) (max 1 ttlSeconds) with
  | none => simp
  | some expires =>
      dsimp only
      generalize (⟨leaseId, cellKey, Py.isoformat expires, Py.isoformat (clock world.calls)⟩ :
        LeaseRow) = row
      have inserted : (insertAll (resources.map fun resource => (resource, row))
          world.rows).isSome ↔ NoneRecorded sqliteTable resources world ∧ resources.Nodup := by
        have keys : (resources.map fun resource => (resource, row)).map Prod.fst = resources := by
          rw [List.map_map]
          exact List.map_id resources
        rw [isSome_insertAll_iff, keys, List.forall_mem_map]
        rfl
      have answer : (SqliteWorld.execute (answeringSqlite clock)
          (.insert (resources.map fun resource => (resource, row)))
            { world with calls := world.calls + 1 }).1 =
          (insertAll (resources.map fun resource => (resource, row)) world.rows).isSome := by
        simp only [SqliteWorld.execute, answeringSqlite, Bool.false_eq_true, if_false]
        split <;> simp_all
      rw [Program.runAlone_perform, Program.runAlone_done, answer]
      simp [inserted]

theorem sqlite_acquire
    (leaseId cellKey : String) (ttlSeconds : Int) (demand : LeaseDemand) (world : SqliteWorld) :
    ((demand.acquire sqliteLeases leaseId cellKey ttlSeconds).runAlone
        (SqliteWorld.execute (answeringSqlite clock)) world).1 = some true ↔
      NoneRecorded sqliteTable (demand.wanted sqliteKeys) world ∧
        (demand.wanted sqliteKeys).Nodup ∧ TtlFits (clock world.calls) ttlSeconds := by
  cases demand with
  | gpuLeases slots => exact runAlone_insertRows clock leaseId cellKey _ ttlSeconds world
  | port nodeId number => exact runAlone_insertRows clock leaseId cellKey _ ttlSeconds world
  | nodeLocks nodeIds => exact runAlone_insertRows clock leaseId cellKey _ ttlSeconds world

/-! ## etcd -/

/-- A network that loses nothing. -/
def answeringEtcd : Outside := ⟨clock, fun _ => .answered⟩

theorem runAlone_send (request : EtcdRequest) (world : EtcdWorld) :
    (send request).runAlone (EtcdWorld.execute (answeringEtcd clock)) world =
      (some (request.run world.store).1, ⟨(request.run world.store).2, world.calls + 1⟩) := rfl

/-- A key is created exactly if it is absent. -/
theorem run_create (store : Etcd.Store) (key : Key) (payload : Dict) :
    (EtcdRequest.create key payload).run store =
      if store.find? key = none then (true, store.putJson key payload) else (false, store) := by
  rw [EtcdRequest.run, Etcd.Store.createJsonIfAbsent]
  cases store.find? key <;> simp

/-- Keys are created exactly if none of them is there, none is created twice, and all
records can be made. -/
theorem runAlone_createAll
    {α : Type} (keyOf : α → Key) (payloadOf : α → Option Dict) (items : List α)
    (created : List Key) (world : EtcdWorld) :
    ((createAll keyOf payloadOf items created).runAlone
        (EtcdWorld.execute (answeringEtcd clock)) world).1 = some true ↔
      (∀ item ∈ items, world.store.find? (keyOf item) = none) ∧
        (items.map keyOf).Nodup ∧ ∀ item ∈ items, (payloadOf item).isSome := by
  induction items generalizing created world with
  | nil => simp [createAll]
  | cons item rest ih =>
      have unfolded : createAll keyOf payloadOf (item :: rest) created =
          (Program.ofOption (payloadOf item)).andThen fun payload =>
            (send (.create (keyOf item) payload)).andThen fun (fresh : Bool) =>
              if fresh then createAll keyOf payloadOf rest (created ++ [keyOf item])
              else (Program.forEach created fun key => send (.delete key)).andThen fun _ =>
                .done false := rfl
      rw [unfolded, Program.runAlone_andThen, Program.runAlone_ofOption, List.map_cons,
        List.nodup_cons, List.forall_mem_cons, List.forall_mem_cons]
      cases payload : payloadOf item with
      | none => simp
      | some found =>
          dsimp only
          rw [Program.runAlone_andThen, runAlone_send, run_create]
          by_cases absent : world.store.find? (keyOf item) = none
          · rw [if_pos absent]
            simp only [if_true, ih]
            simp only [Etcd.Store.find?_putJson, free_after_write (keyOf item) _ world.store.find?,
              absent, Option.isSome_some, true_and]
            tauto
          · rw [if_neg absent]
            have undone : ∀ state, (((Program.forEach created fun key =>
                send (.delete key)).andThen fun _ => Program.done false).runAlone
                  (EtcdWorld.execute (answeringEtcd clock)) state).1 ≠ some true := by
              intro state succeeded
              rw [Program.runAlone_andThen] at succeeded
              split at succeeded
              · cases succeeded
              · cases succeeded
            simp only [Bool.false_eq_true, if_false, absent, false_and, iff_false]
            exact undone _

theorem noneRecorded_iff
    {root : String} {keys : List Key} (within : ∀ key ∈ keys, InTables root key)
    (world : EtcdWorld) :
    NoneRecorded (etcdTable root) keys world ↔ ∀ key ∈ keys, world.store.find? key = none := by
  refine forall₂_congr fun key member => ?_
  rw [record?_of_inTables (within key member), Option.map_eq_none_iff]

/-- A call that takes several keys of a table. -/
theorem runAlone_acquire
    {root : String} {α : Type} {area : LeaseArea} {keyOf : α → Key}
    (within : ∀ item, area.start root <+: keyOf item) (subjectOf : α → Dict)
    (clock : Nat → Int) (leaseId cellKey : String) (ttlSeconds : Int) (items : List α)
    (world : EtcdWorld) :
    ((readClock.andThen fun now => createAll keyOf
        (fun item => leasePayload (subjectOf item) leaseId cellKey now ttlSeconds) items []).runAlone
          (EtcdWorld.execute (answeringEtcd clock)) world).1 = some true ↔
      NoneRecorded (etcdTable root) (items.map keyOf) world ∧ (items.map keyOf).Nodup ∧
          (items.map keyOf = [] ∨ TtlFits (clock world.calls) ttlSeconds) := by
  have started : readClock.runAlone (EtcdWorld.execute (answeringEtcd clock)) world =
      (some (clock world.calls), { world with calls := world.calls + 1 }) := rfl
  have inTables : ∀ key ∈ items.map keyOf, InTables root key := by
    intro key member
    obtain ⟨item, -, rfl⟩ := List.mem_map.1 member
    exact LeaseArea.inTables (within item)
  have fits : (∀ item ∈ items, (leasePayload (subjectOf item) leaseId cellKey
      (clock world.calls) ttlSeconds).isSome) ↔
        items.map keyOf = [] ∨ TtlFits (clock world.calls) ttlSeconds := by
    simp only [leasePayload, Option.isSome_map, List.map_eq_nil_iff]
    cases items with
    | nil => simp
    | cons item rest =>
        rw [List.forall_mem_cons, TtlFits]
        simp only [reduceCtorEq, false_or, and_iff_left_iff_imp]
        exact fun isDate _ _ => isDate
  rw [Program.runAlone_andThen, started, noneRecorded_iff inTables, List.forall_mem_map]
  dsimp only
  rw [runAlone_createAll, fits]

/-- The call that takes one port. -/
theorem runAlone_reservePort
    (root : String) (clock : Nat → Int) (leaseId cellKey nodeId : String)
    (number ttlSeconds : Int) (world : EtcdWorld) :
    (((etcdLeases root).reservePort leaseId cellKey nodeId number ttlSeconds).runAlone
        (EtcdWorld.execute (answeringEtcd clock)) world).1 = some true ↔
      NoneRecorded (etcdTable root) [portLeaseKey root nodeId number] world ∧
        TtlFits (clock world.calls) ttlSeconds := by
  have inTables : ∀ key ∈ [portLeaseKey root nodeId number], InTables root key := by
    intro key member
    rw [List.mem_singleton.1 member]
    have inPorts : LeaseArea.port.start root <+: portLeaseKey root nodeId number :=
      start_isPrefix root "port_leases" [nodeId, toString number]
    exact LeaseArea.inTables inPorts
  have unfolded : (etcdLeases root).reservePort leaseId cellKey nodeId number ttlSeconds =
      readClock.andThen fun now =>
        (Program.ofOption (leasePayload [("node_id", .str nodeId), ("port", .int number)]
          leaseId cellKey now ttlSeconds)).andThen fun payload =>
            send (.create (portLeaseKey root nodeId number) payload) := rfl
  have started : readClock.runAlone (EtcdWorld.execute (answeringEtcd clock)) world =
      (some (clock world.calls), { world with calls := world.calls + 1 }) := rfl
  rw [unfolded, Program.runAlone_andThen, started, noneRecorded_iff inTables]
  dsimp only
  rw [Program.runAlone_andThen, Program.runAlone_ofOption, leasePayload, TtlFits]
  cases Py.addSeconds (clock world.calls) (max 1 ttlSeconds) with
  | none => simp
  | some expires =>
      dsimp only [Option.map_some]
      rw [runAlone_send, run_create]
      by_cases absent : world.store.find? (portLeaseKey root nodeId number) = none
      · simp [absent]
      · simp [absent]

theorem etcd_acquire
    (root : String) (clock : Nat → Int) (leaseId cellKey : String) (ttlSeconds : Int)
    (demand : LeaseDemand) (world : EtcdWorld) :
    ((demand.acquire (etcdLeases root) leaseId cellKey ttlSeconds).runAlone
        (EtcdWorld.execute (answeringEtcd clock)) world).1 = some true ↔
      NoneRecorded (etcdTable root) (demand.wanted (etcdKeys root)) world ∧
        (demand.wanted (etcdKeys root)).Nodup ∧
          (demand.wanted (etcdKeys root) = [] ∨ TtlFits (clock world.calls) ttlSeconds) := by
  cases demand with
  | gpuLeases slots =>
      have inGpus : ∀ slot, LeaseArea.gpu.start root <+: gpuLeaseKey root slot := fun slot =>
        start_isPrefix root "gpu_leases" [slot.1, toString slot.2]
      exact runAlone_acquire inGpus _ clock leaseId cellKey ttlSeconds slots world
  | port nodeId number =>
      have outcome := runAlone_reservePort root clock leaseId cellKey nodeId number ttlSeconds world
      have keys : (LeaseDemand.port nodeId number).wanted (etcdKeys root) =
          [portLeaseKey root nodeId number] := rfl
      have single : [portLeaseKey root nodeId number].Nodup ∧
          ([portLeaseKey root nodeId number] = [] ∨ TtlFits (clock world.calls) ttlSeconds) ↔
            TtlFits (clock world.calls) ttlSeconds := by simp
      rw [keys, single]
      exact outcome
  | nodeLocks nodeIds =>
      have inNodes : ∀ nodeId, LeaseArea.node.start root <+: nodeLockKey root nodeId :=
        fun nodeId => start_isPrefix root "node_locks" [nodeId]
      exact runAlone_acquire inNodes _ clock leaseId cellKey ttlSeconds nodeIds world

/-! ## Both stores -/

/-- The row has expired, for a notion of texts that are times before another. -/
def LeaseRow.Expired (past : Int → String → Prop) (now : Int) (row : LeaseRow) : Prop :=
  past now row.expiresAt

def RecordExpired (past : Int → String → Prop) (now : Int) (record : Dict) : Prop :=
  past now (Etcd.field record "expires_at" (.str "")).toStr

/-- The calls heed the expiry exactly if some record in the way has not expired, or none is
in the way, no key is asked for twice, and the new expiry is a date. -/
theorem leasesHeedExpiry_iff
    (past : Int → String → Prop) (root : String) (clock : Nat → Int)
    (leaseId cellKey : String) (ttlSeconds : Int) (demand : LeaseDemand) :
    (∀ world : SqliteWorld, HeedsExpiry sqliteTable (LeaseRow.Expired past (clock world.calls))
          (SqliteWorld.execute (answeringSqlite clock))
          (demand.acquire sqliteLeases leaseId cellKey ttlSeconds)
          (demand.wanted sqliteKeys) world ↔
        SomeUnexpired sqliteTable (LeaseRow.Expired past (clock world.calls))
            (demand.wanted sqliteKeys) world ∨
          NoneRecorded sqliteTable (demand.wanted sqliteKeys) world ∧
            (demand.wanted sqliteKeys).Nodup ∧ TtlFits (clock world.calls) ttlSeconds) ∧
      ∀ world : EtcdWorld, HeedsExpiry (etcdTable root) (RecordExpired past (clock world.calls))
            (EtcdWorld.execute (answeringEtcd clock))
            (demand.acquire (etcdLeases root) leaseId cellKey ttlSeconds)
            (demand.wanted (etcdKeys root)) world ↔
          SomeUnexpired (etcdTable root) (RecordExpired past (clock world.calls))
              (demand.wanted (etcdKeys root)) world ∨
            NoneRecorded (etcdTable root) (demand.wanted (etcdKeys root)) world ∧
              (demand.wanted (etcdKeys root)).Nodup ∧
                (demand.wanted (etcdKeys root) = [] ∨ TtlFits (clock world.calls) ttlSeconds) :=
  ⟨fun world => heedsExpiry_iff sqliteTable _
      (sqlite_acquire clock leaseId cellKey ttlSeconds demand world),
    fun world => heedsExpiry_iff (etcdTable root) _
      (etcd_acquire root clock leaseId cellKey ttlSeconds demand world)⟩

/-- The text is that of a time before another. -/
def isoPast (now : Int) (text : String) : Prop := ∃ time < now, Py.isoformat time = text

/-- A slot that was leased until the epoch. -/
def lapsedSlot : SqliteWorld where
  rows := Dictionary.ofList
    [(.gpu "node-a" 0, ⟨"l-1", "default/cell", Py.isoformat 0, Py.isoformat (-60000000)⟩)]
  calls := 0

/-- A day later the slot cannot be leased again. -/
theorem not_heedsExpiry_lapsedSlot :
    ¬ HeedsExpiry sqliteTable (LeaseRow.Expired isoPast 86400000000)
      (SqliteWorld.execute (answeringSqlite fun _ => 86400000000))
      ((LeaseDemand.gpuLeases [("node-a", 0)]).acquire sqliteLeases "l-2" "default/other" 600)
      ((LeaseDemand.gpuLeases [("node-a", 0)]).wanted sqliteKeys) lapsedSlot := by
  intro heeds
  have recorded : sqliteTable.record? lapsedSlot (.gpu "node-a" 0) =
      some ⟨"l-1", "default/cell", Py.isoformat 0, Py.isoformat (-60000000)⟩ := rfl
  have refused : (((LeaseDemand.gpuLeases [("node-a", 0)]).acquire sqliteLeases "l-2"
      "default/other" 600).runAlone (SqliteWorld.execute (answeringSqlite fun _ => 86400000000))
        lapsedSlot).1 = some false := by decide +kernel
  have succeeded := heeds.succeeds fun key member record found => by
    rw [List.mem_singleton.1 member] at found
    obtain rfl := Option.some.inj (recorded.symm.trans found)
    exact ⟨0, by decide, rfl⟩
  rw [refused] at succeeded
  cases succeeded

end Inference
end K1s
