import K1s.Lib.Dictionary
import K1s.Inference.Leases
import K1s.Py.Time

/-!
# Leases in SQLite

`SQLiteStateStore` keeps one row for every GPU slot, port and node that is
leased.  A call that takes several rows is one transaction, which is rolled back
when one of the rows is already there.  A release deletes the rows of its lease
in one statement.
-/

namespace K1s
namespace Inference

/-! ## Statements -/

/-- The primary key of a row of one of the three tables. -/
inductive Resource
  | gpu (nodeId : String) (gpuIndex : Int)
  | port (nodeId : String) (port : Int)
  | node (nodeId : String)
  deriving DecidableEq

/-- The other columns of a row. -/
structure LeaseRow where
  leaseId : String
  cellKey : String
  expiresAt : String
  createdAt : String

inductive SqliteTable
  | gpuLeases
  | portLeases
  | nodeLocks
  deriving DecidableEq

def Resource.table : Resource → SqliteTable
  | .gpu _ _ => .gpuLeases
  | .port _ _ => .portLeases
  | .node _ => .nodeLocks

/-- The rows of the three tables. -/
abbrev LeaseRows := Dictionary Resource LeaseRow

/-- The clock, and whether the database raises, by the number of operations
before. -/
structure SqliteOutside where
  clock : Nat → Int
  raises : Nat → Bool

/-- Reading the clock, or a transaction. -/
inductive SqliteOp
  | now
  /-- `INSERT … ON CONFLICT DO NOTHING` for every row, rolled back if one of them
  has no effect. -/
  | insert (rows : List (Resource × LeaseRow))
  /-- `DELETE FROM table WHERE lease_id = ?`. -/
  | deleteWhere (table : SqliteTable) (leaseId : String)

/-- The reply to an operation.  An insertion that raises is answered like one
that is rolled back, a deletion that raises is `none`. -/
abbrev SqliteOp.Reply : SqliteOp → Type
  | .now => Int
  | .insert _ => Bool
  | .deleteWhere _ _ => Option Unit

/-- The rows and the number of operations so far. -/
structure SqliteWorld where
  rows : LeaseRows
  calls : Nat

/-- The insertions of a transaction, `none` if it is rolled back. -/
def insertAll : List (Resource × LeaseRow) → LeaseRows → Option LeaseRows
  | [], rows => some rows
  | (resource, row) :: rest, rows =>
      match rows.find? resource with
      | some _ => none
      | none => insertAll rest (rows.set resource row)

def LeaseRows.matching (rows : LeaseRows) (table : SqliteTable) (leaseId : String)
    (resource : Resource) : Bool :=
  decide (resource.table = table) &&
    (rows.find? resource).any fun row => decide (row.leaseId = leaseId)

def SqliteWorld.execute (outside : SqliteOutside) :
    (operation : SqliteOp) → SqliteWorld → operation.Reply × SqliteWorld
  | .now, world => (outside.clock world.calls, { world with calls := world.calls + 1 })
  | .insert rows, world =>
      if outside.raises world.calls then (false, { world with calls := world.calls + 1 })
      else
        match insertAll rows world.rows with
        | some after => (true, ⟨after, world.calls + 1⟩)
        | none => (false, { world with calls := world.calls + 1 })
  | .deleteWhere table leaseId, world =>
      if outside.raises world.calls then (none, { world with calls := world.calls + 1 })
      else
        (some (), ⟨world.rows.keep fun resource =>
          !world.rows.matching table leaseId resource, world.calls + 1⟩)

/-! ## The calls -/

def insertRows
    (leaseId cellKey : String) (resources : List Resource)
    (ttlSeconds : Int) : Program SqliteOp SqliteOp.Reply Bool :=
  .perform .now fun now =>
    (Program.ofOption (Py.addSeconds now (max 1 ttlSeconds))).andThen fun expires =>
      .perform (.insert (resources.map fun resource =>
        (resource, ⟨leaseId, cellKey, Py.isoformat expires, Py.isoformat now⟩))) .done

def deleteRows (table : SqliteTable) (leaseId : String) :
    Program SqliteOp SqliteOp.Reply Unit :=
  .perform (.deleteWhere table leaseId) .ofOption

/-- The lease calls of `SQLiteStateStore`. -/
def sqliteLeases : LeaseStore SqliteOp SqliteOp.Reply where
  acquireGpuLeases := fun leaseId cellKey slots ttlSeconds =>
    insertRows leaseId cellKey (slots.map fun slot => .gpu slot.1 slot.2) ttlSeconds
  reservePort := fun leaseId cellKey nodeId port ttlSeconds =>
    insertRows leaseId cellKey [.port nodeId port] ttlSeconds
  acquireNodeLocks := fun leaseId cellKey nodeIds ttlSeconds =>
    insertRows leaseId cellKey (nodeIds.map .node) ttlSeconds
  releasePortLeases := deleteRows .portLeases
  releaseGpuLeases := deleteRows .gpuLeases
  releaseNodeLocks := deleteRows .nodeLocks

/-! ## Records -/

def sqliteTable : LeaseTable SqliteWorld Resource LeaseRow where
  record? := fun world resource => world.rows.find? resource
  leaseOf := LeaseRow.leaseId

/-- The keys of the three tables. -/
def sqliteKeys : ResourceKeys Resource where
  gpuKey := fun slot => .gpu slot.1 slot.2
  portKey := .port
  nodeKey := .node
  isGpu := fun resource => resource.table = .gpuLeases
  isPort := fun resource => resource.table = .portLeases
  isNode := fun resource => resource.table = .nodeLocks

/-- What the lease calls rely on in SQLite: releases of one lease may run at the
same time. -/
def sqliteProtocol (outside : SqliteOutside) :
    Protocol SqliteWorld SqliteOp SqliteOp.Reply LeaseCall :=
  leaseProtocol sqliteTable (SqliteWorld.execute outside) true

/-! ## What the statements do to the records -/

variable {leaseId : String} {held : Resource → Prop}

/-- Inserted rows are added to what their lease holds. -/
theorem insertAll_spec
    {items : List (Resource × LeaseRow)} {world : SqliteWorld} {after : LeaseRows}
    (owned : ∀ item ∈ items, item.2.leaseId = leaseId)
    (inserted : insertAll items world.rows = some after)
    (holds : sqliteTable.Holds leaseId held world) (calls : Nat) :
    sqliteTable.KeepsOthers leaseId world ⟨after, calls⟩ ∧
      sqliteTable.Holds leaseId (fun key => held key ∨ key ∈ items.map Prod.fst)
        ⟨after, calls⟩ := by
  induction items generalizing world held with
  | nil =>
      cases inserted
      exact ⟨fun _ _ => rfl, LeaseTable.Holds.congr holds fun key => by simp⟩
  | cons item rest ih =>
      obtain ⟨resource, row⟩ := item
      cases present : world.rows.find? resource with
      | some stored => simp [insertAll, present] at inserted
      | none =>
          simp only [insertAll, present] at inserted
          let middle : SqliteWorld := ⟨world.rows.set resource row, calls⟩
          have step : sqliteTable.KeepsOthers leaseId world middle ∧ ¬ held resource ∧
              sqliteTable.Holds leaseId (fun key => held key ∨ key = resource) middle := by
            refine LeaseTable.added holds present ?_ (owned _ (List.mem_cons_self ..)) ?_
            · simp [sqliteTable, middle]
            · intro other different
              simp [sqliteTable, middle, Ne.symm different]
          obtain ⟨keeps, -, now⟩ := step
          obtain ⟨keepsRest, finish⟩ := ih
            (fun item member => owned item (List.mem_cons_of_mem _ member)) inserted now
          refine ⟨fun lease different =>
            (keepsRest lease different).trans (keeps lease different), ?_⟩
          refine finish.congr fun key => ?_
          simp only [List.map_cons, List.mem_cons, or_assoc]

/-- A transaction that inserts rows, whether or not it is rolled back. -/
theorem execute_insert
    {items : List (Resource × LeaseRow)} {world : SqliteWorld} (outside : SqliteOutside)
    (owned : ∀ item ∈ items, item.2.leaseId = leaseId)
    (holds : sqliteTable.Holds leaseId held world) :
    let result := SqliteWorld.execute outside (.insert items) world
    sqliteTable.KeepsOthers leaseId world result.2 ∧
      if result.1 then
        sqliteTable.Holds leaseId (fun key => held key ∨ key ∈ items.map Prod.fst) result.2
      else sqliteTable.Holds leaseId held result.2 := by
  intro result
  by_cases raised : outside.raises world.calls = true
  · have rolledBack : result = (false, { world with calls := world.calls + 1 }) := by
      simp [result, SqliteWorld.execute, raised]
    rw [rolledBack]
    exact ⟨fun _ _ => rfl, holds⟩
  · cases inserted : insertAll items world.rows with
    | none =>
        have rolledBack : result = (false, { world with calls := world.calls + 1 }) := by
          simp [result, SqliteWorld.execute, raised, inserted]
        rw [rolledBack]
        exact ⟨fun _ _ => rfl, holds⟩
    | some after =>
        have committed : result = (true, ⟨after, world.calls + 1⟩) := by
          simp [result, SqliteWorld.execute, raised, inserted]
        rw [committed]
        exact insertAll_spec owned inserted holds (world.calls + 1)

/-- A deletion takes the rows of the table from its lease alone. -/
theorem deleteWhere_spec
    (leaseId : String) (world : SqliteWorld) (table : SqliteTable) (calls : Nat) :
    let after : SqliteWorld := ⟨world.rows.keep fun resource =>
      !world.rows.matching table leaseId resource, calls⟩
    sqliteTable.KeepsOthers leaseId world after ∧ sqliteTable.Shrinks leaseId world after ∧
      ∀ key, (sqliteTable.records leaseId after key).isSome → key.table ≠ table := by
  intro after
  have kept : ∀ key, ¬ world.rows.matching table leaseId key = true →
      sqliteTable.record? after key = sqliteTable.record? world key := by
    intro key unmatched
    simp [sqliteTable, after, unmatched]
  have gone : ∀ key, world.rows.matching table leaseId key = true →
      sqliteTable.record? after key = none := by
    intro key matched
    simp [sqliteTable, after, matched]
  have ownMatched : ∀ key, world.rows.matching table leaseId key = true →
      key.table = table ∧ ∃ row, sqliteTable.record? world key = some row ∧
        sqliteTable.leaseOf row = leaseId := by
    intro key matched
    simp only [LeaseRows.matching, Bool.and_eq_true, decide_eq_true_eq,
      Option.any_eq_true] at matched
    exact matched
  refine ⟨?_, ?_, ?_⟩
  · intro lease different
    funext key
    by_cases matched : world.rows.matching table leaseId key = true
    · obtain ⟨-, row, stored, owned⟩ := ownMatched key matched
      rw [sqliteTable.records_of_none (gone key matched), sqliteTable.records_of_some stored,
        owned, if_neg (Ne.symm different)]
    · exact LeaseTable.records_congr (kept key matched) lease
  · intro key record present
    by_cases matched : world.rows.matching table leaseId key = true
    · rw [sqliteTable.records_of_none (gone key matched)] at present
      cases present
    · rwa [LeaseTable.records_congr (kept key matched) leaseId] at present
  · intro key present inTable
    by_cases matched : world.rows.matching table leaseId key = true
    · rw [sqliteTable.records_of_none (gone key matched)] at present
      cases present
    · rw [LeaseTable.records_congr (kept key matched) leaseId] at present
      obtain ⟨row, stored, owned⟩ := LeaseTable.exists_record_of_isSome present
      have stored : world.rows.find? key = some row := stored
      have owned : row.leaseId = leaseId := owned
      exact matched (by simp [LeaseRows.matching, inTable, stored, owned])

/-! ## What the calls do -/

section Calls

variable {outside : SqliteOutside} {call : LeaseCall} {world : SqliteWorld}

/-- The others do not add to a lease. -/
theorem shrinks_of_rely
    {reached : SqliteWorld} (moved : (sqliteProtocol outside).rely call world reached) :
    sqliteTable.Shrinks call.leaseId world reached := by
  cases call with
  | release leaseId => exact moved
  | reserve leaseId request =>
      have same : sqliteTable.records leaseId reached = sqliteTable.records leaseId world :=
        moved
      intro key record found
      exact same ▸ found

theorem sqliteGuarantee_same_rows (world : SqliteWorld) (calls : Nat) :
    (sqliteProtocol outside).guarantee call world ⟨world.rows, calls⟩ :=
  ⟨fun _ _ => rfl, fun _ _ _ found => found⟩

theorem follows_insertRows
    {request : ReserveRequest} (cellKey : String) (resources : List Resource)
    (ttlSeconds : Int) (holds : sqliteTable.Holds leaseId held world) :
    (sqliteProtocol outside).Follows (.reserve leaseId request) (fun acquired reached =>
        if acquired then
          sqliteTable.Holds leaseId (fun key => held key ∨ key ∈ resources) reached
        else sqliteTable.Holds leaseId held reached)
      (insertRows leaseId cellKey resources ttlSeconds) world := by
  have stable : ∀ first second, (sqliteProtocol outside).rely (.reserve leaseId request)
      first second → sqliteTable.Holds leaseId held first →
        sqliteTable.Holds leaseId held second := by
    intro first second moved before key
    have same : sqliteTable.records leaseId second = sqliteTable.records leaseId first := moved
    rw [same]
    exact before key
  intro started moved
  refine ⟨sqliteGuarantee_same_rows started _, ?_⟩
  have atStart : sqliteTable.Holds leaseId held
      (SqliteWorld.execute outside .now started).2 := stable world started moved holds
  refine Protocol.Follows.ofOption_andThen fun expires _ => ?_
  intro reached later
  have now : sqliteTable.Holds leaseId held reached := stable _ reached later atStart
  let created := Py.isoformat (outside.clock started.calls)
  have owned : ∀ item ∈ resources.map fun resource =>
      (resource, (⟨leaseId, cellKey, Py.isoformat expires, created⟩ : LeaseRow)),
      item.2.leaseId = leaseId := by
    intro item member
    obtain ⟨resource, -, rfl⟩ := List.mem_map.mp member
    rfl
  obtain ⟨keeps, result⟩ := execute_insert outside owned now
  refine ⟨⟨keeps, fun releases => by cases releases⟩, ?_⟩
  simp only [List.map_map, Function.comp_def, List.map_id'] at result
  exact result

theorem follows_deleteRows
    (table : SqliteTable) (within : sqliteTable.HoldsWithin call.leaseId held world) :
    (sqliteProtocol outside).Follows call (fun _ => sqliteTable.HoldsWithin call.leaseId
        fun key => held key ∧ ¬ key.table = table)
      (deleteRows table call.leaseId) world := by
  intro reached moved
  have shrinks := shrinks_of_rely moved
  change (sqliteProtocol outside).guarantee call reached
      (SqliteWorld.execute outside (.deleteWhere table call.leaseId) reached).2 ∧
    (sqliteProtocol outside).Follows call _
      (.ofOption (SqliteWorld.execute outside (.deleteWhere table call.leaseId) reached).1)
      (SqliteWorld.execute outside (.deleteWhere table call.leaseId) reached).2
  by_cases raised : outside.raises reached.calls = true
  · simp only [SqliteWorld.execute, raised, if_true]
    exact ⟨sqliteGuarantee_same_rows reached _, trivial⟩
  · simp only [SqliteWorld.execute, raised]
    obtain ⟨keeps, less, left⟩ :=
      deleteWhere_spec call.leaseId reached table (reached.calls + 1)
    refine ⟨⟨keeps, fun _ => less⟩, fun key present => ⟨?_, left key present⟩⟩
    obtain ⟨record, found⟩ := Option.isSome_iff_exists.mp present
    exact within key (by rw [shrinks key record (less key record found)]; rfl)

end Calls

/-- The lease calls of the SQLite store do what the manager expects of them. -/
theorem sqliteLeases_lawful (outside : SqliteOutside) :
    sqliteLeases.Lawful sqliteTable sqliteKeys (sqliteProtocol outside) where
  covered := by
    intro world key record found
    cases key with
    | gpu nodeId gpuIndex => exact .inl rfl
    | port nodeId port => exact .inr (.inl rfl)
    | node nodeId => exact .inr (.inr rfl)
  acquireGpuLeases := by
    intro leaseId request cellKey slots ttlSeconds held world holds
    exact follows_insertRows cellKey _ ttlSeconds holds
  reservePort := by
    intro leaseId request cellKey nodeId port ttlSeconds held world holds
    refine (follows_insertRows cellKey [.port nodeId port] ttlSeconds holds).weaken ?_
    rintro (_ | _) reached result
    · exact result
    · refine LeaseTable.Holds.congr result fun key => ?_
      rw [List.mem_singleton]
      rfl
  acquireNodeLocks := by
    intro leaseId request cellKey nodeIds ttlSeconds held world holds
    exact follows_insertRows cellKey _ ttlSeconds holds
  releasePortLeases := fun _ _ _ within => follows_deleteRows .portLeases within
  releaseGpuLeases := fun _ _ _ within => follows_deleteRows .gpuLeases within
  releaseNodeLocks := fun _ _ _ within => follows_deleteRows .nodeLocks within

end Inference
end K1s
