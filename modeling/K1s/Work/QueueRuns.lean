import K1s.Work.SitePulls

/-!
# The life of a work item

The calls on the table `work_queue` of the SQLite store: items are enqueued, leased to
a gateway, acknowledged, marked as done, and given back when a lease has expired.  The
lease of an item is the one that its row carries; enqueueing the item again and marking
it as done end it.

The main result is about every sequence of calls.  It takes from `uuid4` that no id is
drawn twice.
-/

namespace K1s
namespace Work

open Py Machine

/-! ## The other calls -/

def QueueItem.acked (item : QueueItem) (now : Int) : QueueItem :=
  { item with state := .acked, ackedAt := some now, updatedAt := now }

/-- The item is marked as done. -/
def QueueItem.finished (item : QueueItem) (now : Int) : QueueItem :=
  { item with state := .done, updatedAt := now, leaseId := none, leaseExpiresAt := none }

variable (table : QueueTable) (workId : String)

namespace QueueTable

/-- A table without items. -/
def empty : QueueTable := ⟨.empty, by simp⟩

/-- `enqueue_work`: the row is deleted and inserted. -/
def enqueueWork
    (attempt : Int) (siteId : String) (payload : Dict)
    (now : Int) : QueueTable where
  items := (table.items.drop (workId, attempt)).set (workId, attempt)
    { workId := workId
      attempt := attempt
      siteId := siteId
      payload := payload
      state := .pending
      leaseId := none
      leasedAt := none
      leaseExpiresAt := none
      ackedAt := none
      createdAt := now
      updatedAt := now }
  keyed := by
    intro key item found
    rw [Dictionary.find?_set] at found
    split at found
    · next same =>
        obtain rfl := Option.some.inj found
        exact same.symm
    · rw [Dictionary.find?_drop] at found
      split at found
      · cases found
      · exact table.keyed key item found

/-- `UPDATE … WHERE lease_id = ?` of an acknowledgement, with its row count. -/
def ackLease (now : Int) (leaseId : String) : Nat × QueueTable :=
  ((table.items.entries.filter fun row => row.2.leaseId = some leaseId).length,
    table.update (fun item => if item.leaseId = some leaseId then item.acked now else item)
      fun item => by split <;> exact ⟨rfl, rfl⟩)

def ackWork (now : Int) : List String → QueueTable → Nat × QueueTable
  | [], table => (0, table)
  | leaseId :: rest, table =>
      let (count, after) := table.ackLease now leaseId
      let (more, finish) := ackWork now rest after
      (count + more, finish)

/-- The lease id of an item of `ack_work_items`. -/
def ackLeaseId (item : Json) : String := envelopeText (Dict.get item.entries "lease_id")

/-- `item.get("work_id") not in {None, "", work_id}`, with `none` for a value that
cannot be hashed. -/
def otherWorkId (value : Json) (workId : String) : Option Bool :=
  match value with
  | .null => some false
  | .str text => some (decide (text ≠ "" ∧ text ≠ workId))
  | .list _ | .dict _ => none
  | _ => some true

/-- The body of the loop of `ack_work_items`, with `none` for an exception. -/
def ackItem (now : Int) (item : Json) : Option (Nat × QueueTable) :=
  if item.isDict = false ∨ ackLeaseId item = "" then some (0, table)
  else
    match parseEnvelope item,
      table.items.entries.find? fun row => row.2.leaseId = some (ackLeaseId item) with
    | some envelope, some (_, row) =>
        if parseEnvelope (.dict row.payload) ≠ some envelope then some (0, table)
        else
          match otherWorkId (Dict.get item.entries "work_id") row.workId with
          | none => none
          | some true => some (0, table)
          | some false =>
              let attempt := envelopeEpoch (Dict.get item.entries "attempt")
              if attempt = 0 ∨ attempt = row.attempt then
                some (table.ackLease now (ackLeaseId item))
              else some (0, table)
    | _, _ => some (0, table)

/-- `ack_work_items`.  An exception rolls back what was acknowledged before it. -/
def ackWorkItems (now : Int) : List Json → QueueTable → Option (Nat × QueueTable)
  | [], table => some (0, table)
  | item :: rest, table =>
      (table.ackItem now item).bind fun (count, after) =>
        (ackWorkItems now rest after).map fun (more, finish) => (count + more, finish)

def markWorkDone
    (attempt : Int)
    (now : Int) : QueueTable :=
  table.update
    (fun item => if item.workId = workId ∧ item.attempt = attempt then item.finished now else item)
    fun item => by split <;> exact ⟨rfl, rfl⟩

end QueueTable

/-! ## Sequences of calls -/

inductive QueueCall
  | enqueue (workId : String) (attempt : Int) (siteId : String) (payload : Dict) (now : Int)
  | pull (siteId : String) (limit visibilityTimeoutMs now : Int)
  | ack (leaseIds : List String) (now : Int)
  | ackItems (items : List Json) (now : Int)
  | markDone (workId : String) (attempt : Int) (now : Int)

/-- The table, the number of ids that have been drawn, and the leases that have been
handed out. -/
structure QueueWorld where
  table : QueueTable
  drawn : Nat
  handed : List WorkQueueLease

/-- The primary key of the item of a lease. -/
def WorkQueueLease.key (lease : WorkQueueLease) : String × Int :=
  (lease.workId, lease.attempt)

namespace QueueWorld

variable (draw : Nat → String)

/-- A queue that has never been used. -/
def empty : QueueWorld := ⟨.empty, 0, []⟩

variable (world : QueueWorld) (call : PullCall)

/-- The arguments of a pull, with the ids that are drawn next. -/
def pullCall
    (siteId : String)
    (limit visibilityTimeoutMs now : Int) : PullCall where
  siteId := siteId
  limit := limit
  visibilityTimeoutMs := visibilityTimeoutMs
  now := now
  newId := fun count => draw (world.drawn + count)

/-- One call.  A call that raises changes nothing. -/
def step : QueueCall → Option QueueWorld
  | .enqueue workId attempt siteId payload now =>
      some { world with table := world.table.enqueueWork workId attempt siteId payload now }
  | .pull siteId limit visibilityTimeoutMs now =>
      let call := world.pullCall draw siteId limit visibilityTimeoutMs now
      some (match world.table.pullWork call with
      | none => world
      | some (leases, after) =>
          { table := after
            drawn :=
              world.drawn + ((world.table.resetExpired call).pendingRows call).length
            handed := world.handed ++ leases })
  | .ack leaseIds now => some { world with table := (world.table.ackWork now leaseIds).2 }
  | .ackItems items now =>
      some { world with
        table := ((world.table.ackWorkItems now items).map Prod.snd).getD world.table }
  | .markDone workId attempt now =>
      some { world with table := world.table.markWorkDone workId attempt now }

/-- The item of the lease carries it. -/
def Live (lease : WorkQueueLease) : Prop :=
  ∃ item, world.table.items.find? lease.key = some item ∧ item.leaseId = some lease.leaseId

/-- No item carries the id. -/
def Superseded (leaseId : String) : Prop :=
  ∀ key item, world.table.items.find? key = some item → item.leaseId ≠ some leaseId

/-- An item has at most one live lease, and carries none exactly when it is pending or
done. -/
structure Consistent (world : QueueWorld) : Prop where
  single : ∀ first ∈ world.handed, ∀ second ∈ world.handed, world.Live first →
    world.Live second → first.key = second.key → first = second
  carries : ∀ key item, world.table.items.find? key = some item →
    (item.leaseId = none ↔ item.state = .pending ∨ item.state = .done)

/-- What one call does not do. -/
structure Sound (world : QueueWorld) (call : QueueCall) : Prop where
  /-- An item is not leased before its live lease has expired. -/
  notBefore : ∀ siteId limit timeout now next,
    call = .pull siteId limit timeout now → world.step draw call = some next →
    ∀ lease ∈ next.handed, lease ∉ world.handed →
    ∀ old ∈ world.handed, old.key = lease.key → world.Live old → old.leaseExpiresAt < now
  /-- A done item is not handed out. -/
  notDone : ∀ next, world.step draw call = some next →
    ∀ lease ∈ next.handed, lease ∉ world.handed →
    ∀ item, world.table.items.find? lease.key = some item → item.state ≠ .done
  /-- A done item stays done unless it is enqueued again. -/
  staysDone : ∀ next key item, world.step draw call = some next →
    world.table.items.find? key = some item → item.state = .done →
    (∀ workId attempt siteId payload now,
      call = .enqueue workId attempt siteId payload now → (workId, attempt) ≠ key) →
    ∃ after, next.table.items.find? key = some after ∧ after.state = .done
  /-- Acknowledging superseded leases changes nothing. -/
  ackNothing : ∀ leaseIds now, call = .ack leaseIds now →
    (∀ leaseId ∈ leaseIds, world.Superseded leaseId) →
    world.table.ackWork now leaseIds = (0, world.table)
  ackItemsNothing : ∀ items now, call = .ackItems items now →
    (∀ item ∈ items, world.Superseded (QueueTable.ackLeaseId item)) →
    world.table.ackWorkItems now items = some (0, world.table)
  /-- The next state is consistent. -/
  consistent : ∀ next, world.step draw call = some next → next.Consistent

/-! ## The invariant -/

/-- Every lease that an item carries was handed out for it, with an id that was drawn
once. -/
structure Kept (world : QueueWorld) : Prop where
  carries : ∀ key item, world.table.items.find? key = some item →
    (item.leaseId = none ↔ item.state = .pending ∨ item.state = .done)
  owner : ∀ key item leaseId, world.table.items.find? key = some item →
    item.leaseId = some leaseId →
    ∃ lease ∈ world.handed, lease.leaseId = leaseId ∧ lease.key = key ∧
      item.leaseExpiresAt = some lease.leaseExpiresAt
  drawnId : ∀ lease ∈ world.handed, ∃ count < world.drawn, lease.leaseId = draw count
  distinct : (world.handed.map WorkQueueLease.leaseId).Nodup

variable {draw}

theorem kept_empty : empty.Kept draw where
  carries _ _ found := by cases found
  owner _ _ _ found := by cases found
  drawnId _ member := by cases member
  distinct := List.nodup_nil

theorem Kept.eq_of_leaseId
    {world : QueueWorld} (kept : world.Kept draw) {first second : WorkQueueLease}
    (isFirst : first ∈ world.handed) (isSecond : second ∈ world.handed)
    (same : first.leaseId = second.leaseId) : first = second :=
  List.inj_on_of_nodup_map kept.distinct isFirst isSecond same

theorem Kept.consistent
    {world : QueueWorld}
    (kept : world.Kept draw) : world.Consistent where
  single := by
    rintro first isFirst second isSecond ⟨item, found, carries⟩ ⟨other, isOther, otherCarries⟩ same
    rw [same, isOther] at found
    obtain rfl := Option.some.inj found
    rw [carries] at otherCarries
    exact kept.eq_of_leaseId isFirst isSecond (Option.some.inj otherCarries)
  carries := kept.carries

/-- What a call that hands out nothing may do to an item. -/
def Tame (before after : QueueTable) : Prop :=
  ∀ key item, after.items.find? key = some item → before.items.find? key = some item ∨
    (item.leaseId = none ∧ (item.state = .pending ∨ item.state = .done)) ∨
    ∃ old, before.items.find? key = some old ∧ old.leaseId = item.leaseId ∧
      old.leaseExpiresAt = item.leaseExpiresAt ∧ item.leaseId ≠ none ∧
        item.state ≠ .pending ∧ item.state ≠ .done

theorem Kept.tame
    {world : QueueWorld} {after : QueueTable} (kept : world.Kept draw)
    (tame : Tame world.table after) : Kept draw { world with table := after } where
  carries := by
    intro key item found
    rcases tame key item found with same | ⟨none, ended⟩ | ⟨old, -, -, -, some, apart⟩
    · exact kept.carries key item same
    · exact iff_of_true none ended
    · exact iff_of_false some (not_or.mpr apart)
  owner := by
    intro key item leaseId found carries
    rcases tame key item found with same | ⟨none, -⟩ | ⟨old, present, sameId, sameEnd, -⟩
    · exact kept.owner key item leaseId same carries
    · rw [none] at carries
      cases carries
    · rw [← sameEnd]
      exact kept.owner key old leaseId present (sameId.trans carries)
  drawnId := kept.drawnId
  distinct := kept.distinct

/-! ## Calls that hand out nothing -/

theorem find?_update
    (change : QueueItem → QueueItem)
    (keeps : ∀ item, (change item).workId = item.workId ∧ (change item).attempt = item.attempt)
    (key : String × Int) :
    (table.update change keeps).items.find? key = (table.items.find? key).map change :=
  Dictionary.find?_mapValues ..

theorem tame_enqueueWork
    (attempt : Int) (siteId : String) (payload : Dict)
    (now : Int) : Tame table (table.enqueueWork workId attempt siteId payload now) := by
  intro key item found
  simp only [QueueTable.enqueueWork, Dictionary.find?_set, Dictionary.find?_drop] at found
  split at found
  · obtain rfl := Option.some.inj found
    exact .inr (.inl ⟨rfl, .inl rfl⟩)
  · exact .inl found

theorem tame_markWorkDone
    (attempt now : Int) : Tame table (table.markWorkDone workId attempt now) := by
  intro key item found
  rw [QueueTable.markWorkDone, find?_update] at found
  obtain ⟨old, present, rfl⟩ := Option.map_eq_some_iff.mp found
  split
  · exact .inr (.inl ⟨rfl, .inr rfl⟩)
  · exact .inl present

theorem tame_ackLease
    (now : Int)
    (leaseId : String) : Tame table (table.ackLease now leaseId).2 := by
  intro key item found
  rw [QueueTable.ackLease, find?_update] at found
  obtain ⟨old, present, rfl⟩ := Option.map_eq_some_iff.mp found
  split
  · next carries =>
      exact .inr (.inr ⟨old, present, rfl, rfl, by simp [QueueItem.acked, carries], nofun, nofun⟩)
  · exact .inl present

theorem Kept.ackWork
    {world : QueueWorld} (kept : world.Kept draw) (now : Int) (leaseIds : List String) :
    Kept draw { world with table := (world.table.ackWork now leaseIds).2 } := by
  induction leaseIds generalizing world with
  | nil => exact kept
  | cons leaseId rest ih =>
      exact @ih { world with table := (world.table.ackLease now leaseId).2 }
        (kept.tame (tame_ackLease world.table now leaseId))

/-- An item of an acknowledgement changes nothing, or acknowledges its lease. -/
theorem ackItem_cases
    {table : QueueTable} {now : Int} {item : Json} {count : Nat} {after : QueueTable}
    (acked : table.ackItem now item = some (count, after)) :
    (count = 0 ∧ after = table) ∨
      (count, after) = table.ackLease now (QueueTable.ackLeaseId item) := by
  have nothing : some (0, table) = some (count, after) → count = 0 ∧ after = table := by
    intro same
    obtain ⟨rfl, rfl⟩ := Prod.mk.inj (Option.some.inj same)
    exact ⟨rfl, rfl⟩
  unfold QueueTable.ackItem at acked
  split at acked
  · exact .inl (nothing acked)
  · split at acked
    · split at acked
      · exact .inl (nothing acked)
      · split at acked
        · cases acked
        · exact .inl (nothing acked)
        · dsimp only at acked
          split at acked
          · exact .inr (Option.some.inj acked).symm
          · exact .inl (nothing acked)
    · exact .inl (nothing acked)

theorem Kept.ackWorkItems
    {world : QueueWorld} (kept : world.Kept draw) (now : Int) (items : List Json)
    {count : Nat} {after : QueueTable}
    (acked : world.table.ackWorkItems now items = some (count, after)) :
    Kept draw { world with table := after } := by
  induction items generalizing world count with
  | nil =>
      obtain ⟨rfl, rfl⟩ := Prod.mk.inj (Option.some.inj acked)
      exact kept
  | cons item rest ih =>
      obtain ⟨⟨first, middle⟩, one, others⟩ := Option.bind_eq_some_iff.mp acked
      obtain ⟨⟨more, finish⟩, later, same⟩ := Option.map_eq_some_iff.mp others
      obtain ⟨-, rfl⟩ := Prod.mk.inj same
      have keptMiddle : Kept draw { world with table := middle } := by
        rcases ackItem_cases one with ⟨-, rfl⟩ | equal
        · exact kept
        · rw [show middle = (world.table.ackLease now (QueueTable.ackLeaseId item)).2 from
            congrArg Prod.snd equal]
          exact kept.tame (tame_ackLease world.table now _)
      exact @ih { world with table := middle } keptMiddle more later

/-! ## Calls that name superseded leases -/

theorem update_of_eq
    {table : QueueTable} {change : QueueItem → QueueItem}
    (keeps : ∀ item, (change item).workId = item.workId ∧ (change item).attempt = item.attempt)
    (same : ∀ key item, table.items.find? key = some item → change item = item) :
    table.update change keeps = table := by
  have entries : table.items.entries.map (fun row => (row.1, change row.2)) =
      table.items.entries := by
    refine (List.map_congr_left fun row listed => ?_).trans (List.map_id _)
    exact Prod.ext rfl (same row.1 row.2
      ((Dictionary.find?_eq_some_iff table.items row.1 row.2).mpr listed))
  obtain ⟨⟨rows, distinct⟩, keyed⟩ := table
  simp only [QueueTable.update, Dictionary.mapValues, QueueTable.mk.injEq, Dictionary.mk.injEq]
  exact entries

theorem ackLease_superseded
    {world : QueueWorld} {leaseId : String} (superseded : world.Superseded leaseId)
    (now : Int) : world.table.ackLease now leaseId = (0, world.table) := by
  have untouched : (world.table.ackLease now leaseId).2 = world.table :=
    update_of_eq (fun item => by split <;> exact ⟨rfl, rfl⟩) fun key item found =>
      if_neg (superseded key item found)
  refine Prod.ext ?_ untouched
  refine List.length_eq_zero_iff.mpr (List.filter_eq_nil_iff.mpr fun row listed carries => ?_)
  exact superseded row.1 row.2
    ((Dictionary.find?_eq_some_iff world.table.items row.1 row.2).mpr listed)
    (of_decide_eq_true carries)

theorem ackWork_superseded
    {world : QueueWorld} {leaseIds : List String}
    (superseded : ∀ leaseId ∈ leaseIds, world.Superseded leaseId)
    (now : Int) : world.table.ackWork now leaseIds = (0, world.table) := by
  induction leaseIds with
  | nil => rfl
  | cons leaseId rest ih =>
      obtain ⟨own, others⟩ := List.forall_mem_cons.mp superseded
      simp only [QueueTable.ackWork, ackLease_superseded own now, ih others]

theorem ackItem_superseded
    {world : QueueWorld} {item : Json}
    (superseded : world.Superseded (QueueTable.ackLeaseId item))
    (now : Int) : world.table.ackItem now item = some (0, world.table) := by
  have absent : world.table.items.entries.find?
      (fun row => row.2.leaseId = some (QueueTable.ackLeaseId item)) = none := by
    refine List.find?_eq_none.mpr fun row listed carries => ?_
    exact superseded row.1 row.2
      ((Dictionary.find?_eq_some_iff world.table.items row.1 row.2).mpr listed)
      (of_decide_eq_true carries)
  unfold QueueTable.ackItem
  rw [absent]
  split
  · rfl
  · cases parseEnvelope item <;> rfl

theorem ackWorkItems_superseded
    {world : QueueWorld} {items : List Json}
    (superseded : ∀ item ∈ items, world.Superseded (QueueTable.ackLeaseId item))
    (now : Int) : world.table.ackWorkItems now items = some (0, world.table) := by
  induction items with
  | nil => rfl
  | cons item rest ih =>
      obtain ⟨own, others⟩ := List.forall_mem_cons.mp superseded
      simp only [QueueTable.ackWorkItems, ackItem_superseded own now, Option.bind_some,
        ih others, Option.map_some, Nat.add_zero]

/-! ## Items without a lease -/

/-- An acknowledgement does not reach an item that carries no lease. -/
theorem find?_ackLease
    {table : QueueTable} {key : String × Int} {item : QueueItem}
    (found : table.items.find? key = some item) (free : item.leaseId = none) (now : Int)
    (leaseId : String) : (table.ackLease now leaseId).2.items.find? key = some item := by
  rw [QueueTable.ackLease, find?_update, found, Option.map_some, if_neg ?_]
  rw [free]
  exact Option.some_ne_none leaseId ∘ Eq.symm

theorem find?_ackWork
    {table : QueueTable} {key : String × Int} {item : QueueItem}
    (found : table.items.find? key = some item) (free : item.leaseId = none) (now : Int)
    (leaseIds : List String) : (table.ackWork now leaseIds).2.items.find? key = some item := by
  induction leaseIds generalizing table with
  | nil => exact found
  | cons leaseId rest ih =>
      exact ih (find?_ackLease found free now leaseId)

theorem find?_ackWorkItems
    {table after : QueueTable} {key : String × Int} {item : QueueItem}
    (found : table.items.find? key = some item) (free : item.leaseId = none) {now : Int}
    {items : List Json} {count : Nat}
    (acked : table.ackWorkItems now items = some (count, after)) :
    after.items.find? key = some item := by
  induction items generalizing table count with
  | nil =>
      obtain ⟨-, rfl⟩ := Prod.mk.inj (Option.some.inj acked)
      exact found
  | cons first rest ih =>
      obtain ⟨⟨one, middle⟩, here, others⟩ := Option.bind_eq_some_iff.mp acked
      obtain ⟨⟨more, finish⟩, later, same⟩ := Option.map_eq_some_iff.mp others
      obtain ⟨-, rfl⟩ := Prod.mk.inj same
      refine ih ?_ later
      rcases ackItem_cases here with ⟨-, rfl⟩ | equal
      · exact found
      · rw [show middle = (table.ackLease now (QueueTable.ackLeaseId first)).2 from
          congrArg Prod.snd equal]
        exact find?_ackLease found free now _

/-! ## Pulls -/

/-- The loop over rows that are pending leases each of them, under an id of its own. -/
structure Handed
    (call : PullCall) (expires : Int) (rows : List ((String × Int) × QueueItem))
    (count : Nat) (before : QueueTable) (leases : List WorkQueueLease)
    (after : QueueTable) : Prop where
  ids : leases.map WorkQueueLease.leaseId = (List.range' count rows.length).map call.newId
  outside : ∀ key, key ∉ rows.map Prod.fst → after.items.find? key = before.items.find? key
  leased : ∀ row ∈ rows, ∃ lease ∈ leases, lease.key = row.1 ∧ lease.leaseExpiresAt = expires ∧
    after.items.find? row.1 = some (row.2.lease call.now lease.leaseId expires)
  ofRow : ∀ lease ∈ leases, ∃ row ∈ rows, lease.key = row.1

theorem find?_put (item : QueueItem) (key : String × Int) :
    (table.put item).items.find? key =
      if (item.workId, item.attempt) = key then some item else table.items.find? key :=
  Dictionary.find?_set ..

theorem handed_leaseRows
    (expires : Int) {rows : List ((String × Int) × QueueItem)} (count : Nat)
    {table : QueueTable} (distinct : (rows.map Prod.fst).Nodup)
    (present : ∀ row ∈ rows, table.items.find? row.1 = some row.2 ∧ row.2.state = .pending) :
    Handed call expires rows count table (table.leaseRows call expires rows count).1
      (table.leaseRows call expires rows count).2 := by
  induction rows generalizing count table with
  | nil =>
      exact ⟨rfl, fun _ _ => rfl, fun _ listed => absurd listed List.not_mem_nil,
        fun _ listed => absurd listed List.not_mem_nil⟩
  | cons row rest ih =>
      obtain ⟨⟨found, pending⟩, others⟩ := List.forall_mem_cons.mp present
      obtain ⟨absent, restDistinct⟩ := List.nodup_cons.mp distinct
      have key : row.1 = (row.2.workId, row.2.attempt) := table.keyed row.1 row.2 found
      have put : ∀ other, (table.put
          (row.2.lease call.now (call.newId count) expires)).items.find? other =
          if row.1 = other then some (row.2.lease call.now (call.newId count) expires)
          else table.items.find? other := by
        intro other
        rw [find?_put, key]
        rfl
      have stillPresent : ∀ other ∈ rest, (table.put
          (row.2.lease call.now (call.newId count) expires)).items.find? other.1 =
          some other.2 ∧ other.2.state = .pending := by
        intro other inRest
        obtain ⟨isThere, isPending⟩ := others other inRest
        refine ⟨?_, isPending⟩
        rw [put, if_neg ?_]
        · exact isThere
        · intro same
          exact absent (same ▸ List.mem_map_of_mem inRest)
      have handed := ih (count + 1) restDistinct stillPresent
      have unfolded : table.leaseRows call expires (row :: rest) count =
          (row.2.handOut call.siteId (call.newId count) expires ::
            ((table.put (row.2.lease call.now (call.newId count) expires)).leaseRows call
              expires rest (count + 1)).1,
            ((table.put (row.2.lease call.now (call.newId count) expires)).leaseRows call
              expires rest (count + 1)).2) := by
        obtain ⟨rowKey, item⟩ := row
        dsimp only at found pending
        simp only [QueueTable.leaseRows, found, pending, if_true]
      rw [unfolded]
      refine ⟨?_, ?_, ?_, ?_⟩
      · simp only [List.map_cons, List.length_cons, List.range'_succ, handed.ids]
        rfl
      · intro other outside
        rw [List.map_cons, List.mem_cons, not_or] at outside
        rw [handed.outside other outside.2, put, if_neg (Ne.symm outside.1)]
      · intro other listed
        rcases List.mem_cons.mp listed with rfl | inRest
        · refine ⟨_, List.mem_cons_self, key.symm, rfl, ?_⟩
          rw [handed.outside other.1 absent, put, if_pos rfl]
          rfl
        · obtain ⟨lease, isLease, rest⟩ := handed.leased other inRest
          exact ⟨lease, List.mem_cons_of_mem _ isLease, rest⟩
      · intro lease listed
        rcases List.mem_cons.mp listed with rfl | later
        · exact ⟨row, List.mem_cons_self, key.symm⟩
        · obtain ⟨other, inRest, same⟩ := handed.ofRow lease later
          exact ⟨other, List.mem_cons_of_mem _ inRest, same⟩

/-- The rows that a pull chooses are there, pending, each once. -/
theorem pendingRows_chosen :
    ((table.pendingRows call).map Prod.fst).Nodup ∧ ∀ row ∈ table.pendingRows call,
        table.items.find? row.1 = some row.2 ∧ row.2.state = .pending := by
  constructor
  · have sorted : (((table.items.entries.filter fun row =>
        decide (row.2.siteId = call.siteId) && decide (row.2.state = .pending)).mergeSort
        fun first second => decide (first.2.createdAt ≤ second.2.createdAt)).map
          Prod.fst).Nodup := by
      refine ((List.mergeSort_perm _ _).map Prod.fst).nodup_iff.mpr ?_
      exact table.items.distinct.sublist (List.filter_sublist.map Prod.fst)
    unfold QueueTable.pendingRows limited
    split
    · exact sorted
    · exact sorted.sublist ((List.take_sublist _ _).map Prod.fst)
  · intro row chosen
    have inFilter := List.mem_mergeSort.mp (QueueTable.mem_of_mem_limited chosen)
    obtain ⟨inTable, test⟩ := List.mem_filter.mp inFilter
    simp only [Bool.and_eq_true, decide_eq_true_eq] at test
    exact ⟨(Dictionary.find?_eq_some_iff _ _ _).mpr inTable, test.2⟩

/-- What a pull hands out, over the table whose expired leases are given back. -/
theorem handed_pullWork
    {table after : QueueTable} {call : PullCall} {leases : List WorkQueueLease}
    (pulled : table.pullWork call = some (leases, after)) :
    ∃ expires, Handed call expires ((table.resetExpired call).pendingRows call) 0
      (table.resetExpired call) leases after := by
  obtain ⟨expires, -, same⟩ := Option.map_eq_some_iff.mp pulled
  obtain ⟨distinct, present⟩ := pendingRows_chosen (table.resetExpired call) call
  obtain ⟨rfl, rfl⟩ := Prod.mk.inj same
  exact ⟨expires, handed_leaseRows call expires 0 distinct present⟩

theorem find?_resetExpired (key : String × Int) :
    (table.resetExpired call).items.find? key =
      (table.items.find? key).map fun item => item.refreshed call.now :=
  find?_update ..

/-- Giving back expired leases hands out nothing. -/
theorem tame_resetExpired : Tame table (table.resetExpired call) := by
  intro key item found
  rw [find?_resetExpired] at found
  obtain ⟨old, present, rfl⟩ := Option.map_eq_some_iff.mp found
  unfold QueueItem.refreshed
  split
  · exact .inr (.inl ⟨rfl, .inl rfl⟩)
  · exact .inl present

/-- The state after a pull that does not raise. -/
def pulled
    (leases : List WorkQueueLease)
    (after : QueueTable) : QueueWorld where
  table := after
  drawn := world.drawn + ((world.table.resetExpired call).pendingRows call).length
  handed := world.handed ++ leases

theorem Kept.pulled
    (uuid : Function.Injective draw) {world : QueueWorld} (kept : world.Kept draw)
    {siteId : String} {limit timeout now : Int} {leases : List WorkQueueLease}
    {after : QueueTable}
    (pull : world.table.pullWork (world.pullCall draw siteId limit timeout now) =
      some (leases, after)) :
    Kept draw (world.pulled (world.pullCall draw siteId limit timeout now) leases after) := by
  obtain ⟨expires, handed⟩ := handed_pullWork pull
  generalize isCall : world.pullCall draw siteId limit timeout now = call at *
  have newId : call.newId = fun count => draw (world.drawn + count) := by
    rw [← isCall]
    rfl
  have refreshed := kept.tame (tame_resetExpired world.table call)
  refine ⟨?_, ?_, ?_, ?_⟩
  · intro key item found
    by_cases chosen : key ∈ ((world.table.resetExpired call).pendingRows call).map Prod.fst
    · obtain ⟨row, listed, rfl⟩ := List.mem_map.mp chosen
      obtain ⟨lease, -, -, -, present⟩ := handed.leased row listed
      obtain rfl := Option.some.inj (present.symm.trans found)
      refine iff_of_false (Option.some_ne_none lease.leaseId) ?_
      simp [QueueItem.lease]
    · exact refreshed.carries key item ((handed.outside key chosen).symm.trans found)
  · intro key item leaseId found carries
    by_cases chosen : key ∈ ((world.table.resetExpired call).pendingRows call).map Prod.fst
    · obtain ⟨row, listed, rfl⟩ := List.mem_map.mp chosen
      obtain ⟨lease, isLease, isKey, ends, present⟩ := handed.leased row listed
      obtain rfl := Option.some.inj (present.symm.trans found)
      refine ⟨lease, List.mem_append_right _ isLease, Option.some.inj carries, isKey, ?_⟩
      rw [ends]
      rfl
    · obtain ⟨lease, isLease, rest⟩ := refreshed.owner key item leaseId
        ((handed.outside key chosen).symm.trans found) carries
      exact ⟨lease, List.mem_append_left _ isLease, rest⟩
  · intro lease listed
    rcases List.mem_append.mp listed with old | new
    · obtain ⟨count, below, same⟩ := kept.drawnId lease old
      exact ⟨count, Nat.lt_of_lt_of_le below (Nat.le_add_right _ _), same⟩
    · have isId : lease.leaseId ∈ leases.map WorkQueueLease.leaseId := List.mem_map_of_mem new
      rw [handed.ids, newId] at isId
      obtain ⟨count, inRange, same⟩ := List.mem_map.mp isId
      have below := (List.mem_range'_1.mp inRange).2
      refine ⟨world.drawn + count, ?_, same.symm⟩
      exact Nat.add_lt_add_left (by omega) world.drawn
  · have old := kept.distinct
    have new : (leases.map WorkQueueLease.leaseId).Nodup := by
      rw [handed.ids, newId]
      exact List.Nodup.map (fun first second same => Nat.add_left_cancel (uuid same))
        (List.nodup_range' ..)
    change ((world.handed ++ leases).map WorkQueueLease.leaseId).Nodup
    rw [List.map_append]
    refine old.append new fun leaseId inOld inNew => ?_
    obtain ⟨lease, isLease, rfl⟩ := List.mem_map.mp inOld
    obtain ⟨count, below, same⟩ := kept.drawnId lease isLease
    rw [handed.ids, newId] at inNew
    obtain ⟨other, -, sameOther⟩ := List.mem_map.mp inNew
    have equal : world.drawn + other = count := uuid (sameOther.trans same)
    omega

/-! ## Every call -/

variable (draw) in
/-- A pull that raises changes nothing. -/
theorem step_pull (siteId : String) (limit timeout now : Int) :
    (world.table.pullWork (world.pullCall draw siteId limit timeout now) = none ∧
      world.step draw (.pull siteId limit timeout now) = some world) ∨
    ∃ leases after, world.table.pullWork (world.pullCall draw siteId limit timeout now) =
        some (leases, after) ∧
      world.step draw (.pull siteId limit timeout now) =
        some (world.pulled (world.pullCall draw siteId limit timeout now) leases after) := by
  unfold step
  cases pull : world.table.pullWork (world.pullCall draw siteId limit timeout now) with
  | none => exact .inl ⟨rfl, by simp only [pull]⟩
  | some result =>
      obtain ⟨leases, after⟩ := result
      exact .inr ⟨leases, after, rfl, by simp only [pull]; rfl⟩

variable (draw) in
theorem step_ackItems (items : List Json) (now : Int) :
    (world.table.ackWorkItems now items = none ∧
      world.step draw (.ackItems items now) = some world) ∨
    ∃ count after, world.table.ackWorkItems now items = some (count, after) ∧
      world.step draw (.ackItems items now) = some { world with table := after } := by
  unfold step
  cases acked : world.table.ackWorkItems now items with
  | none => exact .inl ⟨rfl, by simp only [acked, Option.map_none, Option.getD_none]⟩
  | some result =>
      obtain ⟨count, after⟩ := result
      exact .inr ⟨count, after, rfl, by
        simp only [acked, Option.map_some, Option.getD_some]⟩

theorem Kept.step
    (uuid : Function.Injective draw) {world next : QueueWorld} (kept : world.Kept draw)
    {call : QueueCall}
    (stepped : world.step draw call = some next) : Kept draw next := by
  cases call with
  | enqueue workId attempt siteId payload now =>
      obtain rfl := Option.some.inj stepped
      exact kept.tame (tame_enqueueWork world.table workId attempt siteId payload now)
  | pull siteId limit timeout now =>
      rcases world.step_pull draw siteId limit timeout now with
        ⟨-, same⟩ | ⟨leases, after, pull, same⟩
      · obtain rfl := Option.some.inj (same.symm.trans stepped)
        exact kept
      · obtain rfl := Option.some.inj (same.symm.trans stepped)
        exact kept.pulled uuid pull
  | ack leaseIds now =>
      obtain rfl := Option.some.inj stepped
      exact kept.ackWork now leaseIds
  | ackItems items now =>
      rcases world.step_ackItems draw items now with
        ⟨-, same⟩ | ⟨count, after, acked, same⟩
      · obtain rfl := Option.some.inj (same.symm.trans stepped)
        exact kept
      · obtain rfl := Option.some.inj (same.symm.trans stepped)
        exact kept.ackWorkItems now items acked
  | markDone workId attempt now =>
      obtain rfl := Option.some.inj stepped
      exact kept.tame (tame_markWorkDone world.table workId attempt now)

/-- Only a pull hands out leases. -/
theorem handed_of_step
    {world next : QueueWorld} {call : QueueCall}
    (stepped : world.step draw call = some next) {lease : WorkQueueLease}
    (isNew : lease ∈ next.handed) (notOld : lease ∉ world.handed) :
    ∃ siteId limit timeout now leases after,
      call = .pull siteId limit timeout now ∧ lease ∈ leases ∧
      world.table.pullWork (world.pullCall draw siteId limit timeout now) =
        some (leases, after) := by
  cases call with
  | pull siteId limit timeout now =>
      rcases world.step_pull draw siteId limit timeout now with
        ⟨-, same⟩ | ⟨leases, after, pull, same⟩
      · obtain rfl := Option.some.inj (same.symm.trans stepped)
        exact absurd isNew notOld
      · obtain rfl := Option.some.inj (same.symm.trans stepped)
        refine ⟨siteId, limit, timeout, now, leases, after, rfl, ?_, pull⟩
        exact (List.mem_append.mp isNew).resolve_left notOld
  | _ =>
      obtain rfl := Option.some.inj stepped
      exact absurd isNew notOld

/-- The item of a lease that is handed out was pending, or its lease had expired. -/
theorem due_of_handed
    {table after : QueueTable} {call : PullCall} {leases : List WorkQueueLease}
    (pull : table.pullWork call = some (leases, after)) {lease : WorkQueueLease}
    (isLease : lease ∈ leases) :
    ∃ item, table.items.find? lease.key = some item ∧ item.due call.now = true := by
  obtain ⟨expires, handed⟩ := handed_pullWork pull
  obtain ⟨row, listed, isKey⟩ := handed.ofRow lease isLease
  obtain ⟨found, pending⟩ := (pendingRows_chosen (table.resetExpired call) call).2 row listed
  rw [find?_resetExpired] at found
  obtain ⟨item, present, same⟩ := Option.map_eq_some_iff.mp found
  refine ⟨item, isKey ▸ present, ?_⟩
  rw [← QueueItem.refreshed_pending, same]
  exact decide_eq_true pending

theorem Kept.notBefore
    {world : QueueWorld} (kept : world.Kept draw) {item : QueueItem} {old : WorkQueueLease}
    (isOld : old ∈ world.handed) (found : world.table.items.find? old.key = some item)
    (carries : item.leaseId = some old.leaseId) {now : Int}
    (due : item.due now = true) : old.leaseExpiresAt < now := by
  have busy : ¬ (item.state = .pending ∨ item.state = .done) := by
    intro ended
    rw [(kept.carries old.key item found).mpr ended] at carries
    cases carries
  obtain ⟨lease, isLease, sameId, -, ends⟩ := kept.owner old.key item old.leaseId found carries
  obtain rfl := kept.eq_of_leaseId isLease isOld sameId
  have expired : item.expired now = true := by
    rw [QueueItem.due, Bool.or_eq_true, decide_eq_true_eq] at due
    exact due.resolve_left fun pending => busy (.inl pending)
  rw [QueueItem.expired, ends, Bool.and_eq_true] at expired
  exact of_decide_eq_true expired.2

theorem QueueItem.not_due_of_done
    {item : QueueItem} (done : item.state = .done)
    (now : Int) : item.due now = false := by
  simp [QueueItem.due, QueueItem.expired, done]

theorem Kept.staysDone
    {world next : QueueWorld} (kept : world.Kept draw) {call : QueueCall}
    (stepped : world.step draw call = some next) {key : String × Int} {item : QueueItem}
    (found : world.table.items.find? key = some item) (done : item.state = .done)
    (notAgain : ∀ workId attempt siteId payload now,
      call = .enqueue workId attempt siteId payload now → (workId, attempt) ≠ key) :
    ∃ after, next.table.items.find? key = some after ∧ after.state = .done := by
  have free : item.leaseId = none := (kept.carries key item found).mpr (.inr done)
  cases call with
  | enqueue workId attempt siteId payload now =>
      obtain rfl := Option.some.inj stepped
      refine ⟨item, ?_, done⟩
      have other := notAgain workId attempt siteId payload now rfl
      simp only [QueueTable.enqueueWork, Dictionary.find?_set, Dictionary.find?_drop, other,
        if_false]
      exact found
  | pull siteId limit timeout now =>
      rcases world.step_pull draw siteId limit timeout now with
        ⟨-, same⟩ | ⟨leases, after, pull, same⟩
      · obtain rfl := Option.some.inj (same.symm.trans stepped)
        exact ⟨item, found, done⟩
      · obtain rfl := Option.some.inj (same.symm.trans stepped)
        obtain ⟨expires, handed⟩ := handed_pullWork pull
        have refreshed : item.refreshed now = item :=
          QueueItem.refreshed_of_not_expired (by simp [QueueItem.expired, done])
        have stays : (world.table.resetExpired
            (world.pullCall draw siteId limit timeout now)).items.find? key = some item := by
          rw [find?_resetExpired, found]
          exact congrArg some refreshed
        refine ⟨item, (handed.outside key fun chosen => ?_).trans stays, done⟩
        obtain ⟨row, listed, rfl⟩ := List.mem_map.mp chosen
        obtain ⟨present, pending⟩ := (pendingRows_chosen _ _).2 row listed
        obtain rfl := Option.some.inj (present.symm.trans stays)
        rw [pending] at done
        cases done
  | ack leaseIds now =>
      obtain rfl := Option.some.inj stepped
      exact ⟨item, find?_ackWork found free now leaseIds, done⟩
  | ackItems items now =>
      rcases world.step_ackItems draw items now with
        ⟨-, same⟩ | ⟨count, after, acked, same⟩
      · obtain rfl := Option.some.inj (same.symm.trans stepped)
        exact ⟨item, found, done⟩
      · obtain rfl := Option.some.inj (same.symm.trans stepped)
        exact ⟨item, find?_ackWorkItems found free acked, done⟩
  | markDone workId attempt now =>
      obtain rfl := Option.some.inj stepped
      have marked : (world.table.markWorkDone workId attempt now).items.find? key =
          some (if item.workId = workId ∧ item.attempt = attempt then item.finished now
            else item) := by
        rw [QueueTable.markWorkDone, find?_update, found, Option.map_some]
      refine ⟨_, marked, ?_⟩
      split
      · rfl
      · exact done

theorem Kept.sound
    (uuid : Function.Injective draw) {world : QueueWorld} (kept : world.Kept draw)
    (call : QueueCall) : world.Sound draw call where
  notBefore := by
    rintro siteId limit timeout now next rfl stepped lease isNew notOld old isOld sameKey
      ⟨item, found, carries⟩
    obtain ⟨_, _, _, _, leases, after, isPull, isLease, pull⟩ :=
      handed_of_step stepped isNew notOld
    obtain ⟨rfl, rfl, rfl, rfl⟩ := QueueCall.pull.inj isPull
    obtain ⟨other, present, due⟩ := due_of_handed pull isLease
    rw [← sameKey, found] at present
    obtain rfl := Option.some.inj present
    exact kept.notBefore isOld found carries due
  notDone := by
    intro next stepped lease isNew notOld item found done
    obtain ⟨siteId, limit, timeout, now, leases, after, -, isLease, pull⟩ :=
      handed_of_step stepped isNew notOld
    obtain ⟨other, present, due⟩ := due_of_handed pull isLease
    obtain rfl := Option.some.inj (found.symm.trans present)
    rw [QueueItem.not_due_of_done done] at due
    cases due
  staysDone := fun _ _ _ stepped found done notAgain =>
    kept.staysDone stepped found done notAgain
  ackNothing := fun _ now _ superseded => ackWork_superseded superseded now
  ackItemsNothing := fun _ now _ superseded => ackWorkItems_superseded superseded now
  consistent := fun _ stepped => (kept.step uuid stepped).consistent

/-- An item is enqueued, handed out, acknowledged and marked as done. -/
def wholeLife : List QueueCall :=
  [.enqueue "w" 1 "site" [] 0, .pull "site" 10 30000 1, .ack ["id"] 2, .markDone "w" 1 3]

/-- Ids of growing length. -/
def longerId (count : Nat) : String := String.ofList (List.replicate count 'x')

theorem longerId_injective : Function.Injective longerId := by
  intro first second same
  have lists := String.ofList_injective same
  simpa using congrArg List.length lists

end QueueWorld

end Work
end K1s
