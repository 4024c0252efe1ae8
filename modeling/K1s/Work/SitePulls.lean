import K1s.Work.SiteQueue

/-!
# Work items and the sites they are pulled for

`pull_work` of the etcd store hands out and changes items of other sites exactly when
an item under the key of the site is of another site and either has a lease that has
expired or is among the oldest items that are due.  That of the SQLite store hands
out items of the site only, and does no more to the others than to give back their
expired leases.
-/

namespace K1s
namespace Work

open Py

/-- Every lease is of an item of the site, and the items of other sites are
untouched. -/
def OwnSiteOnly
    {κ : Type} [DecidableEq κ] (call : PullCall) (before after : Dictionary κ QueueItem)
    (leases : List WorkQueueLease) : Prop :=
  (∀ lease ∈ leases, ∃ key item, before.find? key = some item ∧
    item.siteId = call.siteId ∧ lease.workId = item.workId ∧ lease.attempt = item.attempt) ∧
  ∀ key item, before.find? key = some item → item.siteId ≠ call.siteId →
    after.find? key = some item

/-- The item is pending, or will be when its lease is given back. -/
def QueueItem.due (item : QueueItem) (now : Int) : Bool :=
  decide (item.state = .pending) || item.expired now

theorem QueueItem.refreshed_pending (item : QueueItem) (now : Int) :
    decide ((item.refreshed now).state = .pending) = item.due now := by
  unfold refreshed due
  split
  · next expired => simp [reset, expired]
  · next kept => simp [Bool.eq_false_of_not_eq_true kept]

variable {item : QueueItem}

theorem QueueItem.refreshed_of_not_expired
    {now : Int}
    (kept : item.expired now = false) : item.refreshed now = item := by
  simp [refreshed, kept]

theorem QueueItem.refreshed_workId (item : QueueItem) (now : Int) :
    (item.refreshed now).workId = item.workId ∧ (item.refreshed now).attempt = item.attempt ∧
      (item.refreshed now).siteId = item.siteId ∧
      (item.refreshed now).createdAt = item.createdAt := by
  unfold refreshed
  split <;> exact ⟨rfl, rfl, rfl, rfl⟩

/-- An expired item is no longer what it was once its lease is given back. -/
theorem QueueItem.reset_ne {item : QueueItem} {now : Int} (expired : item.expired now = true) :
    item.reset now ≠ item := by
  intro same
  have pending : item.state = .pending := congrArg QueueItem.state same.symm
  simp [QueueItem.expired, pending] at expired

variable {expires limit : Int} {α : Type}

namespace EtcdQueue

variable {root : String} (queue : EtcdQueue root) (call : PullCall)

/-- The items that the call leases, as they stand before it: the oldest of those
that are due under the key of the site. -/
def oldestDue : List (Etcd.Key × QueueItem) :=
  sliceTo call.limit (((queue.rows call).filter fun row => row.2.due call.now).mergeSort
      fun first second => decide (first.2.createdAt ≤ second.2.createdAt))

/-- The call reaches an item of another site: the id of that site continues the key
of this one, and the item has an expired lease or is among the oldest that are
due. -/
def ReachesOthers : Prop :=
  call.leaseExpiresAt.isSome = true ∧
    ∃ key item, queue.items.find? key = some item ∧ item.siteId ≠ call.siteId ∧
      siteQueueKey root call.siteId <+: key ∧
      (item.expired call.now = true ∨ (key, item) ∈ queue.oldestDue call)

/-- What the claim asks of a call. -/
def KeepsToSite : Prop :=
  ∀ leases after, queue.pullWork call = some (leases, after) →
    OwnSiteOnly call queue.items after.items leases

/-! ## The expired leases -/

/-- The pass puts the expired items of the site. -/
theorem resetExpired_items :
    (queue.resetExpired call).items =
      Etcd.putRows queue.items (((queue.rows call).filter fun row =>
        row.2.expired call.now).map fun row => (row.1, row.2.reset call.now)) := by
  have general : ∀ (rows : List (Etcd.Key × QueueItem)) (reached : EtcdQueue root),
      (∀ row ∈ rows, queueKey root row.2 = row.1) →
      (rows.foldl (fun reached row =>
        if row.2.expired call.now then reached.put (row.2.reset call.now) else reached)
          reached).items =
        Etcd.putRows reached.items ((rows.filter fun row => row.2.expired call.now).map
          fun row => (row.1, row.2.reset call.now)) := by
    intro rows
    induction rows with
    | nil => exact fun _ _ => rfl
    | cons row rest ih =>
        intro reached keyed
        obtain ⟨own, others⟩ := List.forall_mem_cons.mp keyed
        rw [List.foldl_cons, ih _ others]
        by_cases expired : row.2.expired call.now = true
        · have key : queueKey root (row.2.reset call.now) = row.1 := own
          simp only [expired, if_true, List.filter_cons_of_pos, List.map_cons, Etcd.putRows,
            List.foldl_cons]
          rw [← key]
          rfl
        · simp only [expired, if_false, List.filter_cons_of_neg, not_false_eq_true,
            Bool.false_eq_true]
  refine general (queue.rows call) queue fun row listed => ?_
  obtain ⟨found, _⟩ := (Etcd.mem_rowsUnder queue.items _ row.1 row.2).mp listed
  exact (queue.keyed row.1 row.2 found).symm

/-- What the pass leaves under a key of the range. -/
theorem find?_resetExpired
    (key : Etcd.Key) (starts : siteQueueKey root call.siteId <+: key) :
    (queue.resetExpired call).items.find? key =
      (queue.items.find? key).map fun item => item.refreshed call.now := by
  have distinct : ((((queue.rows call).filter fun row =>
      row.2.expired call.now).map fun row => (row.1, row.2.reset call.now)).map Prod.fst).Nodup := by
    rw [List.map_map]
    exact (Etcd.nodup_rowsUnder queue.items _).sublist (List.filter_sublist.map Prod.fst)
  rw [resetExpired_items]
  cases found : queue.items.find? key with
  | none =>
      rw [Etcd.find?_putRows_of_not_mem]
      · exact found
      · intro listed
        rw [List.map_map] at listed
        obtain ⟨row, inRows, rfl⟩ := List.mem_map.mp listed
        obtain ⟨present, _⟩ := (Etcd.mem_rowsUnder queue.items _ row.1 row.2).mp
          (List.mem_filter.mp inRows).1
        rw [Function.comp_apply] at found
        cases found.symm.trans present
  | some item =>
      have listed : (key, item) ∈ queue.rows call :=
        (Etcd.mem_rowsUnder queue.items _ key item).mpr ⟨found, starts⟩
      cases expired : item.expired call.now with
      | true =>
          rw [Etcd.find?_putRows_of_mem queue.items distinct
            (List.mem_map.mpr ⟨(key, item), List.mem_filter.mpr ⟨listed, expired⟩, rfl⟩)]
          simp [QueueItem.refreshed, expired]
      | false =>
          rw [Etcd.find?_putRows_of_not_mem, found, Option.map_some,
            QueueItem.refreshed_of_not_expired expired]
          intro other
          rw [List.map_map] at other
          obtain ⟨row, inRows, same⟩ := List.mem_map.mp other
          obtain ⟨inRange, stale⟩ := List.mem_filter.mp inRows
          obtain ⟨present, _⟩ := (Etcd.mem_rowsUnder queue.items _ row.1 row.2).mp inRange
          rw [Function.comp_apply] at same
          rw [show row.1 = key from same, found] at present
          obtain rfl := Option.some.inj present
          rw [expired] at stale
          cases stale

/-- Outside the range nothing changes. -/
theorem find?_resetExpired_outside
    (key : Etcd.Key) (outside : ¬ siteQueueKey root call.siteId <+: key) :
    (queue.resetExpired call).items.find? key = queue.items.find? key := by
  rw [resetExpired_items, Etcd.find?_putRows_of_not_mem]
  intro listed
  rw [List.map_map] at listed
  obtain ⟨row, inRows, rfl⟩ := List.mem_map.mp listed
  exact outside ((Etcd.mem_rowsUnder queue.items _ row.1 row.2).mp (List.mem_filter.mp inRows).1).2

/-! ## The rows that are leased -/

theorem sliceTo_map {α β : Type} (limit : Int) (change : α → β) (rows : List α) :
    sliceTo limit (rows.map change) = (sliceTo limit rows).map change := by
  unfold sliceTo
  split <;> simp [List.map_take]

theorem mem_of_mem_sliceTo
    {rows : List α} {row : α}
    (listed : row ∈ sliceTo limit rows) : row ∈ rows := by
  unfold sliceTo at listed
  split at listed
  · exact List.mem_of_mem_take listed
  · exact List.mem_of_mem_take listed

/-- The rows that the loop leases are the oldest that are due, with their expired
leases given back. -/
theorem chosen_eq :
    sliceTo call.limit ((queue.resetExpired call).pendingRows call) =
      (queue.oldestDue call).map fun row => (row.1, row.2.refreshed call.now) := by
  have refreshed : (queue.resetExpired call).rows call =
      (queue.rows call).map fun row => (row.1, row.2.refreshed call.now) := by
    unfold rows
    exact Etcd.rowsUnder_of_change (fun item : QueueItem => item.refreshed call.now)
      (queue.find?_resetExpired call)
  rw [oldestDue, ← sliceTo_map, pendingRows, refreshed, List.filter_map]
  congr 1
  have dueRows : (queue.rows call).filter ((fun row : Etcd.Key × QueueItem =>
      decide (row.2.state = .pending)) ∘ fun row => (row.1, row.2.refreshed call.now)) =
      (queue.rows call).filter fun row => row.2.due call.now :=
    List.filter_congr fun row _ => QueueItem.refreshed_pending row.2 call.now
  rw [dueRows, List.map_mergeSort]
  intro first _ second _
  rw [(QueueItem.refreshed_workId first.2 call.now).2.2.2,
    (QueueItem.refreshed_workId second.2 call.now).2.2.2]

variable {row : Etcd.Key × QueueItem}

theorem mem_rows_of_mem_oldestDue (listed : row ∈ queue.oldestDue call) :
    queue.items.find? row.1 = some row.2 ∧ siteQueueKey root call.siteId <+: row.1 ∧
      row.2.due call.now = true := by
  have inFilter := List.mem_mergeSort.mp (mem_of_mem_sliceTo listed)
  obtain ⟨inRows, due⟩ := List.mem_filter.mp inFilter
  obtain ⟨found, starts⟩ := (Etcd.mem_rowsUnder queue.items _ row.1 row.2).mp inRows
  exact ⟨found, starts, due⟩

variable {rows : List (Etcd.Key × QueueItem)}

theorem mem_leaseRows
    {draw : Nat} {reached : EtcdQueue root} {lease : WorkQueueLease}
    (listed : lease ∈ (leaseRows call expires rows draw reached).1) :
    ∃ row ∈ rows, lease.workId = row.2.workId ∧ lease.attempt = row.2.attempt := by
  induction rows generalizing draw reached with
  | nil => cases listed
  | cons row rest ih =>
      rcases List.mem_cons.mp listed with rfl | later
      · exact ⟨row, List.mem_cons_self, rfl, rfl⟩
      · obtain ⟨other, inRest, same⟩ := ih later
        exact ⟨other, List.mem_cons_of_mem row inRest, same⟩

variable {key : Etcd.Key}

/-- The loop leaves the keys of other rows alone. -/
theorem find?_leaseRows_outside
    (keyed : ∀ row ∈ rows, queueKey root row.2 = row.1) (absent : key ∉ rows.map Prod.fst)
    (draw : Nat) (reached : EtcdQueue root) :
    (leaseRows call expires rows draw reached).2.items.find? key = reached.items.find? key := by
  induction rows generalizing draw reached with
  | nil => rfl
  | cons row rest ih =>
      obtain ⟨own, others⟩ := List.forall_mem_cons.mp keyed
      rw [List.map_cons, List.mem_cons, not_or] at absent
      simp only [leaseRows]
      rw [ih others absent.2]
      have different : ¬ queueKey root row.2 = key := fun same => absent.1 (same.symm.trans own)
      exact (Dictionary.find?_set _ _ _ _).trans (if_neg different)

theorem find?_leaseRows
    (keyed : ∀ row ∈ rows, queueKey root row.2 = row.1)
    (distinct : (rows.map Prod.fst).Nodup) (listed : row ∈ rows) (draw : Nat)
    (reached : EtcdQueue root) :
    ∃ leaseId, (leaseRows call expires rows draw reached).2.items.find? row.1 =
      some (row.2.lease call.now leaseId expires) := by
  induction rows generalizing draw reached with
  | nil => cases listed
  | cons first rest ih =>
      obtain ⟨own, others⟩ := List.forall_mem_cons.mp keyed
      obtain ⟨absent, restDistinct⟩ := List.nodup_cons.mp distinct
      simp only [leaseRows]
      rcases List.mem_cons.mp listed with rfl | later
      · refine ⟨call.newId draw, ?_⟩
        rw [find?_leaseRows_outside call others absent]
        exact (Dictionary.find?_set _ _ _ _).trans (if_pos own)
      · exact ih others restDistinct later _ _

/-! ## The items of other sites -/

/-- The rows that the loop leases stand under their own keys, each once. -/
theorem chosen_keyed :
    (∀ row ∈ sliceTo call.limit ((queue.resetExpired call).pendingRows call),
      queueKey root row.2 = row.1) ∧
    ((sliceTo call.limit ((queue.resetExpired call).pendingRows call)).map Prod.fst).Nodup := by
  constructor
  · intro row listed
    have inFilter := List.mem_mergeSort.mp (mem_of_mem_sliceTo listed)
    obtain ⟨found, _⟩ := (Etcd.mem_rowsUnder _ _ row.1 row.2).mp (List.mem_filter.mp inFilter).1
    exact ((queue.resetExpired call).keyed row.1 row.2 found).symm
  · have sorted : (((queue.resetExpired call).pendingRows call).map Prod.fst).Nodup := by
      refine ((List.mergeSort_perm _ _).map Prod.fst).nodup_iff.mpr ?_
      exact (Etcd.nodup_rowsUnder _ _).sublist (List.filter_sublist.map Prod.fst)
    unfold sliceTo
    split
    · exact sorted.sublist ((List.take_sublist _ _).map Prod.fst)
    · exact sorted.sublist ((List.take_sublist _ _).map Prod.fst)

/-- A key is chosen exactly when its item is among the oldest that are due. -/
theorem mem_chosen_keys (found : queue.items.find? key = some item) :
    key ∈ (sliceTo call.limit ((queue.resetExpired call).pendingRows call)).map Prod.fst ↔
      (key, item) ∈ queue.oldestDue call := by
  rw [chosen_eq, List.map_map]
  constructor
  · intro listed
    obtain ⟨row, oldest, same⟩ := List.mem_map.mp listed
    obtain ⟨present, _⟩ := queue.mem_rows_of_mem_oldestDue call oldest
    rw [show row.1 = key from same, found] at present
    obtain ⟨rowKey, rowItem⟩ := row
    obtain rfl : rowKey = key := same
    obtain rfl := Option.some.inj present
    exact oldest
  · intro oldest
    exact List.mem_map.mpr ⟨(key, item), oldest, rfl⟩

/-- A call that reaches no other site hands out items of its own site and leaves the
others alone. -/
theorem keepsToSite_of_reaches (apart : ¬ queue.ReachesOthers call) : queue.KeepsToSite call := by
  intro leases after pulled
  obtain ⟨expires, fits, same⟩ := Option.map_eq_some_iff.mp pulled
  have leasesEq := congrArg Prod.fst same
  have afterEq := congrArg Prod.snd same
  simp only at leasesEq afterEq
  have reach : ∀ key item, queue.items.find? key = some item → item.siteId ≠ call.siteId →
      siteQueueKey root call.siteId <+: key →
      item.expired call.now = false ∧ (key, item) ∉ queue.oldestDue call := by
    intro key item found other starts
    constructor
    · by_contra expired
      exact apart ⟨by rw [fits]; rfl, key, item, found, other, starts,
        .inl (Bool.eq_true_of_not_eq_false expired)⟩
    · exact fun oldest => apart ⟨by rw [fits]; rfl, key, item, found, other, starts, .inr oldest⟩
  obtain ⟨keyed, distinct⟩ := queue.chosen_keyed call
  constructor
  · intro lease listed
    rw [← leasesEq] at listed
    obtain ⟨row, chosen, workId, attempt⟩ := mem_leaseRows call listed
    rw [chosen_eq] at chosen
    obtain ⟨⟨key, item⟩, oldest, rfl⟩ := List.mem_map.mp chosen
    obtain ⟨found, starts, _⟩ := queue.mem_rows_of_mem_oldestDue call oldest
    obtain ⟨sameWork, sameAttempt, _⟩ := QueueItem.refreshed_workId item call.now
    refine ⟨key, item, found, ?_, workId.trans sameWork, attempt.trans sameAttempt⟩
    by_contra other
    exact (reach key item found other starts).2 oldest
  · intro key item found other
    rw [← afterEq]
    by_cases starts : siteQueueKey root call.siteId <+: key
    · obtain ⟨kept, notOldest⟩ := reach key item found other starts
      rw [find?_leaseRows_outside call keyed
        (fun listed => notOldest ((queue.mem_chosen_keys call found).mp listed)),
        queue.find?_resetExpired call key starts, found, Option.map_some,
        QueueItem.refreshed_of_not_expired kept]
    · have absent : key ∉ (sliceTo call.limit
          ((queue.resetExpired call).pendingRows call)).map Prod.fst := fun listed =>
        starts (queue.mem_rows_of_mem_oldestDue call
          ((queue.mem_chosen_keys call found).mp listed)).2.1
      rw [find?_leaseRows_outside call keyed absent,
        queue.find?_resetExpired_outside call key starts, found]

theorem not_keepsToSite_of_reaches (reaches : queue.ReachesOthers call) :
    ¬ queue.KeepsToSite call := by
  intro keeps
  obtain ⟨fits, key, item, found, other, starts, touched⟩ := reaches
  obtain ⟨expires, fits⟩ := Option.isSome_iff_exists.mp fits
  obtain ⟨keyed, distinct⟩ := queue.chosen_keyed call
  obtain ⟨_, unchanged⟩ := keeps _ _ (Option.map_eq_some_iff.mpr ⟨expires, fits, rfl⟩)
  have same := unchanged key item found other
  have later : call.now ≤ expires := by
    simp only [PullCall.leaseExpiresAt, Option.ite_none_right_eq_some, Option.some.injEq] at fits
    omega
  by_cases oldest : (key, item) ∈ queue.oldestDue call
  · have chosen : (key, item.refreshed call.now) ∈
        sliceTo call.limit ((queue.resetExpired call).pendingRows call) := by
      rw [chosen_eq]
      exact List.mem_map.mpr ⟨(key, item), oldest, rfl⟩
    obtain ⟨leaseId, leased⟩ := find?_leaseRows call keyed distinct chosen 0
      (queue.resetExpired call)
    have equal : (item.refreshed call.now).lease call.now leaseId expires = item :=
      Option.some.inj (leased.symm.trans same)
    have state : item.state = .leased := congrArg QueueItem.state equal.symm
    have expiry : item.leaseExpiresAt = some expires :=
      congrArg QueueItem.leaseExpiresAt equal.symm
    obtain ⟨_, _, due⟩ := queue.mem_rows_of_mem_oldestDue call oldest
    simp [QueueItem.due, QueueItem.expired, state, expiry] at due
    omega
  · have expired := touched.resolve_right oldest
    rw [find?_leaseRows_outside call keyed
      (fun listed => oldest ((queue.mem_chosen_keys call found).mp listed)),
      queue.find?_resetExpired call key starts, found, Option.map_some,
      QueueItem.refreshed, if_pos expired] at same
    exact QueueItem.reset_ne expired (Option.some.inj same)

end EtcdQueue

/-! ## The SQLite store -/

namespace QueueTable

variable (table : QueueTable) (call : PullCall)

theorem mem_of_mem_limited
    {rows : List α} {row : α}
    (listed : row ∈ limited limit rows) : row ∈ rows := by
  unfold limited at listed
  split at listed
  · exact listed
  · exact List.mem_of_mem_take listed

/-- The loop leases rows of the site only. -/
theorem leaseRows_ofSite
    {rows : List ((String × Int) × QueueItem)} (draw : Nat) (reached : QueueTable)
    (ofSite : ∀ row ∈ rows, ∀ item, reached.items.find? row.1 = some item →
      item.siteId = call.siteId) :
    (∀ lease ∈ (leaseRows call expires rows draw reached).1,
      ∃ row ∈ rows, lease.workId = row.2.workId ∧ lease.attempt = row.2.attempt) ∧
    ∀ key item, reached.items.find? key = some item → item.siteId ≠ call.siteId →
      (leaseRows call expires rows draw reached).2.items.find? key = some item := by
  induction rows generalizing draw reached with
  | nil => exact ⟨fun _ listed => absurd listed List.not_mem_nil, fun _ _ found _ => found⟩
  | cons row rest ih =>
      obtain ⟨own, others⟩ := List.forall_mem_cons.mp ofSite
      have wider : ∀ lease : WorkQueueLease,
          (∃ row ∈ rest, lease.workId = row.2.workId ∧ lease.attempt = row.2.attempt) →
          ∃ other ∈ row :: rest, lease.workId = other.2.workId ∧ lease.attempt = other.2.attempt :=
        fun lease ⟨other, inRest, same⟩ => ⟨other, List.mem_cons_of_mem row inRest, same⟩
      simp only [leaseRows]
      split
      · obtain ⟨leases, kept⟩ := ih (draw + 1) reached others
        exact ⟨fun lease listed => wider lease (leases lease listed), kept⟩
      · next item found =>
          split
          · have key := reached.keyed row.1 item found
            have put : ∀ other, (reached.put
                (item.lease call.now (call.newId draw) expires)).items.find? other =
                if row.1 = other then some (item.lease call.now (call.newId draw) expires)
                else reached.items.find? other := by
              intro other
              rw [key]
              exact Dictionary.find?_set _ _ _ _
            obtain ⟨leases, kept⟩ := ih (draw + 1)
              (reached.put (item.lease call.now (call.newId draw) expires)) (by
                intro other inRest changed present
                rw [put] at present
                split at present
                · obtain rfl := Option.some.inj present
                  exact own item found
                · exact others other inRest changed present)
            constructor
            · intro lease listed
              rcases List.mem_cons.mp listed with rfl | later
              · exact ⟨row, List.mem_cons_self, rfl, rfl⟩
              · exact wider lease (leases lease later)
            · intro other changed present foreign
              refine kept other changed ?_ foreign
              rw [put, if_neg ?_]
              · exact present
              · rintro rfl
                obtain rfl := Option.some.inj (found.symm.trans present)
                exact foreign (own _ found)
          · obtain ⟨leases, kept⟩ := ih (draw + 1) reached others
            exact ⟨fun lease listed => wider lease (leases lease listed), kept⟩

/-- A call hands out items of its site, and gives back the expired leases of the
others. -/
theorem pullWork_ofSite
    {leases : List WorkQueueLease} {after : QueueTable}
    (pulled : table.pullWork call = some (leases, after)) :
    OwnSiteOnly call (table.resetExpired call).items after.items leases := by
  obtain ⟨expires, _, same⟩ := Option.map_eq_some_iff.mp pulled
  have leasesEq := congrArg Prod.fst same
  have afterEq := congrArg Prod.snd same
  simp only at leasesEq afterEq
  have listed : ∀ row ∈ (table.resetExpired call).pendingRows call,
      (table.resetExpired call).items.find? row.1 = some row.2 ∧ row.2.siteId = call.siteId := by
    intro row chosen
    have inFilter := List.mem_mergeSort.mp (mem_of_mem_limited chosen)
    obtain ⟨inTable, test⟩ := List.mem_filter.mp inFilter
    simp only [Bool.and_eq_true, decide_eq_true_eq] at test
    exact ⟨(Dictionary.find?_eq_some_iff _ _ _).mpr inTable, test.1⟩
  obtain ⟨ofRows, kept⟩ := leaseRows_ofSite call 0 (table.resetExpired call)
    (fun row chosen item found => by
      obtain ⟨present, ofSite⟩ := listed row chosen
      obtain rfl := Option.some.inj (present.symm.trans found)
      exact ofSite)
  constructor
  · intro lease handed
    rw [← leasesEq] at handed
    obtain ⟨row, chosen, workId, attempt⟩ := ofRows lease handed
    obtain ⟨found, ofSite⟩ := listed row chosen
    exact ⟨row.1, row.2, found, ofSite, workId, attempt⟩
  · intro key item found other
    rw [← afterEq]
    exact kept key item found other

end QueueTable

/-- A call of the etcd store keeps to the items of its site exactly when it reaches no
item of another one; a call of the SQLite store does so in every state, but for the
expired leases of other sites, which it gives back. -/
theorem keepsToSite_iff
    (root : String) (queue : EtcdQueue root) (table : QueueTable) (call : PullCall) :
    (queue.KeepsToSite call ↔ ¬ queue.ReachesOthers call) ∧
      ∀ (leases : List WorkQueueLease) (after : QueueTable),
        table.pullWork call = some (leases, after) →
          OwnSiteOnly call (table.items.mapValues fun item => item.refreshed call.now)
            after.items leases :=
  ⟨⟨fun keeps reaches => queue.not_keepsToSite_of_reaches call reaches keeps,
    queue.keepsToSite_of_reaches call⟩,
    fun _ _ pulled => table.pullWork_ofSite call pulled⟩

/-- An item of the site `ab`. -/
def itemOfAb : QueueItem where
  workId := "w"
  attempt := 1
  siteId := "ab"
  payload := []
  state := .pending
  leaseId := none
  leasedAt := none
  leaseExpiresAt := none
  ackedAt := none
  createdAt := 0
  updatedAt := 0

/-- The queue with this item only. -/
def queueOfAb : EtcdQueue "k1s" :=
  EtcdQueue.put ⟨Dictionary.empty, fun _ _ found => absurd found (by simp), Dictionary.empty⟩
    itemOfAb

/-- A pull for the site `a`. -/
def pullForA : PullCall := ⟨"a", 10, 30000, 1000000, fun _ => "lease"⟩

/-- The gateway of the site `a` is handed the item of the site `ab`. -/
theorem not_keepsToSite_pullForA : ¬ queueOfAb.KeepsToSite pullForA := by
  have entries : queueOfAb.items.entries = [(queueKey "k1s" itemOfAb, itemOfAb)] := rfl
  have within : Etcd.Store.inPrefix (siteQueueKey "k1s" "a") (queueKey "k1s" itemOfAb) = true := by
    decide +kernel
  refine queueOfAb.not_keepsToSite_of_reaches pullForA ⟨rfl, queueKey "k1s" itemOfAb, itemOfAb,
    ?_, by decide, (Etcd.Store.inPrefix_iff _ _).mp within, .inr ?_⟩
  · rw [Dictionary.find?_eq_some_iff, entries]
    exact List.mem_singleton_self _
  · have rows : queueOfAb.rows pullForA = [(queueKey "k1s" itemOfAb, itemOfAb)] := by
      simp [EtcdQueue.rows, Etcd.rowsUnder, entries, pullForA, within]
    rw [EtcdQueue.oldestDue, rows]
    simp [sliceTo, pullForA, QueueItem.due, itemOfAb]

end Work
end K1s
