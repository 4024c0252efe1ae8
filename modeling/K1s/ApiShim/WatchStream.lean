import K1s.ApiShim.ResourceVersions
import K1s.HaStore.Watch
import K1s.Lib.RunningMax

/-!
# The watch of the object store

`ObjectStore.watch` puts a queue among the watchers of a kind and a namespace and
returns a generator.  The generator lists the objects when it is first asked for
an event, and then takes the published events from the queue.  It yields an object
or an event unless a greater version has gone before.

A client applies what it receives to an empty map.  The main result says exactly
when the client has the objects of the kind and namespace once the queue is empty:
the filter must not drop the last thing that the stream says about an object, but
for what leaves the object as the client has it.
-/

namespace K1s
namespace ApiShim

open Py Machine
open HaStore (EventType WatchEvent)

/-! ## Events -/

abbrev StoreEvent := EventType × K8sObject

/-- The kind and the namespace that watchers are kept under. -/
abbrev WatcherKey := Gvr × String

/-- The watchers' key of the arguments of `watch`. -/
def watcherKey (gvr : Gvr) (ns : Option String) : WatcherKey :=
  (gvr, ns.getD "*")

def K8sObject.row (object : K8sObject) : ObjectRow where
  metadata := object.metadata
  spec := object.spec
  status := object.status
  rv := object.resourceVersion

def eventKey (event : StoreEvent) : ObjectKey := event.2.key

def eventVersion (event : StoreEvent) : Int := event.2.resourceVersion

def eventLeaves (event : StoreEvent) : Option ObjectRow :=
  (event.1.leaves event.2).map K8sObject.row

/-- What `_publish_local` puts into the queue of one watcher, for an event. -/
def announced (watcher : WatcherKey) (event : StoreEvent) : List StoreEvent :=
  ([(event.2.gvr, event.2.ns.getD ""), (event.2.gvr, "*")].filter (· = watcher)).map
    fun _ => event

def ObjectStore.writeEvents (store : ObjectStore) : StoreWrite → List StoreEvent
  | .upsert gvr ns name metadata spec status resourceVersion =>
      [(if (store.get gvr ns name).isSome then .modified else .added,
        (store.upsertAt gvr ns name metadata spec status resourceVersion).1)]
  | .delete gvr ns name =>
      match store.get gvr ns name with
      | none => []
      | some prev => [(.deleted, prev)]

/-! ## The generator -/

/-- The store, the queue of the watcher and the local variables of its generator,
with what the generator has looked at and what it has yielded. -/
structure WatchWorld where
  store : ObjectStore
  queue : List StoreEvent
  listed : Bool
  lastRv : Int
  offered : List StoreEvent
  received : List WatchEvent

/-- The arguments of `watch`; bookmarks need `allow_bookmarks` and a heartbeat. -/
structure WatchCall where
  gvr : Gvr
  ns : Option String
  sinceRv : Option Int
  bookmarks : Bool

/-- What can happen next. -/
inductive WatchAction
  | write (write : StoreWrite)
  /-- The generator is asked for its first event and lists the objects. -/
  | list
  /-- The generator takes an event from the queue. -/
  | take
  /-- The heartbeat passes with an empty queue. -/
  | timeout

namespace WatchWorld

/-- `watch` has been called. -/
def opened (store : ObjectStore) (call : WatchCall) : WatchWorld where
  store := store
  queue := []
  listed := false
  lastRv := call.sinceRv.getD 0
  offered := []
  received := []

/-- The body of both loops. -/
def offer (world : WatchWorld) (event : StoreEvent) : WatchWorld :=
  let looked := { world with offered := world.offered ++ [event] }
  if world.lastRv ≤ eventVersion event then
    { looked with
      lastRv := max world.lastRv (eventVersion event)
      received := world.received ++ [.object event.1 event.2] }
  else looked

def items (world : WatchWorld) (call : WatchCall) : List K8sObject :=
  match call.ns with
  | none => world.store.listAll call.gvr
  | some ns => world.store.list call.gvr (some ns)

def listing (world : WatchWorld) (call : WatchCall) : List StoreEvent :=
  (world.items call).map fun object => (.added, object)

def step (call : WatchCall) (world : WatchWorld) : WatchAction → Option WatchWorld
  | .write write =>
      some { world with
        store := world.store.write write
        queue := world.queue ++
          (world.store.writeEvents write).flatMap (announced (watcherKey call.gvr call.ns)) }
  | .list =>
      if world.listed then none
      else some ((world.listing call).foldl offer { world with listed := true })
  | .take =>
      match world.listed, world.queue with
      | true, event :: rest => some (offer { world with queue := rest } event)
      | _, _ => none
  | .timeout =>
      if world.listed = true ∧ world.queue = [] then
        some { world with
          received := world.received ++
            if call.bookmarks then [.bookmark world.lastRv] else [] }
      else none

end WatchWorld

/-- The event of what was yielded, unless it is a bookmark. -/
def objectEvent? : WatchEvent → Option StoreEvent
  | .object type object => some (type, object)
  | .bookmark _ => none

def clientOf (received : List WatchEvent) : ObjectKey → Option ObjectRow :=
  RunningMax.apply eventKey eventLeaves (fun _ => none) (received.filterMap objectEvent?)

def WatchCall.covers (call : WatchCall) (key : ObjectKey) : Prop :=
  key.gvr = call.gvr ∧ ∀ ns, call.ns = some ns → key.ns = ns

instance (call : WatchCall) (key : ObjectKey) : Decidable (call.covers key) := by
  unfold WatchCall.covers
  cases call.ns with
  | none => exact decidable_of_iff (key.gvr = call.gvr) (by simp)
  | some ns => exact decidable_of_iff (key.gvr = call.gvr ∧ key.ns = ns) (by simp)

/-- The objects of the watched kind and namespace. -/
def WatchWorld.watched (world : WatchWorld) (call : WatchCall) :
    ObjectKey → Option ObjectRow :=
  fun key => if call.covers key then world.store.row? key else none

/-! ## When nothing is missed -/

/-- What the last event about a key leaves, whether it is late or not. -/
def lastWord (offered : List StoreEvent) (key : ObjectKey) : Option ObjectRow :=
  RunningMax.apply eventKey eventLeaves (fun _ => none) offered key

/-- The last event about the key that is not late leaves this value, or all of them
are late and the value is nothing. -/
def ToldInTime
    (floor : Int) (offered : List StoreEvent) (key : ObjectKey)
    (value : Option ObjectRow) : Prop :=
  (∃ event, eventKey event = key ∧
    RunningMax.IsLastOnTime eventVersion eventKey floor offered event ∧
    eventLeaves event = value) ∨
  (RunningMax.AllLate eventVersion eventKey floor offered key ∧ none = value)

/-- For every key of the watched kind and namespace the last event that is not late
leaves what the last event leaves; for other keys there is none that leaves
something. -/
def NothingMissed (call : WatchCall) (offered : List StoreEvent) : Prop :=
  ∀ key, ToldInTime (call.sinceRv.getD 0) offered key
    (if call.covers key then lastWord offered key else none)

/-! ## What one write says -/

/-- The rows after a write are those that its event makes of the rows before it. -/
theorem row?_write (store : ObjectStore) (write : StoreWrite) (key : ObjectKey) :
    (store.write write).row? key =
      RunningMax.apply eventKey eventLeaves store.row? (store.writeEvents write) key := by
  cases write with
  | upsert gvr ns name metadata spec status resourceVersion =>
      rw [ObjectStore.write, ObjectStore.row?_upsertAt, ObjectStore.writeEvents,
        RunningMax.apply_singleton, Function.update_apply]
      have about : eventKey (if (store.get gvr ns name).isSome then EventType.modified else .added,
            (store.upsertAt gvr ns name metadata spec status resourceVersion).1) =
          gvr.key ns name := rfl
      rw [about]
      by_cases same : key = gvr.key ns name
      · subst same
        rw [if_pos rfl, if_pos rfl, eventLeaves]
        split <;> rfl
      · rw [if_neg (Ne.symm same), if_neg same]
  | delete gvr ns name =>
      rw [ObjectStore.write, ObjectStore.row?_delete, ObjectStore.writeEvents, ObjectStore.get]
      cases found : store.row? (gvr.key ns name) with
      | none =>
          by_cases same : gvr.key ns name = key
          · rw [if_pos same, ← same]
            exact found.symm
          · rw [if_neg same]
            rfl
      | some row =>
          have about : eventKey (EventType.deleted, row.object (gvr.key ns name)) =
              gvr.key ns name := rfl
          rw [Option.map_some, RunningMax.apply_singleton, Function.update_apply, about]
          by_cases same : key = gvr.key ns name
          · rw [if_pos same.symm, if_pos same]
            rfl
          · rw [if_neg (Ne.symm same), if_neg same]

variable {event : StoreEvent} {call : WatchCall}

/-- An event about a watched object reaches the watcher. -/
theorem mem_announced (covered : call.covers (eventKey event)) :
    event ∈ announced (watcherKey call.gvr call.ns) event := by
  obtain ⟨kind, within⟩ := covered
  have sameKind : event.2.gvr = call.gvr := kind
  simp only [announced, watcherKey, List.mem_map, List.mem_filter, List.mem_cons,
    List.not_mem_nil, or_false, and_true]
  cases scope : call.ns with
  | none => exact ⟨_, .inr rfl, decide_eq_true (by rw [sameKind, Option.getD_none])⟩
  | some ns =>
      have sameNs : event.2.ns.getD "" = ns := within ns scope
      exact ⟨_, .inl rfl, decide_eq_true (by rw [sameKind, sameNs, Option.getD_some])⟩

theorem eq_of_mem_announced
    {watcher : WatcherKey} {event copy : StoreEvent}
    (member : copy ∈ announced watcher event) : copy = event := by
  obtain ⟨_, _, rfl⟩ := List.mem_map.mp member
  rfl

variable {key : ObjectKey}

/-- The watcher of a key hears of it what is published. -/
theorem apply_announced
    (covered : call.covers key) (start : ObjectKey → Option ObjectRow)
    (events : List StoreEvent) :
    RunningMax.apply eventKey eventLeaves start
        (events.flatMap (announced (watcherKey call.gvr call.ns))) key =
      RunningMax.apply eventKey eventLeaves start events key := by
  induction events using List.reverseRecOn with
  | nil => rfl
  | append_singleton front event ih =>
      rw [List.flatMap_append, List.flatMap_singleton, RunningMax.apply_append,
        RunningMax.apply_append, RunningMax.apply_singleton, Function.update_apply]
      by_cases about : key = eventKey event
      · subst about
        rw [if_pos rfl]
        obtain ⟨last, same, isLast⟩ :=
          RunningMax.exists_isLast eventKey (mem_announced covered)
        rw [← same, RunningMax.apply_of_isLast eventKey eventLeaves isLast]
        rw [eq_of_mem_announced isLast.mem]
      · rw [if_neg about, RunningMax.apply_of_forall_ne]
        · exact ih
        · intro copy member same
          rw [eq_of_mem_announced member] at same
          exact about same.symm

/-! ## The listing -/

theorem mem_items (world : WatchWorld) (call : WatchCall) (object : K8sObject) :
    object ∈ world.items call ↔ ∃ key row, world.store.row? key = some row ∧ call.covers key ∧
        row.object key = object := by
  obtain ⟨gvr, ns, sinceRv, bookmarks⟩ := call
  cases ns with
  | none =>
      rw [WatchWorld.items, ObjectStore.mem_listAll]
      simp [WatchCall.covers]
  | some ns =>
      rw [WatchWorld.items, ObjectStore.mem_list]
      simp [WatchCall.covers, and_assoc]

theorem mem_listing (world : WatchWorld) (call : WatchCall) (event : StoreEvent) :
    event ∈ world.listing call ↔
      event.1 = .added ∧ ∃ key row, world.store.row? key = some row ∧ call.covers key ∧
        row.object key = event.2 := by
  obtain ⟨type, object⟩ := event
  simp only [WatchWorld.listing, List.mem_map, Prod.mk.injEq]
  constructor
  · rintro ⟨listed, member, rfl, rfl⟩
    exact ⟨rfl, (mem_items world call listed).mp member⟩
  · rintro ⟨rfl, found⟩
    exact ⟨object, (mem_items world call object).mpr found, rfl, rfl⟩

variable {world : WatchWorld}

/-- The listing says of every watched key what the store has. -/
theorem apply_listing (covered : call.covers key) :
    RunningMax.apply eventKey eventLeaves (fun _ => none) (world.listing call) key =
      world.store.row? key := by
  by_cases about : ∃ event ∈ world.listing call, eventKey event = key
  · obtain ⟨event, member, rfl⟩ := about
    obtain ⟨last, same, isLast⟩ := RunningMax.exists_isLast eventKey member
    obtain ⟨added, key, row, stored, -, object⟩ := (mem_listing world call last).mp isLast.mem
    obtain ⟨type, _⟩ := last
    obtain rfl : type = .added := added
    subst object
    have ofKey : eventKey (EventType.added, row.object key) = key := rfl
    rw [← same, RunningMax.apply_of_isLast eventKey eventLeaves isLast, ofKey, stored]
    rfl
  · rw [RunningMax.apply_of_forall_ne eventKey eventLeaves fun event member same =>
      about ⟨event, member, same⟩]
    cases stored : world.store.row? key with
    | none => rfl
    | some row =>
        refine absurd ⟨(.added, row.object key), ?_, rfl⟩ about
        exact (mem_listing world call _).mpr ⟨rfl, key, row, stored, covered, rfl⟩

/-! ## The stream -/

theorem offer_eq (world : WatchWorld) (event : StoreEvent) :
    world.offer event =
      { world with
        offered := world.offered ++ [event]
        lastRv := max world.lastRv (eventVersion event)
        received := world.received ++
          if world.lastRv ≤ eventVersion event then [.object event.1 event.2] else [] } := by
  unfold WatchWorld.offer
  by_cases above : world.lastRv ≤ eventVersion event
  · simp only [if_pos above]
  · simp only [if_neg above, max_eq_left (le_of_not_ge above), List.append_nil]

/-- The loop over the listed objects. -/
theorem foldl_offer (world : WatchWorld) (events : List StoreEvent) :
    events.foldl WatchWorld.offer world =
      { world with
        offered := world.offered ++ events
        lastRv := RunningMax.ceiling eventVersion world.lastRv events
        received := world.received ++ (RunningMax.passed eventVersion world.lastRv events).map
            fun event => .object event.1 event.2 } := by
  induction events generalizing world with
  | nil => simp [RunningMax.passed]
  | cons event rest ih =>
      rw [List.foldl_cons, ih, offer_eq, RunningMax.passed_cons]
      by_cases above : world.lastRv ≤ eventVersion event <;> simp [above]

/-- What holds of a watch at any time: it has yielded what the filter passes on, and
the events it has looked at, with those still in the queue, say of every watched key
what the store has. -/
structure Streamed (call : WatchCall) (world : WatchWorld) : Prop where
  unlisted : world.listed = false → world.offered = []
  highest : world.lastRv = RunningMax.ceiling eventVersion (call.sinceRv.getD 0) world.offered
  yielded : world.received.filterMap objectEvent? =
    RunningMax.passed eventVersion (call.sinceRv.getD 0) world.offered
  current : ∀ key, call.covers key → RunningMax.apply eventKey eventLeaves
        (if world.listed then fun _ => none else world.store.row?)
        (world.offered ++ world.queue) key =
      world.store.row? key

theorem streamed_opened (store : ObjectStore) (call : WatchCall) :
    Streamed call (.opened store call) where
  unlisted _ := rfl
  highest := rfl
  yielded := rfl
  current _ _ := rfl

theorem streamed_take
    {rest : List StoreEvent} (streamed : Streamed call world) (listed : world.listed = true)
    (queue : world.queue = event :: rest) :
    Streamed call (WatchWorld.offer { world with queue := rest } event) := by
  rw [offer_eq]
  refine ⟨fun unlisted => ?_, ?_, ?_, fun key covered => ?_⟩
  · exact absurd (listed.symm.trans unlisted) nofun
  · rw [RunningMax.ceiling_append, ← streamed.highest]
    rfl
  · rw [RunningMax.passed_append, ← streamed.highest, ← streamed.yielded,
      RunningMax.passed_cons, List.filterMap_append]
    dsimp only
    split <;> simp [objectEvent?, RunningMax.passed]
  · have before := streamed.current key covered
    rw [queue] at before
    simpa using before

theorem streamed_step
    {world next : WatchWorld} {action : WatchAction} (streamed : Streamed call world)
    (stepped : WatchWorld.step call world action = some next) : Streamed call next := by
  cases action with
  | write write =>
      obtain rfl := Option.some.inj stepped
      refine ⟨streamed.unlisted, streamed.highest, streamed.yielded, fun key covered => ?_⟩
      have before := streamed.current key covered
      have after := row?_write world.store write key
      rw [← apply_announced covered] at after
      dsimp only
      rw [← List.append_assoc, RunningMax.apply_append]
      by_cases about : ∃ event ∈ (world.store.writeEvents write).flatMap
          (announced (watcherKey call.gvr call.ns)), eventKey event = key
      · obtain ⟨event, member, rfl⟩ := about
        rw [after]
        exact RunningMax.apply_eq_of_mem eventKey eventLeaves member _ _
      · have none : ∀ event ∈ (world.store.writeEvents write).flatMap
            (announced (watcherKey call.gvr call.ns)), eventKey event ≠ key :=
          fun event member same => about ⟨event, member, same⟩
        rw [RunningMax.apply_of_forall_ne eventKey eventLeaves none] at after ⊢
        rw [after, ← before]
        refine RunningMax.apply_congr eventKey eventLeaves ?_ _
        split
        · rfl
        · exact after
  | list =>
      simp only [WatchWorld.step, Option.ite_none_left_eq_some] at stepped
      obtain ⟨unlisted, stepped⟩ := stepped
      obtain rfl := Option.some.inj stepped
      have notListed : world.listed = false := by simpa using unlisted
      have nothing := streamed.unlisted notListed
      have floor := streamed.highest
      have none := streamed.yielded
      rw [nothing] at floor none
      rw [foldl_offer]
      refine ⟨nofun, ?_, ?_, fun key covered => ?_⟩
      · simp only [nothing, List.nil_append, floor, RunningMax.ceiling_nil]
      · simp only [nothing, List.nil_append, List.filterMap_append, none, floor,
          RunningMax.ceiling_nil, List.filterMap_map]
        simp [Function.comp_def, objectEvent?, RunningMax.passed]
      · have before := streamed.current key covered
        simp only [nothing, notListed, List.nil_append, Bool.false_eq_true, if_false] at before
        simp only [nothing, List.nil_append, if_true, RunningMax.apply_append]
        rw [← before]
        exact RunningMax.apply_congr eventKey eventLeaves (apply_listing covered) _
  | take =>
      simp only [WatchWorld.step] at stepped
      split at stepped
      · next event rest listed queue =>
          obtain rfl := Option.some.inj stepped
          exact streamed_take streamed listed queue
      · cases stepped
  | timeout =>
      obtain ⟨_, same⟩ := Option.ite_none_right_eq_some.mp stepped
      obtain rfl := Option.some.inj same
      refine ⟨streamed.unlisted, streamed.highest, ?_, streamed.current⟩
      rw [List.filterMap_append, streamed.yielded]
      split <;> simp [objectEvent?]

/-- With an empty queue the client has the watched objects of the store exactly when
nothing is missed. -/
theorem watched_iff_nothingMissed
    (call : WatchCall) (store : ObjectStore) (actions : List WatchAction) (finish : WatchWorld)
    (ran : run (WatchWorld.step call) (.opened store call) actions = some finish)
    (listed : finish.listed = true) (drained : finish.queue = []) :
    clientOf finish.received = finish.watched call ↔ NothingMissed call finish.offered := by
  have streamed : Streamed call finish :=
    invariant_of_run (fun _ _ _ holds stepped => streamed_step holds stepped)
      (streamed_opened store call) ran
  rw [clientOf, streamed.yielded, funext_iff]
  refine forall_congr' fun key => ?_
  have wanted : finish.watched call key =
      if call.covers key then lastWord finish.offered key else none := by
    rw [WatchWorld.watched]
    split
    · next covered =>
        have current := streamed.current key covered
        rw [listed, drained, List.append_nil] at current
        exact current.symm
    · rfl
  rw [wanted, ToldInTime]
  exact RunningMax.apply_passed_eq_iff eventVersion eventKey eventLeaves _ _ _ _ _

/-- Nothing is missed when the versions never go down. -/
theorem nothingMissed_of_ascending
    {offered : List StoreEvent} (ascending : (offered.map eventVersion).Pairwise (· ≤ ·))
    (above : ∀ event ∈ offered, call.sinceRv.getD 0 ≤ eventVersion event)
    (watched : ∀ event ∈ offered, call.covers (eventKey event)) :
    NothingMissed call offered := by
  have onTime := RunningMax.allOnTime_of_ascending eventVersion ascending above
  intro key
  by_cases about : ∃ event ∈ offered, eventKey event = key
  · obtain ⟨event, member, rfl⟩ := about
    rw [if_pos (watched event member), lastWord]
    obtain ⟨last, same, isLast⟩ := RunningMax.exists_isLast eventKey member
    rw [← same, RunningMax.apply_of_isLast eventKey eventLeaves isLast]
    exact .inl ⟨last, rfl,
      (RunningMax.isLastOnTime_iff_of_allOnTime eventVersion eventKey onTime last).mpr isLast,
      rfl⟩
  · have none : ∀ event ∈ offered, eventKey event ≠ key := fun event member same =>
      about ⟨event, member, same⟩
    refine .inr ⟨?_, ?_⟩
    · exact (RunningMax.allLate_iff_of_allOnTime eventVersion eventKey onTime key).mpr none
    · rw [lastWord, RunningMax.apply_of_forall_ne eventKey eventLeaves none, ite_self]

/-! ## An update that is told of, and a deletion that is not -/

def configMapsCall : WatchCall := ⟨⟨"", "v1", "configmaps"⟩, some "default", none, false⟩

def twoConfigMaps : ObjectStore :=
  (ObjectStore.empty.write (VersionHistory.writeConfigMap "first")).write
    (VersionHistory.writeConfigMap "second")

/-- After the listing the first object is written again. -/
def updateRun : List WatchAction :=
  [.list, .write (VersionHistory.writeConfigMap "first"), .take]

/-- After the listing the first object is deleted. -/
def deleteRun : List WatchAction :=
  [.list, .write (.delete ⟨"", "v1", "configmaps"⟩ (some "default") "first"), .take]

theorem watched_updateRun :
    ∃ finish,
      run (WatchWorld.step configMapsCall) (.opened twoConfigMaps configMapsCall) updateRun =
          some finish ∧
        NothingMissed configMapsCall finish.offered ∧
        clientOf finish.received = finish.watched configMapsCall := by
  have reached : ((run (WatchWorld.step configMapsCall)
      (.opened twoConfigMaps configMapsCall) updateRun).map fun finish =>
        (finish.listed, finish.queue.isEmpty, finish.offered.map eventVersion,
          decide (∀ event ∈ finish.offered, configMapsCall.covers (eventKey event)))) =
      some (true, true, [1, 2, 3], true) := by
    decide +kernel
  obtain ⟨finish, ran, facts⟩ := Option.map_eq_some_iff.mp reached
  simp only [Prod.mk.injEq, List.isEmpty_iff, decide_eq_true_eq] at facts
  obtain ⟨listed, drained, versions, covered⟩ := facts
  have complete : NothingMissed configMapsCall finish.offered := by
    refine nothingMissed_of_ascending (by rw [versions]; decide) ?_ covered
    intro event _
    exact Int.natCast_nonneg _
  exact ⟨finish, ran, complete,
    (watched_iff_nothingMissed configMapsCall twoConfigMaps updateRun finish ran listed
      drained).mpr complete⟩

/-- The client keeps the deleted object. -/
theorem not_watched_deleteRun :
    ∃ finish,
      run (WatchWorld.step configMapsCall) (.opened twoConfigMaps configMapsCall) deleteRun =
          some finish ∧
        finish.listed = true ∧ finish.queue = [] ∧
        clientOf finish.received ≠ finish.watched configMapsCall := by
  have reached : ((run (WatchWorld.step configMapsCall)
      (.opened twoConfigMaps configMapsCall) deleteRun).map fun finish =>
        (finish.listed, finish.queue.isEmpty, (clientOf finish.received
            ⟨⟨"", "v1", "configmaps"⟩, "default", "first"⟩).isSome,
          (finish.watched configMapsCall ⟨⟨"", "v1", "configmaps"⟩, "default", "first"⟩).isSome)) =
      some (true, true, true, false) := by
    decide +kernel
  obtain ⟨finish, ran, facts⟩ := Option.map_eq_some_iff.mp reached
  simp only [Prod.mk.injEq, List.isEmpty_iff] at facts
  obtain ⟨listed, drained, has, gone⟩ := facts
  refine ⟨finish, ran, listed, drained, fun same => ?_⟩
  rw [same, gone] at has
  cases has

end ApiShim
end K1s
