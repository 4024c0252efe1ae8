import K1s.ApiShim.Store
import K1s.Lib.Dictionary

/-!
# Watches that poll the shared authority

`WorkloadAuthorityStore.watch` and `GenericAuthorityStore.watch` have the same
body: a first pass over a snapshot, and then a loop that compares each new
snapshot with the objects it knows.  A client applies the events that it
receives to the objects that it had at the version it asked for.

The main result says exactly when the client ends with the latest snapshot at
every poll: the first pass has to leave nothing out, and no object may be
replaced between two polls by another one of the same or a smaller version.
-/

namespace K1s
namespace HaStore

open ApiShim

/-! ## The loop of `watch` -/

/-- `(obj.namespace, obj.name)`. -/
abbrev WatchKey := Option String × String

/-- The key of an object in the `known` map. -/
def watchKey (object : K8sObject) : WatchKey :=
  (object.ns, object.name)

inductive EventType
  | added
  | modified
  | deleted
  deriving DecidableEq

/-- What `watch` yields.  A bookmark is yielded as a triple, with its type twice,
and carries the greatest version seen. -/
inductive WatchEvent
  | object (type : EventType) (object : K8sObject)
  | bookmark (lastRv : Int)
  deriving DecidableEq

/-- The local variables of the generator. -/
structure WatchState where
  known : Dictionary WatchKey K8sObject
  lastRv : Int

variable (snapshot : List K8sObject) (state : WatchState) (client : Client) (floor : Int)
  (objects : List K8sObject)

/-- `{(obj.namespace, obj.name): obj for obj in current}`. -/
def currentMap : Dictionary WatchKey K8sObject :=
  Dictionary.ofList (snapshot.map fun object => (watchKey object, object))

/-- The first pass.  Without a version every object is reported, and otherwise
those whose version is greater than the running maximum. -/
def firstPass (everything : Bool) :
    WatchState → List K8sObject → List WatchEvent × WatchState
  | state, [] => ([], state)
  | state, object :: rest =>
      let known := state.known.set (watchKey object) object
      if everything || decide (state.lastRv < object.resourceVersion) then
        let later := firstPass everything
          ⟨known, max state.lastRv object.resourceVersion⟩ rest
        (.object .added object :: later.1, later.2)
      else firstPass everything ⟨known, state.lastRv⟩ rest

/-- The events of one comparison, before they are sorted. -/
def pollEvents (known current : Dictionary WatchKey K8sObject) :
    List (EventType × K8sObject) :=
  (current.entries.filterMap fun (key, object) =>
    match known.find? key with
    | none => some (.added, object)
    | some prev =>
        if prev.resourceVersion < object.resourceVersion then
          some (.modified, object)
        else none) ++
  known.entries.filterMap fun (key, prev) =>
    if (current.find? key).isNone then some (.deleted, prev) else none

/-- `events.sort(key=lambda item: (int(item[1].resource_version), item[1].name))`. -/
def sortEvents (events : List (EventType × K8sObject)) : List (EventType × K8sObject) :=
  events.mergeSort fun first second =>
    decide (first.2.resourceVersion < second.2.resourceVersion) ||
      (decide (first.2.resourceVersion = second.2.resourceVersion) &&
        decide (first.2.name ≤ second.2.name))

def remember (event : EventType × K8sObject) : WatchState where
  known :=
    let known := state.known.set (watchKey event.2) event.2
    if event.1 = .deleted then known.drop (watchKey event.2) else known
  lastRv := max state.lastRv event.2.resourceVersion

/-- One turn of the loop: the snapshot it sees, and whether a bookmark is
allowed and its time has come. -/
structure Poll where
  snapshot : List K8sObject
  bookmarkDue : Bool

def poll (turn : Poll) : List WatchEvent × WatchState :=
  let events := sortEvents (pollEvents state.known (currentMap turn.snapshot))
  if events.isEmpty then
    (if turn.bookmarkDue then [.bookmark state.lastRv] else [], state)
  else
    (events.map fun event => .object event.1 event.2, events.foldl remember state)

/-- The events of a number of turns. -/
def watchFrom : WatchState → List Poll → List WatchEvent
  | _, [] => []
  | state, turn :: rest =>
      (poll state turn).1 ++ watchFrom (poll state turn).2 rest

/-- `watch`, up to the last of the given turns. -/
def watch
    (sinceRv : Option Int) (initial : List K8sObject)
    (turns : List Poll) : List WatchEvent :=
  let normalized := sinceRv.getD 0
  let first := firstPass (decide (normalized ≤ 0)) ⟨.empty, normalized⟩ initial
  first.1 ++ watchFrom first.2 turns

/-! ## The client -/

abbrev Client := WatchKey → Option K8sObject

def Client.receive : WatchEvent → Client
  | .object .deleted object => Function.update client (watchKey object) none
  | .object _ object => Function.update client (watchKey object) (some object)
  | .bookmark _ => client

def Client.receiveAll (events : List WatchEvent) : Client :=
  events.foldl Client.receive client

/-- The objects of a snapshot. -/
def viewOf : Client :=
  (currentMap snapshot).find?

/-- The snapshot of the last turn. -/
def latest (initial : List K8sObject) (turns : List Poll) : List K8sObject :=
  (turns.map Poll.snapshot).getLastD initial

/-- After the first pass and after every turn the client has the snapshot that
was seen last. -/
def Follows
    (sinceRv : Option Int) (had : Client) (initial : List K8sObject)
    (turns : List Poll) : Prop :=
  ∀ count, had.receiveAll (watch sinceRv initial (turns.take count)) =
      viewOf (latest initial (turns.take count))

/-! ## When a client follows -/

/-- The object has a greater version than `floor` and than all objects that are
listed before it. -/
def Newer (front : List K8sObject) (object : K8sObject) : Prop :=
  floor < object.resourceVersion ∧
    ∀ earlier ∈ front, earlier.resourceVersion < object.resourceVersion

/-- No object of the key is newer than `floor` and than those before it. -/
def NoneNewer (key : WatchKey) (objects : List K8sObject) : Prop :=
  ∀ front object back, objects = front ++ object :: back →
    watchKey object = key → ¬ Newer floor front object

/-- The client needs no event for the object, or the object is the last one of
its key that is newer than the version asked for and than those before it. -/
def Delivered
    (had : Client) (initial : List K8sObject)
    (object : K8sObject) : Prop :=
  (had (watchKey object) = some object ∧ NoneNewer floor (watchKey object) initial) ∨
    ∃ front back, initial = front ++ object :: back ∧ Newer floor front object ∧
      NoneNewer object.resourceVersion (watchKey object) back

/-- The client had nothing that is gone from the first snapshot, and what is in
the snapshot is delivered. -/
structure Covered
    (sinceRv : Option Int) (had : Client)
    (initial : List K8sObject) : Prop where
  gone : ∀ key, viewOf initial key = none → had key = none
  present : 0 < sinceRv.getD 0 → ∀ key object, viewOf initial key = some object →
      Delivered (sinceRv.getD 0) had initial object

/-- An object that is in both snapshots is the same or has a greater version. -/
def Noticed (older newer : List K8sObject) : Prop :=
  ∀ key before after, viewOf older key = some before → viewOf newer key = some after →
      after = before ∨ before.resourceVersion < after.resourceVersion

/-! ## Receiving events -/

@[simp] theorem receiveAll_nil : client.receiveAll [] = client := rfl

@[simp] theorem receiveAll_cons (event : WatchEvent) (rest : List WatchEvent) :
    client.receiveAll (event :: rest) = (client.receive event).receiveAll rest := rfl

@[simp] theorem receiveAll_append (first second : List WatchEvent) :
    client.receiveAll (first ++ second) = (client.receiveAll first).receiveAll second :=
  List.foldl_append

/-- What an event leaves under the key of its object. -/
def EventType.leaves (type : EventType) (object : K8sObject) : Option K8sObject :=
  if type = .deleted then none else some object

theorem receive_object (type : EventType) (object : K8sObject) :
    client.receive (.object type object) =
      Function.update client (watchKey object) (type.leaves object) := by
  cases type <;> rfl

/-- Events that are not about a key leave it alone, and events about the key
that all leave the same value leave that value. -/
theorem receiveAll_map_object
    (events : List (EventType × K8sObject)) (key : WatchKey) (value : Option K8sObject)
    (agree : ∀ event ∈ events, watchKey event.2 = key → event.1.leaves event.2 = value) :
    client.receiveAll (events.map fun event => .object event.1 event.2) key =
      if ∃ event ∈ events, watchKey event.2 = key then value else client key := by
  induction events generalizing client with
  | nil => simp
  | cons event rest ih =>
      have agreeRest : ∀ event ∈ rest, watchKey event.2 = key → event.1.leaves event.2 = value :=
        fun event member => agree event (List.mem_cons_of_mem _ member)
      simp only [List.map_cons, receiveAll_cons, ih _ agreeRest, receive_object]
      by_cases same : watchKey event.2 = key
      · have first := agree event List.mem_cons_self same
        simp [same, first]
      · have shorter : (∃ other ∈ event :: rest, watchKey other.2 = key) ↔
            ∃ other ∈ rest, watchKey other.2 = key := by
          simp only [List.mem_cons, exists_eq_or_imp, same, false_or]
        simp only [shorter, Function.update_of_ne (Ne.symm same)]

/-- The map of known objects follows the events as a client does. -/
theorem find?_foldl_remember (events : List (EventType × K8sObject)) :
    (events.foldl remember state).known.find? = Client.receiveAll state.known.find?
        (events.map fun event => .object event.1 event.2) := by
  induction events generalizing state with
  | nil => rfl
  | cons event rest ih =>
      have first : (remember state event).known.find? =
          Client.receive state.known.find? (.object event.1 event.2) := by
        funext key
        obtain ⟨type, object⟩ := event
        cases type <;>
          simp [remember, Client.receive, Function.update_apply, eq_comm]
        grind
      simp only [List.foldl_cons, List.map_cons, receiveAll_cons, ih, first]

/-! ## The first pass -/

/-- Put objects over what a client has. -/
def overlay : Client :=
  objects.foldl (fun client object => Function.update client (watchKey object) (some object))
    client

theorem find?_foldl_set (known : Dictionary WatchKey K8sObject) (objects : List K8sObject) :
    (objects.foldl (fun known object => known.set (watchKey object) object)
      known).find? = overlay known.find? objects := by
  induction objects generalizing known with
  | nil => rfl
  | cons object rest ih =>
      have first : (known.set (watchKey object) object).find? =
          Function.update known.find? (watchKey object) (some object) := by
        funext key
        simp [Function.update_apply, eq_comm]
      simp only [List.foldl_cons, ih, first, overlay]

theorem viewOf_eq_overlay : viewOf objects = overlay (fun _ => none) objects := by
  rw [viewOf, currentMap, Dictionary.ofList, List.foldl_map, find?_foldl_set]
  rfl

/-- The objects in front, and below them what the client had. -/
theorem overlay_apply (key : WatchKey) :
    overlay client objects key = (viewOf objects key).or (client key) := by
  rw [viewOf_eq_overlay]
  induction objects using List.reverseRecOn with
  | nil => rfl
  | append_singleton front object ih =>
      simp only [overlay, List.foldl_append, List.foldl_cons, List.foldl_nil,
        Function.update_apply] at ih ⊢
      split
      · rfl
      · exact ih

/-- An object of a snapshot is found under its own key. -/
theorem watchKey_of_viewOf
    {objects : List K8sObject} {key : WatchKey} {object : K8sObject}
    (found : viewOf objects key = some object) : watchKey object = key := by
  rw [viewOf_eq_overlay] at found
  induction objects using List.reverseRecOn with
  | nil => simp [overlay] at found
  | append_singleton front last ih =>
      simp only [overlay, List.foldl_append, List.foldl_cons, List.foldl_nil,
        Function.update_apply] at ih found
      split at found
      · next same =>
          obtain rfl := Option.some.inj found
          exact same.symm
      · exact ih found

/-- The first pass knows the whole snapshot, whatever it reports. -/
theorem known_firstPass
    (everything : Bool) (state : WatchState) (objects : List K8sObject) :
    (firstPass everything state objects).2.known =
      objects.foldl (fun known object => known.set (watchKey object) object)
        state.known := by
  induction objects generalizing state with
  | nil => rfl
  | cons object rest ih =>
      rw [firstPass]
      split <;> exact ih _

/-- Without a version the client gets every object. -/
theorem receiveAll_firstPass_everything (state : WatchState) (objects : List K8sObject) :
    client.receiveAll (firstPass true state objects).1 = overlay client objects := by
  induction objects generalizing client state with
  | nil => rfl
  | cons object rest ih =>
      simp only [firstPass, Bool.true_or, if_true, receiveAll_cons,
        ih, Client.receive, overlay, List.foldl_cons]

/-- The events of the first pass depend on the running maximum only. -/
theorem firstPass_cons_newer (object : K8sObject) (rest : List K8sObject) :
    (firstPass false state (object :: rest)).1 =
      (if state.lastRv < object.resourceVersion then [.object .added object]
        else []) ++
      (firstPass false ⟨state.known.set (watchKey object) object,
          max state.lastRv object.resourceVersion⟩ rest).1 := by
  by_cases newer : state.lastRv < object.resourceVersion
  · simp [firstPass, newer]
  · simp [firstPass, newer, max_eq_left (not_lt.mp newer)]

theorem newer_cons (first object : K8sObject) (front : List K8sObject) :
    Newer floor (first :: front) object ↔
      Newer (max floor first.resourceVersion) front object := by
  simp only [Newer, List.mem_cons, forall_eq_or_imp, max_lt_iff, Int.ofNat_lt]
  tauto

theorem noneNewer_cons (key : WatchKey) (object : K8sObject) (rest : List K8sObject) :
    NoneNewer floor key (object :: rest) ↔
      (watchKey object = key → ¬ floor < object.resourceVersion) ∧
        NoneNewer (max floor object.resourceVersion) key rest := by
  constructor
  · intro none
    refine ⟨fun same newer => none [] object rest rfl same ⟨newer, by simp⟩, ?_⟩
    intro front later back split same newer
    refine none (object :: front) later back (by simp [split]) same ?_
    exact (newer_cons floor object later front).mpr newer
  · rintro ⟨first, none⟩ front later back split same newer
    cases front with
    | nil =>
        simp only [List.nil_append, List.cons.injEq] at split
        obtain ⟨rfl, rfl⟩ := split
        exact first same newer.1
    | cons head front =>
        simp only [List.cons_append, List.cons.injEq] at split
        obtain ⟨rfl, split⟩ := split
        exact none front later back split same ((newer_cons floor object later front).mp newer)

/-- Where no object of a key is newer, the client keeps what it has. -/
theorem receiveAll_firstPass_of_noneNewer
    (state : WatchState) (objects : List K8sObject) (key : WatchKey)
    (none : NoneNewer state.lastRv key objects) :
    client.receiveAll (firstPass false state objects).1 key = client key := by
  induction objects generalizing client state with
  | nil => rfl
  | cons object rest ih =>
      obtain ⟨first, later⟩ := (noneNewer_cons _ _ _ _).mp none
      rw [firstPass_cons_newer, receiveAll_append]
      refine (ih _ ⟨_, _⟩ later).trans ?_
      split
      · next newer =>
          have other : key ≠ watchKey object := fun same => first same.symm newer
          simp [Client.receive, Function.update_of_ne other]
      · rfl

/-- The client ends with the last object of a key that is newer. -/
theorem receiveAll_firstPass_of_newer
    (state : WatchState) (front back : List K8sObject) (object : K8sObject)
    (newer : Newer state.lastRv front object)
    (none : NoneNewer object.resourceVersion (watchKey object) back) :
    client.receiveAll (firstPass false state (front ++ object :: back)).1
      (watchKey object) = some object := by
  induction front generalizing client state with
  | nil =>
      have above : max state.lastRv object.resourceVersion = object.resourceVersion :=
        max_eq_right newer.1.le
      rw [List.nil_append, firstPass_cons_newer, if_pos newer.1, above, receiveAll_append]
      refine (receiveAll_firstPass_of_noneNewer _ ⟨_, _⟩ back _ none).trans ?_
      simp [Client.receive]
  | cons first front ih =>
      rw [List.cons_append, firstPass_cons_newer, receiveAll_append]
      exact ih _ ⟨_, _⟩ ((newer_cons _ _ _ _).mp newer)

/-- Either no object of a key is newer, or there is a last one that is. -/
theorem noneNewer_or_last (key : WatchKey) (objects : List K8sObject) :
    NoneNewer floor key objects ∨ ∃ front object back, objects = front ++ object :: back ∧
        watchKey object = key ∧ Newer floor front object ∧
        NoneNewer object.resourceVersion key back := by
  induction objects generalizing floor with
  | nil =>
      refine .inl fun front object back split => ?_
      simp at split
  | cons object rest ih =>
      rcases ih (max floor object.resourceVersion) with
        none | ⟨front, last, back, rfl, same, newer, after⟩
      · by_cases first : watchKey object = key ∧ floor < object.resourceVersion
        · have above : max floor object.resourceVersion = object.resourceVersion :=
            max_eq_right first.2.le
          refine .inr ⟨[], object, rest, rfl, first.1, ⟨first.2, by simp⟩, ?_⟩
          exact above ▸ none
        · refine .inl ((noneNewer_cons _ _ _ _).mpr ⟨?_, none⟩)
          exact fun same newer => first ⟨same, newer⟩
      · refine .inr ⟨object :: front, last, back, rfl, same, ?_, after⟩
        exact (newer_cons _ _ _ _).mpr newer

/-- An object is what the client ends with exactly when it is delivered. -/
theorem receiveAll_firstPass_iff
    (had : Client) (state : WatchState) (initial : List K8sObject) (object : K8sObject) :
    had.receiveAll (firstPass false state initial).1 (watchKey object) = some object ↔
      Delivered state.lastRv had initial object := by
  constructor
  · intro received
    rcases noneNewer_or_last state.lastRv (watchKey object) initial with
      none | ⟨front, last, back, rfl, same, newer, after⟩
    · rw [receiveAll_firstPass_of_noneNewer _ _ _ _ none] at received
      exact .inl ⟨received, none⟩
    · rw [← same] at received after
      rw [receiveAll_firstPass_of_newer _ _ _ _ _ newer after] at received
      obtain rfl := Option.some.inj received
      exact .inr ⟨front, back, rfl, newer, after⟩
  · rintro (⟨kept, none⟩ | ⟨front, back, rfl, newer, after⟩)
    · rw [receiveAll_firstPass_of_noneNewer _ _ _ _ none, kept]
    · exact receiveAll_firstPass_of_newer _ _ _ _ _ newer after

/-- After the first pass the client has the snapshot exactly when it is
covered. -/
theorem receiveAll_firstPass_eq_viewOf_iff
    (sinceRv : Option Int) (had : Client) (initial : List K8sObject) :
    had.receiveAll (firstPass (decide (sinceRv.getD 0 ≤ 0))
      ⟨.empty, sinceRv.getD 0⟩ initial).1 = viewOf initial ↔
      Covered sinceRv had initial := by
  by_cases early : sinceRv.getD 0 ≤ 0
  · simp only [early, decide_true, receiveAll_firstPass_everything]
    constructor
    · intro equal
      refine ⟨fun key absent => ?_, fun late => absurd late (not_lt.mpr early)⟩
      have := congrFun equal key
      simpa [overlay_apply, absent] using this
    · rintro ⟨gone, -⟩
      funext key
      rw [overlay_apply]
      cases found : viewOf initial key with
      | none => simpa using gone key found
      | some object => rfl
  · simp only [early, decide_false]
    have received := receiveAll_firstPass_iff had ⟨.empty, sinceRv.getD 0⟩ initial
    -- A key that the snapshot does not have is not touched.
    have untouched : ∀ key, viewOf initial key = none →
        had.receiveAll (firstPass false ⟨.empty, sinceRv.getD 0⟩ initial).1 key = had key := by
      intro key absent
      apply receiveAll_firstPass_of_noneNewer
      intro front object back split same
      have present : viewOf initial key ≠ none := by
        rw [viewOf_eq_overlay, split, overlay, List.foldl_append, List.foldl_cons]
        change overlay (Function.update _ (watchKey object) (some object)) back key ≠ none
        rw [overlay_apply]
        simp [same]
      exact absurd absent present
    constructor
    · intro equal
      refine ⟨fun key absent => ?_, fun _ key object found => ?_⟩
      · rw [← untouched key absent, equal, absent]
      · obtain rfl := watchKey_of_viewOf found
        exact (received object).mp ((congrFun equal _).trans found)
    · rintro ⟨gone, present⟩
      funext key
      cases found : viewOf initial key with
      | none => rw [untouched key found, gone key found]
      | some object =>
          obtain rfl := watchKey_of_viewOf found
          exact (received object).mpr (present (not_le.mp early) _ object found)

/-! ## One turn of the loop -/

/-- Every object is known under its own key. -/
def Keyed (known : Dictionary WatchKey K8sObject) : Prop :=
  ∀ key object, known.find? key = some object → watchKey object = key

theorem keyed_currentMap : Keyed (currentMap snapshot) :=
  fun _ _ found => watchKey_of_viewOf found

theorem mem_pollEvents
    (known current : Dictionary WatchKey K8sObject) (event : EventType × K8sObject) :
    event ∈ pollEvents known current ↔
      (∃ key, current.find? key = some event.2 ∧ known.find? key = none ∧ event.1 = .added) ∨
      (∃ key prev, current.find? key = some event.2 ∧ known.find? key = some prev ∧
        prev.resourceVersion < event.2.resourceVersion ∧ event.1 = .modified) ∨
      ∃ key, known.find? key = some event.2 ∧ current.find? key = none ∧ event.1 = .deleted := by
  obtain ⟨type, object⟩ := event
  simp only [pollEvents, List.mem_append, List.mem_filterMap, Option.isNone_iff_eq_none]
  rw [← or_assoc]
  refine or_congr ⟨?_, ?_⟩ ⟨?_, ?_⟩
  · rintro ⟨⟨key, shown⟩, listed, emitted⟩
    have found := (current.find?_eq_some_iff key shown).mpr listed
    cases prior : known.find? key with
    | none =>
        simp only [prior, Option.some.injEq, Prod.mk.injEq] at emitted
        obtain ⟨rfl, rfl⟩ := emitted
        exact .inl ⟨key, found, prior, rfl⟩
    | some prev =>
        simp only [prior] at emitted
        split at emitted
        · next newer =>
            simp only [Option.some.injEq, Prod.mk.injEq] at emitted
            obtain ⟨rfl, rfl⟩ := emitted
            exact .inr ⟨key, prev, found, prior, newer, rfl⟩
        · simp at emitted
  · rintro (⟨key, found, prior, rfl⟩ | ⟨key, prev, found, prior, newer, rfl⟩)
    · exact ⟨(key, object), (current.find?_eq_some_iff key object).mp found,
        by simp [prior]⟩
    · exact ⟨(key, object), (current.find?_eq_some_iff key object).mp found,
        by simp only [prior, newer, if_true]⟩
  · rintro ⟨⟨key, prev⟩, listed, emitted⟩
    have found := (known.find?_eq_some_iff key prev).mpr listed
    by_cases absent : current.find? key = none
    · simp only [absent, if_true, Option.some.injEq, Prod.mk.injEq] at emitted
      obtain ⟨rfl, rfl⟩ := emitted
      exact ⟨key, found, absent, rfl⟩
    · simp [absent] at emitted
  · rintro ⟨key, found, absent, rfl⟩
    exact ⟨(key, object), (known.find?_eq_some_iff key object).mp found,
      by simp [absent]⟩

/-- What is known of a key after a turn. -/
def afterPoll (known current : Option K8sObject) : Option K8sObject :=
  match current, known with
  | none, _ => none
  | some object, none => some object
  | some object, some prev =>
      if prev.resourceVersion < object.resourceVersion then some object else some prev

/-- The events of a turn lead from what was known to what is known then. -/
theorem receiveAll_pollEvents
    {known current : Dictionary WatchKey K8sObject} (keyedKnown : Keyed known)
    (keyedCurrent : Keyed current) (key : WatchKey) :
    Client.receiveAll known.find? ((sortEvents (pollEvents known current)).map
      fun event => .object event.1 event.2) key =
        afterPoll (known.find? key) (current.find? key) := by
  have about : ∀ event ∈ sortEvents (pollEvents known current), watchKey event.2 = key →
        (current.find? key = some event.2 ∧ known.find? key = none ∧ event.1 = .added) ∨
        (∃ prev, current.find? key = some event.2 ∧ known.find? key = some prev ∧
          prev.resourceVersion < event.2.resourceVersion ∧ event.1 = .modified) ∨
        (known.find? key = some event.2 ∧ current.find? key = none ∧ event.1 = .deleted) := by
    intro event member same
    rw [sortEvents, List.mem_mergeSort, mem_pollEvents] at member
    rcases member with ⟨other, found, rest⟩ | ⟨other, prev, found, rest⟩ | ⟨other, found, rest⟩
    · obtain rfl : other = key := (keyedCurrent _ _ found).symm.trans same
      exact .inl ⟨found, rest⟩
    · obtain rfl : other = key := (keyedCurrent _ _ found).symm.trans same
      exact .inr (.inl ⟨prev, found, rest⟩)
    · obtain rfl : other = key := (keyedKnown _ _ found).symm.trans same
      exact .inr (.inr ⟨found, rest⟩)
  have occurs : ∀ event, event ∈ pollEvents known current →
      event ∈ sortEvents (pollEvents known current) :=
    fun event member => List.mem_mergeSort.mpr member
  rw [receiveAll_map_object _ _ key (afterPoll (known.find? key) (current.find? key))]
  · cases found : current.find? key with
    | none =>
        cases prior : known.find? key with
        | none => simp [afterPoll]
        | some prev =>
            have event : ∃ event ∈ sortEvents (pollEvents known current), watchKey event.2 = key :=
              ⟨(.deleted, prev), occurs _ ((mem_pollEvents _ _ _).mpr
                (.inr (.inr ⟨key, prior, found, rfl⟩))), keyedKnown _ _ prior⟩
            rw [if_pos event]
    | some object =>
        cases prior : known.find? key with
        | none =>
            have event : ∃ event ∈ sortEvents (pollEvents known current), watchKey event.2 = key :=
              ⟨(.added, object), occurs _ ((mem_pollEvents _ _ _).mpr
                (.inl ⟨key, found, prior, rfl⟩)), keyedCurrent _ _ found⟩
            rw [if_pos event]
        | some prev =>
            by_cases newer : prev.resourceVersion < object.resourceVersion
            · have event : ∃ event ∈ sortEvents (pollEvents known current),
                  watchKey event.2 = key :=
                ⟨(.modified, object), occurs _ ((mem_pollEvents _ _ _).mpr
                  (.inr (.inl ⟨key, prev, found, prior, newer, rfl⟩))),
                  keyedCurrent _ _ found⟩
              rw [if_pos event]
            · simp [afterPoll, newer]
  · intro event member same
    rcases about event member same with ⟨found, prior, type⟩ |
      ⟨prev, found, prior, newer, type⟩ | ⟨prior, found, type⟩
    · simp [EventType.leaves, type, afterPoll, found, prior]
    · simp [EventType.leaves, type, afterPoll, found, prior, newer]
    · simp [EventType.leaves, type, afterPoll, found]

/-- A client that has what is known has it again after a turn. -/
theorem receiveAll_poll {state : WatchState} (keyed : Keyed state.known) (turn : Poll) :
    Client.receiveAll state.known.find? (poll state turn).1 = (poll state turn).2.known.find? ∧
      ∀ key, (poll state turn).2.known.find? key =
        afterPoll (state.known.find? key) (viewOf turn.snapshot key) := by
  have received := receiveAll_pollEvents keyed (keyed_currentMap turn.snapshot)
  simp only [poll]
  split
  · next quiet =>
      rw [List.isEmpty_iff] at quiet
      refine ⟨by split <;> rfl, fun key => ?_⟩
      have unchanged := received key
      rw [quiet] at unchanged
      exact unchanged
  · rw [find?_foldl_remember]
    exact ⟨rfl, received⟩

theorem keyed_poll
    {state : WatchState} (keyed : Keyed state.known)
    (turn : Poll) : Keyed (poll state turn).2.known := by
  intro key object found
  rw [(receiveAll_poll keyed turn).2 key] at found
  cases shown : viewOf turn.snapshot key with
  | none => simp [afterPoll, shown] at found
  | some current =>
      cases prior : state.known.find? key with
      | none =>
          simp only [afterPoll, shown, prior, Option.some.injEq] at found
          exact found ▸ watchKey_of_viewOf shown
      | some prev =>
          simp only [afterPoll, shown, prior] at found
          split at found
          · exact Option.some.inj found ▸ watchKey_of_viewOf shown
          · exact Option.some.inj found ▸ keyed key prev prior

/-- A turn leads from one snapshot to the next exactly when every change of an
object is noticed. -/
theorem afterPoll_eq_viewOf_iff (older newer : List K8sObject) :
    (∀ key, afterPoll (viewOf older key) (viewOf newer key) = viewOf newer key) ↔
      Noticed older newer := by
  constructor
  · intro equal key before after prior found
    have := equal key
    simp only [afterPoll, found, prior] at this
    split at this
    · next greater => exact .inr greater
    · exact .inl (Option.some.inj this).symm
  · intro noticed key
    cases found : viewOf newer key with
    | none => rfl
    | some after =>
        cases prior : viewOf older key with
        | none => rfl
        | some before =>
            simp only [afterPoll]
            split
            · rfl
            · next same =>
                rcases noticed key before after prior found with equal | greater
                · rw [equal]
                · exact absurd greater same

/-! ## Whole watches -/

/-- A client that has the snapshot the loop starts from follows it exactly when
every change is noticed. -/
theorem follows_watchFrom_iff
    {state : WatchState} (keyed : Keyed state.known) (start : List K8sObject)
    (known : state.known.find? = viewOf start) (turns : List Poll) :
    (∀ count, (viewOf start).receiveAll (watchFrom state (turns.take count)) =
        viewOf (latest start (turns.take count))) ↔
      (start :: turns.map Poll.snapshot).IsChain Noticed := by
  induction turns generalizing state start with
  | nil => simp [watchFrom, latest]
  | cons turn rest ih =>
      obtain ⟨received, each⟩ := receiveAll_poll keyed turn
      rw [known] at received each
      have later := fun next => ih (keyed_poll keyed turn) turn.snapshot next
      rw [List.map_cons, List.isChain_cons_cons]
      constructor
      · intro follows
        have first : (poll state turn).2.known.find? = viewOf turn.snapshot := by
          rw [← received]
          simpa [watchFrom, latest] using follows 1
        refine ⟨(afterPoll_eq_viewOf_iff _ _).mp fun key => ?_, (later first).mp fun count => ?_⟩
        · rw [← each key, first]
        · have next := follows (count + 1)
          rw [List.take_succ_cons, watchFrom, receiveAll_append, received, first]
            at next
          simpa only [latest, List.map_cons, List.getLastD_cons] using next
      · rintro ⟨noticed, chain⟩ count
        have first : (poll state turn).2.known.find? = viewOf turn.snapshot := by
          funext key
          rw [each key]
          exact (afterPoll_eq_viewOf_iff _ _).mpr noticed key
        cases count with
        | zero => rfl
        | succ count =>
            rw [List.take_succ_cons, watchFrom, receiveAll_append, received, first,
              (later first).mpr chain count]
            simp only [latest, List.map_cons, List.getLastD_cons]

/-- The client has the latest snapshot after the first pass and after every turn
exactly when the first pass leaves nothing out and the versions of an object
grow from one snapshot to the next whenever the object changes. -/
theorem follows_iff
    (sinceRv : Option Int) (had : Client) (initial : List K8sObject) (turns : List Poll) :
    Follows sinceRv had initial turns ↔ Covered sinceRv had initial ∧
        (initial :: turns.map Poll.snapshot).IsChain Noticed := by
  have known : (firstPass (decide (sinceRv.getD 0 ≤ 0))
      ⟨.empty, sinceRv.getD 0⟩ initial).2.known.find? = viewOf initial := by
    rw [known_firstPass, find?_foldl_set, viewOf_eq_overlay]
    rfl
  have keyed : Keyed (firstPass (decide (sinceRv.getD 0 ≤ 0))
      ⟨.empty, sinceRv.getD 0⟩ initial).2.known := by
    intro key object found
    rw [known] at found
    exact watchKey_of_viewOf found
  rw [← receiveAll_firstPass_eq_viewOf_iff]
  constructor
  · intro follows
    have first : had.receiveAll (firstPass (decide (sinceRv.getD 0 ≤ 0))
        ⟨.empty, sinceRv.getD 0⟩ initial).1 = viewOf initial := by
      simpa [watch, watchFrom, latest] using follows 0
    refine ⟨first, (follows_watchFrom_iff keyed initial known turns).mp ?_⟩
    intro count
    have next := follows count
    rwa [watch, receiveAll_append, first] at next
  · rintro ⟨first, chain⟩ count
    rw [watch, receiveAll_append, first]
    exact (follows_watchFrom_iff keyed initial known turns).mpr chain count

/-- A config map with the version 9. -/
def firstConfig : K8sObject :=
  ⟨⟨"", "v1", "configmaps"⟩, some "default", "a", .dict [], .dict [], .dict [], 9⟩

/-- A config map with the version 7, which is listed after it. -/
def secondConfig : K8sObject :=
  ⟨⟨"", "v1", "configmaps"⟩, some "default", "b", .dict [], .dict [], .dict [], 7⟩

/-- A client that asks for what is newer than version 5 never hears of the
second of two config maps with the versions 9 and 7. -/
theorem not_follows_descendingVersions :
    ¬ Follows (some 5) (fun _ => none) [firstConfig, secondConfig] [] := by
  intro follows
  have missing := congrFun (follows 0) (some "default", "b")
  revert missing
  decide +kernel

end HaStore
end K1s
