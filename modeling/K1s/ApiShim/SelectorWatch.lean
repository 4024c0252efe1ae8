import K1s.ApiShim.Selectors
import K1s.ApiShim.WatchStream

/-!
# Watches with a selector

`_stream_watch` sends an event of the store's watch if the object of the event matches
the selectors of the request.  Nothing tells the client that an object which it has
matches no longer.

The main result says exactly when the client ends with the list of the same selectors:
for every object, the last event that is on time and shows it as matching has to leave
what the list has of it.  Where no event is late this means that no object stops
matching while it is kept.
-/

namespace K1s
namespace ApiShim

open Py Machine
open HaStore (EventType WatchEvent)

/-! ## What is sent -/

variable (selectors : Selectors)

/-- The test of `_stream_watch` on what the watch yields. -/
def Selectors.sends : WatchEvent → Bool
  | .object _ object => matchesSelectors object selectors
  | .bookmark _ => true

/-- The lines that `_stream_watch` writes for what the watch has yielded. -/
def Selectors.sent (received : List WatchEvent) : List WatchEvent :=
  received.filter selectors.sends

/-- The client ends with what a list with the selectors returns. -/
def SelectorWatchExact (call : WatchCall) (selectors : Selectors) (finish : WatchWorld) : Prop :=
  ∀ key row, clientOf (selectors.sent finish.received) key = some row ↔
    row.object key ∈ filterK8sItems (finish.items call) selectors

/-! ## When nothing goes stale -/

def Selectors.keyOf (event : StoreEvent) : Option ObjectKey :=
  if matchesSelectors event.2 selectors then some (eventKey event) else none

def Selectors.kept (call : WatchCall) (key : ObjectKey)
    (row : Option ObjectRow) : Option ObjectRow :=
  if call.covers key then row.filter fun row => matchesSelectors (row.object key) selectors
  else none

/-- The last event that is on time and shows the object as matching leaves what the last
word about the object is, or nothing where that does not match.  If there is no such
event then nothing is left at the end. -/
def NothingGoesStale
    (call : WatchCall) (selectors : Selectors)
    (offered : List StoreEvent) : Prop :=
  ∀ key, (∃ event, selectors.keyOf event = some key ∧
      RunningMax.IsLastOnTime eventVersion selectors.keyOf (call.sinceRv.getD 0) offered event ∧
      eventLeaves event = selectors.kept call key (lastWord offered key)) ∨
    (RunningMax.AllLate eventVersion selectors.keyOf (call.sinceRv.getD 0) offered (some key) ∧
      selectors.kept call key (lastWord offered key) = none)

theorem keyOf_eq_some {selectors : Selectors} {event : StoreEvent} {key : ObjectKey} :
    selectors.keyOf event = some key ↔
      matchesSelectors event.2 selectors = true ∧ eventKey event = key := by
  simp [Selectors.keyOf]

theorem filterMap_sent (received : List WatchEvent) :
    (selectors.sent received).filterMap objectEvent? =
      (received.filterMap objectEvent?).filter fun event =>
        matchesSelectors event.2 selectors := by
  induction received with
  | nil => rfl
  | cons event rest ih =>
      rw [Selectors.sent] at ih ⊢
      cases event with
      | bookmark version => exact ih
      | object type object =>
          by_cases matching : matchesSelectors object selectors = true
          · simpa [Selectors.sends, objectEvent?, matching] using ih
          · simpa [Selectors.sends, objectEvent?, matching] using ih

/-- The client of a filtered stream keeps a map under the keys of the matching events. -/
theorem apply_filter_matches (events : List StoreEvent) (key : ObjectKey) :
    RunningMax.apply eventKey eventLeaves (fun _ => none)
        (events.filter fun event => matchesSelectors event.2 selectors) key =
      RunningMax.apply selectors.keyOf eventLeaves (fun _ => none) events (some key) := by
  induction events using List.reverseRecOn with
  | nil => rfl
  | append_singleton front last ih =>
      rw [List.filter_append, RunningMax.apply_append, RunningMax.apply_append,
        RunningMax.apply_singleton, Function.update_apply, ← ih]
      by_cases matching : matchesSelectors last.2 selectors = true
      · have keyed : selectors.keyOf last = some (eventKey last) :=
          keyOf_eq_some.mpr ⟨matching, rfl⟩
        simp only [List.filter_singleton, matching, cond_true, RunningMax.apply_singleton,
          Function.update_apply, keyed, Option.some.injEq]
      · have unkeyed : selectors.keyOf last = none := by simp [Selectors.keyOf, matching]
        simp [matching, unkeyed, RunningMax.apply]

/-- What the list of a selector returns. -/
theorem mem_filterK8sItems
    (world : WatchWorld) (call : WatchCall) (selectors : Selectors) (key : ObjectKey)
    (row : ObjectRow) :
    row.object key ∈ filterK8sItems (world.items call) selectors ↔
      selectors.kept call key (world.store.row? key) = some row := by
  rw [filterK8sItems, List.mem_filter, mem_items, Selectors.kept]
  constructor
  · rintro ⟨⟨other, otherRow, stored, covered, same⟩, matching⟩
    obtain ⟨rfl, rfl⟩ := object_inj.mp same
    rw [if_pos covered, Option.filter_eq_some_iff]
    exact ⟨stored, matching⟩
  · intro kept
    by_cases covered : call.covers key
    · rw [if_pos covered, Option.filter_eq_some_iff] at kept
      exact ⟨⟨key, row, kept.1, covered, rfl⟩, kept.2⟩
    · rw [if_neg covered] at kept
      cases kept

/-- With an empty queue the client of a selector has the list of the selector exactly
when nothing goes stale. -/
theorem selectorWatchExact_iff
    (call : WatchCall) (request : Request) (store : ObjectStore)
    (actions : List WatchAction) (finish : WatchWorld)
    (ran : run (WatchWorld.step call) (.opened store call) actions = some finish)
    (listed : finish.listed = true) (drained : finish.queue = []) :
    SelectorWatchExact call request.selectors finish ↔
      NothingGoesStale call request.selectors finish.offered := by
  have streamed : Streamed call finish :=
    invariant_of_run (fun _ _ _ holds stepped => streamed_step holds stepped)
      (streamed_opened store call) ran
  refine forall_congr' fun key => ?_
  have current : request.selectors.kept call key (finish.store.row? key) =
      request.selectors.kept call key (lastWord finish.offered key) := by
    by_cases covered : call.covers key
    · have told := streamed.current key covered
      rw [listed, drained, List.append_nil] at told
      rw [← told]
      rfl
    · rw [Selectors.kept, Selectors.kept, if_neg covered, if_neg covered]
  have sameRows :
      (∀ row, clientOf (request.selectors.sent finish.received) key = some row ↔
        row.object key ∈ filterK8sItems (finish.items call) request.selectors) ↔
      clientOf (request.selectors.sent finish.received) key =
        request.selectors.kept call key (lastWord finish.offered key) := by
    simp only [mem_filterK8sItems, current]
    exact Option.ext_iff.symm
  rw [sameRows, clientOf, filterMap_sent, streamed.yielded, apply_filter_matches,
    RunningMax.apply_passed_eq_iff]
  simp only [eq_comm]

/-! ## Objects that stop matching -/

/-- A published object matches as the stored one does. -/
theorem matchesSelectors_row (object : K8sObject) (selectors : Selectors) :
    matchesSelectors (object.row.object object.key) selectors =
      matchesSelectors object selectors := by
  obtain ⟨gvr, ns, name, metadata, spec, status, rv⟩ := object
  cases ns with
  | some ns => rfl
  | none =>
      have sameTerm : ∀ named expr,
          fieldTermMatches named (.str "") expr = fieldTermMatches named .null expr :=
        fun _ _ => rfl
      have sameField : ∀ named selector, fieldSelectorMatch named (.str "") selector =
            fieldSelectorMatch named .null selector := by
        intro named selector
        rw [fieldSelectorMatch, fieldSelectorMatch, funext (sameTerm named)]
      unfold matchesSelectors
      by_cases unnamed : metadata.item "namespace" = .null
      · simp only [K8sObject.row, K8sObject.key, ObjectRow.object, Gvr.key, unnamed, if_true,
          Option.getD_none, sameField]
        rfl
      · simp only [K8sObject.row, K8sObject.key, ObjectRow.object, Gvr.key, unnamed, if_false]
        rfl

theorem eq_of_eventLeaves
    {event : StoreEvent} {row : ObjectRow}
    (leaves : eventLeaves event = some row) : row = event.2.row := by
  obtain ⟨type, object⟩ := event
  cases type with
  | added => exact (Option.some.inj leaves).symm
  | modified => exact (Option.some.inj leaves).symm
  | deleted => cases leaves

/-- What a matching event leaves is kept, and what another one leaves is not. -/
theorem kept_eventLeaves
    {call : WatchCall} {event : StoreEvent} (covered : call.covers (eventKey event)) :
    selectors.kept call (eventKey event) (eventLeaves event) =
      if matchesSelectors event.2 selectors then eventLeaves event else none := by
  rw [Selectors.kept, if_pos covered]
  cases leaves : eventLeaves event with
  | none => rw [Option.filter_none, ite_self]
  | some row =>
      obtain rfl := eq_of_eventLeaves leaves
      have same : matchesSelectors (event.2.row.object (eventKey event)) selectors =
          matchesSelectors event.2 selectors := matchesSelectors_row event.2 selectors
      rw [Option.filter_some, same]

/-- The last event about a key is the last matching one if it matches. -/
theorem isLast_keyOf
    {selectors : Selectors} {offered : List StoreEvent} {event : StoreEvent}
    (last : RunningMax.IsLast eventKey offered event)
    (matching : matchesSelectors event.2 selectors = true) :
    RunningMax.IsLast selectors.keyOf offered event := by
  obtain ⟨front, back, split, none⟩ := last
  refine ⟨front, back, split, fun other member same => none other member ?_⟩
  exact (keyOf_eq_some.mp (same.trans (keyOf_eq_some.mpr ⟨matching, rfl⟩))).2

/-- Where the versions never go down, nothing goes stale exactly when every object whose
last matching event keeps it has no later event. -/
theorem nothingGoesStale_iff_of_ascending
    {call : WatchCall} {offered : List StoreEvent}
    (ascending : (offered.map eventVersion).Pairwise (· ≤ ·))
    (above : ∀ event ∈ offered, call.sinceRv.getD 0 ≤ eventVersion event)
    (watched : ∀ event ∈ offered, call.covers (eventKey event)) :
    NothingGoesStale call selectors offered ↔ ∀ event, matchesSelectors event.2 selectors = true →
        RunningMax.IsLast selectors.keyOf offered event →
        eventLeaves event ≠ none → RunningMax.IsLast eventKey offered event := by
  have onTime := RunningMax.allOnTime_of_ascending eventVersion ascending above
  simp only [NothingGoesStale, RunningMax.isLastOnTime_iff_of_allOnTime _ _ onTime,
    RunningMax.allLate_iff_of_allOnTime _ _ onTime]
  -- The last word about a key is kept exactly when the last event about it matches.
  have keptWord : ∀ event, RunningMax.IsLast eventKey offered event →
      selectors.kept call (eventKey event) (lastWord offered (eventKey event)) =
        if matchesSelectors event.2 selectors then eventLeaves event else none := by
    intro event last
    rw [lastWord, RunningMax.apply_of_isLast eventKey eventLeaves last,
      kept_eventLeaves selectors (watched event last.mem)]
  constructor
  · intro fresh event matching last leaves
    have keyed : selectors.keyOf event = some (eventKey event) :=
      keyOf_eq_some.mpr ⟨matching, rfl⟩
    rcases fresh (eventKey event) with ⟨other, otherKey, otherLast, same⟩ | ⟨none, -⟩
    · obtain rfl := RunningMax.IsLast.unique _ otherLast last (otherKey.trans keyed.symm)
      obtain ⟨final, sameKey, finalLast⟩ := RunningMax.exists_isLast eventKey last.mem
      have word := keptWord final finalLast
      rw [sameKey, ← same] at word
      by_cases finalMatches : matchesSelectors final.2 selectors = true
      · have finalKey : selectors.keyOf final = selectors.keyOf other := by
          rw [keyed, keyOf_eq_some]
          exact ⟨finalMatches, sameKey⟩
        obtain rfl := RunningMax.IsLast.unique _ (isLast_keyOf finalLast finalMatches) last
          finalKey
        exact finalLast
      · rw [if_neg finalMatches] at word
        exact absurd word leaves
    · exact absurd keyed (none event last.mem)
  · intro stays key
    by_cases about : ∃ event ∈ offered, selectors.keyOf event = some key
    · obtain ⟨event, member, keyed⟩ := about
      obtain ⟨last, sameKey, isLast⟩ := RunningMax.exists_isLast selectors.keyOf member
      rw [keyed] at sameKey
      obtain ⟨matching, rfl⟩ := keyOf_eq_some.mp sameKey
      refine .inl ⟨last, sameKey, isLast, ?_⟩
      by_cases leaves : eventLeaves last = none
      · obtain ⟨final, same, finalLast⟩ := RunningMax.exists_isLast eventKey isLast.mem
        rw [leaves, ← same, keptWord final finalLast]
        by_cases finalMatches : matchesSelectors final.2 selectors = true
        · have finalKey : selectors.keyOf final = selectors.keyOf last := by
            rw [sameKey, keyOf_eq_some]
            exact ⟨finalMatches, same⟩
          obtain rfl := RunningMax.IsLast.unique _ (isLast_keyOf finalLast finalMatches) isLast
            finalKey
          rw [leaves, ite_self]
        · rw [if_neg finalMatches]
      · rw [keptWord last (stays last matching isLast leaves), if_pos matching]
    · have none : ∀ event ∈ offered, selectors.keyOf event ≠ some key :=
        fun event member keyed => about ⟨event, member, keyed⟩
      refine .inr ⟨none, ?_⟩
      by_cases heard : ∃ event ∈ offered, eventKey event = key
      · obtain ⟨event, member, rfl⟩ := heard
        obtain ⟨final, same, finalLast⟩ := RunningMax.exists_isLast eventKey member
        have unmatched : ¬ matchesSelectors final.2 selectors = true := fun matching =>
          none final finalLast.mem (keyOf_eq_some.mpr ⟨matching, same⟩)
        rw [← same, keptWord final finalLast, if_neg unmatched]
      · rw [lastWord, RunningMax.apply_of_forall_ne eventKey eventLeaves fun event member same =>
          heard ⟨event, member, same⟩, Selectors.kept, Option.filter_none, ite_self]

/-! ## A label that is changed and a label that is taken away -/

/-- A ConfigMap is written with a label. -/
def writeLabelled (name app : String) : StoreWrite :=
  .upsert ⟨"", "v1", "configmaps"⟩ (some "default") name
    (.dict [("name", .str name), ("labels", .dict [("app", .str app)])]) (.dict []) (.dict [])
    none

/-- A watch of the ConfigMaps that have a label. -/
def watchRequest : Request where
  method := .get
  target := "/api/v1/namespaces/default/configmaps?watch=1&labelSelector=app%3Dweb"
  path := "/api/v1/namespaces/default/configmaps"
  query := [("watch", ["1"]), ("labelSelector", ["app=web"])]
  authorization := none
  upgrade := none
  contentType := none
  transferEncoding := none
  contentLength := none
  rfile := []

/-- One object has the label and another one is without it. -/
def labelledConfigMaps : ObjectStore :=
  (ObjectStore.empty.write (writeLabelled "first" "web")).write (writeLabelled "second" "db")

/-- After the listing the second object gets the label. -/
def startsMatchingRun : List WatchAction :=
  [.list, .write (writeLabelled "second" "web"), .take]

/-- After the listing the first object loses the label. -/
def stopsMatchingRun : List WatchAction :=
  [.list, .write (writeLabelled "first" "db"), .take]

/-- An event about such a ConfigMap. -/
def labelledEvent (type : EventType) (name app : String) (version : Nat) : StoreEvent :=
  (type, {
    gvr := ⟨"", "v1", "configmaps"⟩
    ns := some "default"
    name := name
    metadata := .dict [("name", .str name), ("labels", .dict [("app", .str app)])]
    spec := .dict []
    status := .dict []
    resourceVersion := version })

theorem selectorWatchExact_startsMatchingRun :
    ∃ finish, run (WatchWorld.step configMapsCall) (.opened labelledConfigMaps configMapsCall)
          startsMatchingRun = some finish ∧
        NothingGoesStale configMapsCall watchRequest.selectors finish.offered ∧
        SelectorWatchExact configMapsCall watchRequest.selectors finish := by
  have reached : ((run (WatchWorld.step configMapsCall)
      (.opened labelledConfigMaps configMapsCall) startsMatchingRun).map fun finish =>
        (finish.listed, finish.queue.isEmpty, finish.offered)) =
      some (true, true, [labelledEvent .added "first" "web" 1,
        labelledEvent .added "second" "db" 2, labelledEvent .modified "second" "web" 3]) := by
    decide +kernel
  obtain ⟨finish, ran, facts⟩ := Option.map_eq_some_iff.mp reached
  simp only [Prod.mk.injEq, List.isEmpty_iff] at facts
  obtain ⟨listed, drained, offered⟩ := facts
  have fresh : NothingGoesStale configMapsCall watchRequest.selectors finish.offered := by
    rw [offered]
    refine (nothingGoesStale_iff_of_ascending watchRequest.selectors (by decide)
      (by decide) (by decide)).mpr fun event matching last _ => ?_
    have member := last.mem
    simp only [List.mem_cons, List.not_mem_nil, or_false] at member
    rcases member with rfl | rfl | rfl
    · exact ⟨[], _, rfl, by decide⟩
    · exact absurd matching (by decide +kernel)
    · exact ⟨[_, _], [], rfl, by decide⟩
  exact ⟨finish, ran, fresh,
    (selectorWatchExact_iff configMapsCall watchRequest labelledConfigMaps startsMatchingRun
      finish ran listed drained).mpr fresh⟩

/-- The client keeps the object that has lost the label. -/
theorem not_selectorWatchExact_stopsMatchingRun :
    ∃ finish, run (WatchWorld.step configMapsCall) (.opened labelledConfigMaps configMapsCall)
          stopsMatchingRun = some finish ∧
        finish.listed = true ∧ finish.queue = [] ∧
        ¬ SelectorWatchExact configMapsCall watchRequest.selectors finish := by
  have reached : ((run (WatchWorld.step configMapsCall)
      (.opened labelledConfigMaps configMapsCall) stopsMatchingRun).map fun finish =>
        (finish.listed, finish.queue.isEmpty,
          (clientOf (watchRequest.selectors.sent finish.received)
            ⟨⟨"", "v1", "configmaps"⟩, "default", "first"⟩).isSome,
          (filterK8sItems (finish.items configMapsCall) watchRequest.selectors).isEmpty)) =
      some (true, true, true, true) := by
    decide +kernel
  obtain ⟨finish, ran, facts⟩ := Option.map_eq_some_iff.mp reached
  simp only [Prod.mk.injEq, List.isEmpty_iff, Option.isSome_iff_exists] at facts
  obtain ⟨listed, drained, ⟨row, has⟩, nothing⟩ := facts
  refine ⟨finish, ran, listed, drained, fun exactly => ?_⟩
  have member := (exactly _ row).mp has
  rw [nothing] at member
  cases member

end ApiShim
end K1s
