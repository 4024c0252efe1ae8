import K1s.Scheduling.Soundness

/-!
# Plans are balanced

Without pinning, the pods of a plan are dealt to the eligible nodes.  In turn, the
numbers of pods on two nodes differ by one at most.  A spread keeps this for the values
of the topology label, since a pod goes to a value with a least count, and for the
nodes of one value, since these take turns.
-/

namespace K1s
namespace Scheduling

open Py Dealing

/-! ## Numbers of pods -/

def podsOn (placements : List Placement) (nodeId : String) : Nat :=
  ((placements.filter fun placement =>
    placement.node.map NodeRecord.nodeId = some nodeId).flatMap Placement.podNames).length

/-- How many pods they put on the nodes of a topology value. -/
def podsOnValue
    (placements : List Placement) (key : String) (nodes : List NodeRecord)
    (value : String) : Nat :=
  ((bucket key nodes value).map fun node => podsOn placements node.nodeId).sum

/-- The numbers of pods on two of the nodes differ by one at most. -/
def EvenOnNodes (placements : List Placement) (nodes : List NodeRecord) : Prop :=
  {node | node ∈ nodes}.EquitableOn fun node => podsOn placements node.nodeId

/-- The numbers on two values of a label do, and the numbers on two nodes of one
value. -/
structure EvenSpread (placements : List Placement) (key : String) (nodes : List NodeRecord) :
    Prop where
  values : {value | value ∈ topologyValues key nodes}.EquitableOn
    (podsOnValue placements key nodes)
  nodes : ∀ value ∈ topologyValues key nodes, EvenOnNodes placements (bucket key nodes value)

variable {nodes : List NodeRecord}

/-- A node without a placement has no pod. -/
theorem podsOn_placementsOf_of_notMem
    (assignments : Assignments) {nodeId : String}
    (absent : nodeId ∉ nodes.map NodeRecord.nodeId) :
    podsOn (placementsOf nodes assignments) nodeId = 0 := by
  have elsewhere : (placementsOf nodes assignments).filter (fun placement =>
      placement.node.map NodeRecord.nodeId = some nodeId) = [] := by
    rw [List.filter_eq_nil_iff]
    intro placement member
    rw [placementsOf, List.mem_map] at member
    obtain ⟨node, listed, rfl⟩ := member
    have different : node.nodeId ≠ nodeId := by
      rintro rfl
      exact absent (List.mem_map_of_mem (List.mem_of_mem_filter listed))
    simpa [Placement.on] using different
  rw [podsOn, elsewhere]
  rfl

variable {assignments : Assignments} {node : NodeRecord}

/-- A node has the pods that have been assigned to it. -/
theorem podsOn_placementsOf
    (distinct : (nodes.map NodeRecord.nodeId).Nodup) (member : node ∈ nodes) :
    podsOn (placementsOf nodes assignments) node.nodeId = load assignments node.nodeId := by
  induction nodes with
  | nil => cases member
  | cons first rest ih =>
      obtain ⟨notLater, restDistinct⟩ := List.nodup_cons.mp distinct
      rcases List.mem_cons.mp member with rfl | later
      · have none := podsOn_placementsOf_of_notMem assignments notLater
        by_cases empty : assignments node.nodeId = []
        · simpa [podsOn, placementsOf, load, empty] using none
        · simpa [podsOn, placementsOf, load, empty, Placement.on] using none
      · have different : first.nodeId ≠ node.nodeId := by
          intro same
          exact notLater (same ▸ List.mem_map_of_mem later)
        rw [← ih restDistinct later]
        by_cases empty : assignments first.nodeId = []
        · simp [podsOn, placementsOf, empty]
        · simp [podsOn, placementsOf, empty, Placement.on, different]

/-- Nodes that take turns have even numbers of pods. -/
theorem evenOnNodes_of_inTurn
    {nodes group : List NodeRecord} {items : Nat}
    (distinct : (nodes.map NodeRecord.nodeId).Nodup) (included : group ⊆ nodes)
    (inTurn : InTurn (group.map NodeRecord.nodeId) items assignments) :
    EvenOnNodes (placementsOf nodes assignments) group := by
  intro first second firstMember secondMember
  simp only [podsOn_placementsOf distinct (included firstMember),
    podsOn_placementsOf distinct (included secondMember)]
  exact inTurn.equitableOn (List.mem_map_of_mem firstMember) (List.mem_map_of_mem secondMember)

/-! ## Round robin -/

variable {eligible : List NodeRecord}

theorem inTurn_assignInTurn
    (podNames : List String) {idx : Nat} (distinct : (eligible.map NodeRecord.nodeId).Nodup)
    (inTurn : InTurn (eligible.map NodeRecord.nodeId) idx assignments) :
    ∃ items, InTurn (eligible.map NodeRecord.nodeId) items
      (assignInTurn eligible idx podNames assignments) := by
  induction podNames generalizing idx assignments with
  | nil => exact ⟨idx, inTurn⟩
  | cons podName rest ih =>
      rw [assignInTurn]
      cases turn : eligible[idx % eligible.length]? with
      | none => exact ⟨idx, inTurn⟩
      | some node =>
          apply ih
          apply inTurn.put distinct
          simp [turn]

/-! ## Topology spread -/

/-- What the loop over the pods preserves. -/
structure SpreadInvariant
    (key : String) (nodes : List NodeRecord)
    (state : SpreadState) : Prop where
  index : state.nodeIndex = state.counts
  even : {value | value ∈ topologyValues key nodes}.EquitableOn state.counts
  inTurn : ∀ value, InTurn ((bucket key nodes value).map NodeRecord.nodeId)
    (state.counts value) state.assignments

theorem bucket_subset (key : String) (nodes : List NodeRecord) (value : String) :
    bucket key nodes value ⊆ nodes :=
  List.filter_subset_self nodes

theorem bucket_ids_nodup
    (distinct : (nodes.map NodeRecord.nodeId).Nodup) (key value : String) :
    ((bucket key nodes value).map NodeRecord.nodeId).Nodup :=
  distinct.sublist (List.filter_sublist.map _)

variable {key : String}

/-- The ids of the nodes of one value are not those of another. -/
theorem id_notMem_bucket
    {key first second : String} (distinct : (nodes.map NodeRecord.nodeId).Nodup)
    (member : node ∈ bucket key nodes first) (different : second ≠ first) :
    node.nodeId ∉ (bucket key nodes second).map NodeRecord.nodeId := by
  intro listed
  rw [bucket, List.mem_filter] at member
  have other := of_mem_filter_ids distinct member.1 listed
  simp only [decide_eq_true_eq] at member other
  exact different (Option.some.inj (other.symm.trans member.2))

theorem SpreadInvariant.initial (key : String) (nodes : List NodeRecord) :
    SpreadInvariant key nodes .initial := by
  constructor
  · rfl
  · intro first second _ _
    simp [SpreadState.initial]
  · intro value
    exact InTurn.nothing _

variable {state : SpreadState}

theorem SpreadInvariant.assign
    (invariant : SpreadInvariant key nodes state) (distinct : (nodes.map NodeRecord.nodeId).Nodup)
    (some_value : topologyValues key nodes ≠ []) (podName : String) :
    SpreadInvariant key nodes (state.assign key nodes podName) := by
  obtain ⟨value, member, least, target, turn, assigned⟩ := state.assign_spec podName some_value
  rw [assigned]
  constructor
  · rw [invariant.index]
  · apply equitableOn_of_least invariant.even least
    · simp
    · intro other different
      simp [different]
  · intro other
    by_cases same : other = value
    · subst same
      simp only [Function.update_self]
      apply (invariant.inTurn other).put (bucket_ids_nodup distinct key other)
      rw [invariant.index] at turn
      simp [turn]
    · simp only [Function.update_of_ne same]
      apply (invariant.inTurn other).put_other
      exact id_notMem_bucket distinct (List.mem_of_getElem? turn) same

/-- So does assigning all the pods. -/
theorem SpreadInvariant.run
    (invariant : SpreadInvariant key nodes state) (distinct : (nodes.map NodeRecord.nodeId).Nodup)
    (some_value : topologyValues key nodes ≠ []) (podNames : List String) :
    SpreadInvariant key nodes (podNames.foldl (SpreadState.assign key nodes) state) := by
  induction podNames generalizing state with
  | nil => exact invariant
  | cons podName rest ih =>
      rw [List.foldl_cons]
      exact ih (invariant.assign distinct some_value podName)

/-- The numbers of pods that the invariant gives are even. -/
theorem SpreadInvariant.evenSpread
    (invariant : SpreadInvariant key nodes state)
    (distinct : (nodes.map NodeRecord.nodeId).Nodup) :
    EvenSpread (placementsOf nodes state.assignments) key nodes := by
  have counted : ∀ value ∈ topologyValues key nodes,
      podsOnValue (placementsOf nodes state.assignments) key nodes value = state.counts value := by
    intro value member
    rw [podsOnValue, ← (invariant.inTurn value).sum_load (by simpa using bucket_ne_nil member),
      List.map_map]
    congr 1
    apply List.map_congr_left
    intro node inside
    exact podsOn_placementsOf distinct (bucket_subset key nodes value inside)
  constructor
  · intro first second firstMember secondMember
    rw [counted first firstMember, counted second secondMember]
    exact invariant.even firstMember secondMember
  · intro value _
    exact evenOnNodes_of_inTurn distinct (bucket_subset key nodes value) (invariant.inTurn value)

/-! ## Plans -/

/-- What a plan without pinning keeps even. -/
structure Balanced
    (manifest : AppManifest) (eligible : List NodeRecord)
    (placements : List Placement) : Prop where
  spread : ∀ key, topologyKey manifest = some (.str key) → EvenSpread placements key eligible
  inTurn : (∀ key, topologyKey manifest = some (.str key) →
    (topologyValues key eligible).length ≤ 1) → EvenOnNodes placements eligible

theorem Unpinned.balanced
    {manifest : AppManifest} {podNames : List String}
    (unpinned : Unpinned manifest eligible podNames assignments)
    (distinct : (eligible.map NodeRecord.nodeId).Nodup) :
    Balanced manifest eligible (placementsOf eligible assignments) := by
  cases unpinned with
  | @spread key spreads several =>
      have some_value : topologyValues key eligible ≠ [] := by
        intro nothing
        simp [nothing] at several
      have invariant := (SpreadInvariant.initial key eligible).run distinct some_value podNames
      constructor
      · intro other same
        obtain rfl : key = other := by simpa [spreads] using same
        exact invariant.evenSpread distinct
      · intro few
        have := few key spreads
        omega
  | inTurn few =>
      obtain ⟨items, inTurn⟩ := inTurn_assignInTurn podNames distinct
        (InTurn.nothing (eligible.map NodeRecord.nodeId))
      have even := evenOnNodes_of_inTurn distinct (List.Subset.refl _) inTurn
      refine ⟨?_, fun _ => even⟩
      intro key spreads
      have atMostOne := few key spreads
      constructor
      · intro first second firstMember secondMember
        -- There is only one value.
        obtain rfl : first = second := by
          obtain ⟨_, firstPlace⟩ := List.mem_iff_getElem?.mp firstMember
          obtain ⟨_, secondPlace⟩ := List.mem_iff_getElem?.mp secondMember
          obtain ⟨firstInside, rfl⟩ := List.getElem?_eq_some_iff.mp firstPlace
          obtain ⟨secondInside, rfl⟩ := List.getElem?_eq_some_iff.mp secondPlace
          congr 1
          omega
        omega
      · intro value _ first second firstMember secondMember
        exact even (bucket_subset key eligible value firstMember)
          (bucket_subset key eligible value secondMember)

namespace Scheduler

variable (scheduler : Scheduler)

/-- A plan that nothing pins loses no pod as long as a node is eligible, and balances
the pods over the values of the topology label and over the eligible nodes. -/
theorem plan_balanced
    {manifest : AppManifest} {revision now : Int} {placements : List Placement}
    {eligible : List NodeRecord} {pinning : Pinning}
    {warnings storageWarnings staleNodes : List String}
    (planned : scheduler.plan manifest revision now = some (placements, warnings))
    (known : scheduler.eligibleNodes manifest now = some (eligible, storageWarnings, staleNodes))
    (some_node : eligible ≠ []) (storage : scheduler.pinning manifest = some pinning)
    (free : pinning.pinned = false) :
    PlacedOnce placements (scheduler.podNames manifest revision) ∧
      Balanced manifest eligible placements := by
  cases scheduler.planned_of_plan planned with
  | noNodes empty =>
      obtain ⟨node, member⟩ := List.exists_mem_of_ne_nil eligible some_node
      obtain ⟨status, registered, _⟩ :=
        ((scheduler.eligibleNodes_spec known).2 node member).admitted
      rw [empty] at registered
      cases registered
  | noEligible none =>
      rw [known] at none
      exact absurd (Prod.mk.inj (Option.some.inj none)).1 some_node
  | pinned _ _ other pins =>
      obtain rfl := Option.some.inj (storage.symm.trans other)
      rw [free] at pins
      cases pins
  | unpinned same _ _ _ dealing =>
      obtain ⟨rfl, -⟩ := Prod.mk.inj (Option.some.inj (known.symm.trans same))
      have distinct := (scheduler.eligibleNodes_spec known).1
      refine ⟨?_, dealing.balanced distinct⟩
      exact placedOnce_of_perm (nodup_revisionPodNames _ _ _)
        (placementsOf_perm distinct (dealing.dealt some_node))

end Scheduler

theorem plan_balanced_two_zones :
    EvenSpread [.on (zoneNode "n1" "a") ["web-rev7-0", "web-rev7-2"],
      .on (zoneNode "n2" "b") ["web-rev7-1"]] "zone" [zoneNode "n1" "a", zoneNode "n2" "b"] := by
  have balanced := @Scheduler.plan_balanced (schedulerOf twoZones [])
    (webApp [[("topologyKey", .str "zone")]] []) 7 10
    [.on (zoneNode "n1" "a") ["web-rev7-0", "web-rev7-2"], .on (zoneNode "n2" "b") ["web-rev7-1"]]
    [zoneNode "n1" "a", zoneNode "n2" "b"] ⟨false, false, none, []⟩ [] [] []
    (by decide +kernel) (by decide +kernel) (by decide) rfl rfl
  exact balanced.2.spread "zone" (by decide +kernel)

end Scheduling
end K1s
