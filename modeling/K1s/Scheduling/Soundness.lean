import K1s.Scheduling.Plan

/-!
# Plans are sound

Every pod that is to run is placed once, on a node that passes all the filters: it is
not cordoned, it is ready, its labels match the node selector, its taints are
tolerated, and it satisfies the topology of the storage classes of the app.  The plan
is empty where no such node is left, and local where no node is registered.
-/

namespace K1s
namespace Scheduling

open Py ApiShim Dealing
open Storage (scResource)

/-! ## The filters -/

variable {manifest : AppManifest} {now : Int} {eligible : List NodeRecord}
  {staleNodes : List String}

/-- The surveyed nodes are registered ones, in the same order, and pass the filters. -/
theorem survey_spec
    {now grace : Int} {table : List (NodeRecord × Option NodeStatus)}
    (surveyed : survey manifest now grace table = some (eligible, staleNodes)) :
    eligible.Sublist (table.map Prod.fst) ∧ ∀ node ∈ eligible, ∃ status, (node, status) ∈ table ∧
        Admits manifest now grace node status := by
  induction table generalizing eligible staleNodes with
  | nil =>
      simp only [survey, Option.some.injEq, Prod.mk.injEq] at surveyed
      simp [← surveyed.1]
  | cons entry rest ih =>
      obtain ⟨node, status⟩ := entry
      have skipped : ∀ {staleNodes : List String},
          survey manifest now grace rest = some (eligible, staleNodes) →
            eligible.Sublist (((node, status) :: rest).map Prod.fst) ∧
              ∀ other ∈ eligible, ∃ status', (other, status') ∈ (node, status) :: rest ∧
                Admits manifest now grace other status' := by
        intro staleNodes later
        obtain ⟨sublist, admitted⟩ := ih later
        refine ⟨sublist.cons _, ?_⟩
        intro other member
        obtain ⟨status', listed, admits⟩ := admitted other member
        exact ⟨status', List.mem_cons_of_mem _ listed, admits⟩
      rw [survey] at surveyed
      split_ifs at surveyed with cordoned notReady notSelected
      · exact skipped surveyed
      · rw [Option.map_eq_some_iff] at surveyed
        obtain ⟨⟨others, stale⟩, later, same⟩ := surveyed
        obtain ⟨rfl, rfl⟩ := Prod.mk.inj same
        exact skipped later
      · exact skipped surveyed
      · rw [Option.bind_eq_some_iff] at surveyed
        obtain ⟨tolerated, answer, surveyed⟩ := surveyed
        rw [Option.map_eq_some_iff] at surveyed
        obtain ⟨⟨others, stale⟩, later, same⟩ := surveyed
        obtain ⟨rfl, rfl⟩ := Prod.mk.inj same
        cases tolerated with
        | false => exact skipped later
        | true =>
            obtain ⟨sublist, admitted⟩ := ih later
            refine ⟨sublist.cons_cons _, ?_⟩
            rw [if_pos rfl, List.forall_mem_cons]
            constructor
            · refine ⟨status, List.mem_cons_self, ?_⟩
              constructor
              · simpa using cordoned
              · simpa using notReady
              · simpa [matchesNodeSelector] using notSelected
              · apply tolerated_of_anyRepels
                simpa [toleratesTaints, Option.map_eq_some_iff] using answer
            · intro other member
              obtain ⟨status', listed, admits⟩ := admitted other member
              exact ⟨status', List.mem_cons_of_mem _ listed, admits⟩

/-! ## The topology of storage classes -/

/-- Sets of nodes reflect what a class asks for. -/
structure Limited (nodes : List NodeRecord) (sets : List (List String)) (spec : Dict) :
    Prop where
  allowed : (Dict.get spec "allowedTopologies").truthy = true → leftByAllowed nodes spec ∈ sets
  keys : topologyKeys spec ≠ [] → leftByKeys nodes spec ∈ sets

variable {nodes : List NodeRecord} {name : String}

namespace TopologyLimits

variable {spec : Dict} {limits result : TopologyLimits}

theorem byAllowed_spec (added : limits.byAllowed nodes name spec = .ok result) :
    limits.sets ⊆ result.sets ∧ ((Dict.get spec "allowedTopologies").truthy = true →
        leftByAllowed nodes spec ∈ result.sets) := by
  unfold byAllowed at added
  split_ifs at added with absent empty
  · obtain rfl := Except.ok.inj added
    exact ⟨List.Subset.refl _, fun truthy => absurd truthy (by simpa using absent)⟩
  · obtain rfl := Except.ok.inj added
    constructor
    · intro set member
      simp only [sets, List.mem_append] at member ⊢
      tauto
    · intro _
      simp [sets]

theorem byKeys_spec (added : limits.byKeys nodes name spec = .ok result) :
    limits.sets ⊆ result.sets ∧
      (topologyKeys spec ≠ [] → leftByKeys nodes spec ∈ result.sets) := by
  unfold byKeys at added
  split_ifs at added with absent empty
  · obtain rfl := Except.ok.inj added
    exact ⟨List.Subset.refl _, fun some => absurd (List.isEmpty_iff.mp absent) some⟩
  · obtain rfl := Except.ok.inj added
    constructor
    · intro set member
      simp only [sets, List.mem_append] at member ⊢
      tauto
    · intro _
      simp [sets]

/-- The limits of classes reflect all of them. -/
theorem ofClasses_spec
    {classes : List (String × Dict)} (added : ofClasses nodes limits classes = .ok result) :
    limits.sets ⊆ result.sets ∧ ∀ entry ∈ classes, Limited nodes result.sets entry.2 := by
  induction classes generalizing limits with
  | nil =>
      obtain rfl := Except.ok.inj added
      exact ⟨List.Subset.refl _, by simp⟩
  | cons entry rest ih =>
      obtain ⟨name, spec⟩ := entry
      rw [ofClasses] at added
      cases first : limits.byAllowed nodes name spec with
      | error warning => simp [first, Except.bind] at added
      | ok between =>
          cases second : between.byKeys nodes name spec with
          | error warning => simp [first, second, Except.bind] at added
          | ok reached =>
              simp only [first, second, Except.bind] at added
              obtain ⟨kept, others⟩ := ih added
              obtain ⟨early, allowed⟩ := byAllowed_spec first
              obtain ⟨late, keys⟩ := byKeys_spec second
              refine ⟨fun _ member => kept (late (early member)), ?_⟩
              rw [List.forall_mem_cons]
              refine ⟨⟨fun truthy => ?_, fun some => ?_⟩, others⟩
              · exact kept (late (allowed truthy))
              · exact kept (keys some)

end TopologyLimits

theorem of_mem_filter_ids
    {node : NodeRecord} {passes : NodeRecord → Bool}
    (distinct : (nodes.map NodeRecord.nodeId).Nodup) (member : node ∈ nodes)
    (listed : node.nodeId ∈ (nodes.filter passes).map NodeRecord.nodeId) :
    passes node = true := by
  rw [List.mem_map] at listed
  obtain ⟨other, filtered, same⟩ := listed
  obtain ⟨otherMember, otherPasses⟩ := List.mem_filter.mp filtered
  have equal := List.inj_on_of_nodup_map distinct otherMember member same
  exact equal ▸ otherPasses

/-- The nodes that classes leave satisfy the topology of each. -/
theorem filterByClasses_spec
    (classes : List (String × Dict)) (distinct : (nodes.map NodeRecord.nodeId).Nodup) :
    (filterByClasses classes nodes).1.Sublist nodes ∧
      ∀ node ∈ (filterByClasses classes nodes).1, ∀ entry ∈ classes,
        MeetsTopology node entry.2 := by
  unfold filterByClasses
  split_ifs with none
  · rw [List.isEmpty_iff] at none
    simp [none]
  · cases added : TopologyLimits.ofClasses nodes {} classes with
    | error warning => simp
    | ok limits =>
        obtain ⟨_, limited⟩ := TopologyLimits.ofClasses_spec added
        simp only
        split_ifs with unlimited empty fewer
        · refine ⟨List.Sublist.refl _, ?_⟩
          intro node _ entry member
          rw [List.isEmpty_iff] at unlimited
          have limits := limited entry member
          rw [unlimited] at limits
          constructor
          · intro truthy
            cases limits.allowed truthy
          · intro some
            cases limits.keys some
        · simp
        all_goals
          refine ⟨List.filter_sublist, ?_⟩
          intro node filtered entry member
          obtain ⟨present, inside⟩ := List.mem_filter.mp filtered
          rw [List.contains_iff_mem, List.mem_filter] at inside
          have everywhere : ∀ set ∈ limits.sets, node.nodeId ∈ set := by
            simpa using inside.2
          constructor
          · intro truthy
            apply of_mem_filter_ids distinct present
            exact everywhere _ ((limited entry member).allowed truthy)
          · intro some
            exact of_mem_filter_ids distinct present
              (everywhere _ ((limited entry member).keys some))

variable {warnings : List String}

namespace Scheduler

variable (scheduler : Scheduler)

theorem mem_storageClasses
    {store : ObjectStore} {claim : (String × String) × K8sObject} {sc : K8sObject}
    (mounted : claim ∈ scheduler.storedClaims manifest store)
    (named : scheduler.storageClassOf claim.2 = some name)
    (stored : store.get scResource none name = some sc) :
    (name, objSpec sc) ∈ scheduler.storageClasses manifest store := by
  unfold storageClasses
  rw [List.mem_filterMap]
  refine ⟨name, ?_, by simp [stored]⟩
  rw [List.mem_eraseDups, List.mem_filterMap]
  exact ⟨claim, mounted, named⟩

/-- A node may run the pods of an app. -/
structure Suits
    (manifest : AppManifest) (now : Int)
    (node : NodeRecord) : Prop where
  admitted : ∃ status, (node, status) ∈ scheduler.nodes.nodes ∧
    Admits manifest now scheduler.grace node status
  meetsTopology : ∀ store, scheduler.shimStore = some store →
    ∀ claim ∈ scheduler.storedClaims manifest store, ∀ name sc,
      scheduler.storageClassOf claim.2 = some name →
        store.get scResource none name = some sc → MeetsTopology node (objSpec sc)

theorem filterNodesByStorageTopology_spec
    (manifest : AppManifest) (distinct : (nodes.map NodeRecord.nodeId).Nodup) :
    (scheduler.filterNodesByStorageTopology manifest nodes).1.Sublist nodes ∧
      ∀ node ∈ (scheduler.filterNodesByStorageTopology manifest nodes).1,
        ∀ store, scheduler.shimStore = some store →
          ∀ entry ∈ scheduler.storageClasses manifest store, MeetsTopology node entry.2 := by
  unfold filterNodesByStorageTopology
  cases present : scheduler.shimStore with
  | none => simp
  | some store =>
      simp only [Option.some.injEq]
      split_ifs with empty
      · rw [List.isEmpty_iff] at empty
        simp [empty]
      · obtain ⟨left, meets⟩ :=
          filterByClasses_spec (scheduler.storageClasses manifest store) distinct
        refine ⟨left, ?_⟩
        rintro node member other rfl
        exact meets node member

/-- The eligible nodes have ids of their own and may run the pods. -/
theorem eligibleNodes_spec
    (known : scheduler.eligibleNodes manifest now = some (eligible, warnings, staleNodes)) :
    (eligible.map NodeRecord.nodeId).Nodup ∧
      ∀ node ∈ eligible, scheduler.Suits manifest now node := by
  unfold eligibleNodes at known
  rw [Option.map_eq_some_iff] at known
  obtain ⟨⟨ready, stale⟩, surveyed, same⟩ := known
  obtain ⟨sublist, admitted⟩ := survey_spec surveyed
  have distinct : (ready.map NodeRecord.nodeId).Nodup := by
    apply List.Nodup.sublist (sublist.map NodeRecord.nodeId)
    rw [List.map_map]
    exact scheduler.nodes.distinct
  have filtered : (scheduler.filterNodesByStorageTopology manifest ready).1 = eligible :=
    congrArg Prod.fst same
  have spec := scheduler.filterNodesByStorageTopology_spec manifest distinct
  rw [filtered] at spec
  obtain ⟨left, meets⟩ := spec
  refine ⟨distinct.sublist (left.map _), ?_⟩
  intro node member
  refine ⟨admitted node (left.subset member), ?_⟩
  intro store present claim mounted name sc named stored
  exact meets node member store present _
    (scheduler.mem_storageClasses mounted named stored)

end Scheduler

/-! ## Nothing is lost -/

variable {assignments : Assignments} {podNames : List String}

/-- The placements on nodes whose pods have been dealt to them hold all the pods. -/
theorem placementsOf_perm
    (distinct : (nodes.map NodeRecord.nodeId).Nodup)
    (dealt : Dealt (nodes.map NodeRecord.nodeId) assignments podNames) :
    ((placementsOf nodes assignments).flatMap Placement.podNames).Perm podNames := by
  have whole := dealt.perm distinct
  rw [List.flatMap_map] at whole
  have same : (placementsOf nodes assignments).flatMap Placement.podNames =
      nodes.flatMap fun node => assignments node.nodeId := by
    rw [placementsOf, List.flatMap_map]
    clear whole dealt distinct
    induction nodes with
    | nil => rfl
    | cons node rest ih =>
        by_cases empty : assignments node.nodeId = []
        · simpa [empty] using ih
        · simpa [empty, Placement.on] using ih
  rw [same]
  exact whole

variable {earlier : List String}

/-- The pods of a round are dealt to the nodes. -/
theorem dealt_assignInTurn
    (podNames : List String) (idx : Nat) (some_node : eligible ≠ [])
    (dealt : Dealt (eligible.map NodeRecord.nodeId) assignments earlier) :
    Dealt (eligible.map NodeRecord.nodeId) (assignInTurn eligible idx podNames assignments)
      (earlier ++ podNames) := by
  induction podNames generalizing idx assignments earlier with
  | nil => simpa [assignInTurn] using dealt
  | cons podName rest ih =>
      have inside := Nat.mod_lt idx (List.length_pos_iff.mpr some_node)
      have turn := List.getElem?_eq_getElem inside
      rw [assignInTurn]
      simp only [turn]
      have member : eligible[idx % eligible.length].nodeId ∈ eligible.map NodeRecord.nodeId :=
        List.mem_map_of_mem (List.getElem_mem inside)
      have assigned : Dealt (eligible.map NodeRecord.nodeId)
          (put assignments eligible[idx % eligible.length].nodeId podName)
          (earlier ++ [podName]) :=
        dealt.put member
      simpa using ih (idx + 1) assigned

variable {key : String}

theorem dealt_spread
    {state : SpreadState} (podNames : List String) (some_value : topologyValues key nodes ≠ [])
    (dealt : Dealt (nodes.map NodeRecord.nodeId) state.assignments earlier) :
    Dealt (nodes.map NodeRecord.nodeId)
      (podNames.foldl (SpreadState.assign key nodes) state).assignments
      (earlier ++ podNames) := by
  induction podNames generalizing state earlier with
  | nil => simpa using dealt
  | cons podName rest ih =>
      obtain ⟨value, _, _, target, turn, assigned⟩ := state.assign_spec podName some_value
      have member : target ∈ nodes := List.mem_of_mem_filter (List.mem_of_getElem? turn)
      rw [List.foldl_cons]
      have next : Dealt (nodes.map NodeRecord.nodeId)
          (state.assign key nodes podName).assignments (earlier ++ [podName]) := by
        rw [assigned]
        exact dealt.put (List.mem_map_of_mem member)
      simpa using ih next

theorem topologyValues_length_le (key : String) (nodes : List NodeRecord) :
    (topologyValues key nodes).length ≤ nodes.length := by
  calc (topologyValues key nodes).length
      ≤ (nodes.filterMap (topologyValue key)).length := (List.dedup_sublist _).length_le
    _ ≤ nodes.length := List.length_filterMap_le _ _

theorem dealt_spreadAssignments
    (podNames : List String) (several : 1 < (topologyValues key nodes).length) :
    Dealt (nodes.map NodeRecord.nodeId) (spreadAssignments key nodes podNames) podNames := by
  have some_value : topologyValues key nodes ≠ [] := by
    intro nothing
    simp [nothing] at several
  have initial : Dealt (nodes.map NodeRecord.nodeId) SpreadState.initial.assignments [] :=
    .nothing
  exact dealt_spread podNames some_value initial

theorem dealt_turnAssignments (podNames : List String) (some_node : eligible ≠ []) :
    Dealt (eligible.map NodeRecord.nodeId) (turnAssignments eligible podNames) podNames :=
  dealt_assignInTurn podNames 0 some_node .nothing

/-- Pods that have been dealt to nodes leave a placement. -/
theorem placementsOf_ne_nil
    (some_pod : podNames ≠ []) (distinct : (nodes.map NodeRecord.nodeId).Nodup)
    (dealt : Dealt (nodes.map NodeRecord.nodeId) assignments podNames) :
    placementsOf nodes assignments ≠ [] := by
  intro nothing
  have whole := placementsOf_perm distinct dealt
  rw [nothing] at whole
  exact some_pod (by simpa using whole.symm)

/-- How an app is placed that nothing pins. -/
inductive Unpinned
    (manifest : AppManifest) (eligible : List NodeRecord)
    (podNames : List String) : Assignments → Prop
  | spread
      {key : String}
      (spreads : topologyKey manifest = some (.str key))
      (several : 1 < (topologyValues key eligible).length) :
      Unpinned manifest eligible podNames (spreadAssignments key eligible podNames)
  | inTurn
      (few : ∀ key, topologyKey manifest = some (.str key) →
        (topologyValues key eligible).length ≤ 1) :
      Unpinned manifest eligible podNames (turnAssignments eligible podNames)

theorem Unpinned.dealt
    (unpinned : Unpinned manifest eligible podNames assignments) (some_node : eligible ≠ []) :
    Dealt (eligible.map NodeRecord.nodeId) assignments podNames := by
  cases unpinned with
  | spread spreads several => exact dealt_spreadAssignments podNames several
  | inTurn few => exact dealt_turnAssignments podNames some_node

variable {placements : List Placement}

/-- A spread that places anything is one over several values of a label. -/
theorem spreadByTopologyKey_spec
    (some_pod : podNames ≠ []) (distinct : (eligible.map NodeRecord.nodeId).Nodup)
    (answer : spreadByTopologyKey eligible podNames (topologyKey manifest) = some placements) :
    (placements = [] ∧ ∀ key, topologyKey manifest = some (.str key) →
      (topologyValues key eligible).length ≤ 1) ∨
    (placements ≠ [] ∧ ∃ key, topologyKey manifest = some (.str key) ∧
      1 < (topologyValues key eligible).length ∧
      placements = placementsOf eligible (spreadAssignments key eligible podNames)) := by
  cases known : topologyKey manifest with
  | none =>
      rw [known] at answer
      exact .inl ⟨(Option.some.inj answer).symm, by simp⟩
  | some value =>
      rw [known] at answer
      cases value with
      | str key =>
          simp only [spreadByTopologyKey, Option.some.injEq] at answer
          simp only [Option.some.injEq, Json.str.injEq, forall_eq', exists_eq_left']
          by_cases several : 1 < (topologyValues key eligible).length
          · have nodes := several.trans_le (topologyValues_length_le key eligible)
            rw [if_pos nodes, spreadByTopology, if_neg (by omega)] at answer
            refine .inr ⟨?_, several, answer.symm⟩
            rw [← answer]
            exact placementsOf_ne_nil some_pod distinct (dealt_spreadAssignments podNames several)
          · refine .inl ⟨?_, by omega⟩
            rw [← answer]
            split_ifs
            · simp [spreadByTopology, Nat.le_of_not_lt several]
            · rfl
      | _ =>
          simp only [spreadByTopologyKey] at answer
          split_ifs at answer
          exact .inl ⟨(Option.some.inj answer).symm, by simp⟩

/-- An app that nothing pins is placed by dealing its pods to the eligible nodes. -/
theorem placeUnpinned_spec
    (some_node : eligible ≠ []) (some_pod : podNames ≠ [])
    (distinct : (eligible.map NodeRecord.nodeId).Nodup)
    (placed : placeUnpinned manifest eligible podNames = some placements) :
    ∃ assignments, placements = placementsOf eligible assignments ∧
      Unpinned manifest eligible podNames assignments := by
  unfold placeUnpinned at placed
  rw [Option.map_eq_some_iff] at placed
  obtain ⟨spread, answer, rfl⟩ := placed
  rcases spreadByTopologyKey_spec some_pod distinct answer with
    ⟨rfl, few⟩ | ⟨some_placement, key, spreads, several, rfl⟩
  · refine ⟨_, ?_, .inTurn few⟩
    have left := placementsOf_ne_nil some_pod distinct (dealt_turnAssignments podNames some_node)
    simp only [List.isEmpty_nil, if_true, roundRobin]
    rw [if_neg (by simpa using left)]
  · refine ⟨_, ?_, .spread spreads several⟩
    rw [if_neg (by simpa using some_placement)]

theorem placePinned_spec
    (pinning : Pinning) (eligible : List NodeRecord) (podNames : List String) :
    (placePinned pinning eligible podNames).1 = [] ∨
      ∃ node ∈ eligible, (placePinned pinning eligible podNames).1 = [.on node podNames] := by
  unfold placePinned
  split_ifs with bound
  · cases found : eligible.find? (·.nodeId = pinning.bound) with
    | none => exact .inl rfl
    | some boundNode => exact .inr ⟨boundNode, List.mem_of_find?_eq_some found, rfl⟩
  · cases eligible with
    | nil => exact .inl rfl
    | cons target others => exact .inr ⟨target, List.mem_cons_self, rfl⟩

/-! ## Plans -/

/-- Placements hold each of the pods once, and no others. -/
def PlacedOnce (placements : List Placement) (podNames : List String) : Prop :=
  ∀ name, (placements.flatMap Placement.podNames).count name = if name ∈ podNames then 1 else 0

theorem placedOnce_of_perm
    (distinct : podNames.Nodup) (whole : (placements.flatMap Placement.podNames).Perm podNames) :
    PlacedOnce placements podNames := by
  intro name
  rw [whole.count_eq, distinct.count]

namespace Scheduler

variable (scheduler : Scheduler)

/-- How a plan comes about. -/
inductive Planned (manifest : AppManifest) (revision now : Int) : List Placement → Prop
  | noNodes
      (empty : scheduler.nodes.nodes = []) :
      Planned manifest revision now [.onLocalRuntime (scheduler.podNames manifest revision)]
  | noEligible
      {warnings staleNodes : List String}
      (known : scheduler.eligibleNodes manifest now = some ([], warnings, staleNodes)) :
      Planned manifest revision now []
  | pinned
      {eligible : List NodeRecord}
      {warnings staleNodes : List String}
      {pinning : Pinning}
      (known : scheduler.eligibleNodes manifest now = some (eligible, warnings, staleNodes))
      (some_node : eligible ≠ [])
      (storage : scheduler.pinning manifest = some pinning)
      (pins : pinning.pinned = true) :
      Planned manifest revision now
        (placePinned pinning eligible (scheduler.podNames manifest revision)).1
  | unpinned
      {eligible : List NodeRecord}
      {warnings staleNodes : List String}
      {pinning : Pinning}
      {assignments : Assignments}
      (known : scheduler.eligibleNodes manifest now = some (eligible, warnings, staleNodes))
      (some_node : eligible ≠ [])
      (storage : scheduler.pinning manifest = some pinning)
      (free : pinning.pinned = false)
      (dealing : Unpinned manifest eligible (scheduler.podNames manifest revision) assignments) :
      Planned manifest revision now (placementsOf eligible assignments)

theorem desired_pos (manifest : AppManifest) : 0 < scheduler.desired manifest := by
  unfold desired
  split_ifs
  · exact Nat.one_pos
  · exact manifest.oneReplica

theorem podNames_ne_nil (manifest : AppManifest) (revision : Int) :
    scheduler.podNames manifest revision ≠ [] := by
  rw [← List.length_pos_iff, podNames, length_revisionPodNames]
  exact scheduler.desired_pos manifest

theorem planned_of_plan
    {revision now : Int}
    (planned : scheduler.plan manifest revision now = some (placements, warnings)) :
    scheduler.Planned manifest revision now placements := by
  unfold plan at planned
  split_ifs at planned with empty
  · obtain ⟨rfl, -⟩ := Prod.mk.inj (Option.some.inj planned)
    exact .noNodes (List.isEmpty_iff.mp empty)
  · rw [Option.bind_eq_some_iff] at planned
    obtain ⟨⟨eligible, storageWarnings, staleNodes⟩, known, planned⟩ := planned
    simp only at planned
    split_ifs at planned with nothing
    · obtain ⟨rfl, -⟩ := Prod.mk.inj (Option.some.inj planned)
      rw [List.isEmpty_iff.mp nothing] at known
      exact .noEligible known
    · have some_node : eligible ≠ [] := by simpa using nothing
      rw [Option.map_eq_some_iff] at planned
      obtain ⟨⟨others, placeWarnings⟩, placed, same⟩ := planned
      obtain ⟨rfl, -⟩ := Prod.mk.inj same
      unfold place at placed
      rw [Option.bind_eq_some_iff] at placed
      obtain ⟨pinning, storage, placed⟩ := placed
      cases pins : pinning.pinned with
      | true =>
          rw [if_pos pins] at placed
          obtain ⟨rfl, -⟩ := Prod.mk.inj (Option.some.inj placed)
          exact .pinned known some_node storage pins
      | false =>
          rw [if_neg (by simp [pins]), Option.map_eq_some_iff] at placed
          obtain ⟨found, placed, same⟩ := placed
          obtain ⟨rfl, -⟩ := Prod.mk.inj same
          obtain ⟨assignments, rfl, dealing⟩ := placeUnpinned_spec some_node
            (scheduler.podNames_ne_nil manifest revision)
            (scheduler.eligibleNodes_spec known).1 placed
          exact .unpinned known some_node storage pins dealing

end Scheduler

/-- An app of three pods. -/
def webApp (constraints : List Dict) (storage : List String) : AppManifest where
  name := "web"
  ns := none
  replicas := 3
  oneReplica := by decide
  nodeSelector := []
  tolerations := []
  topologySpreadConstraints := constraints
  pvcMounts := []
  storage := storage

def zoneNode (nodeId zone : String) : NodeRecord :=
  ⟨nodeId, [("zone", .str zone)], [], none, false⟩

/-- A scheduler without a shim store, where the app is attached to these nodes. -/
def schedulerOf (nodes : NodeTable) (attached : List String) : Scheduler where
  nodes := nodes
  attachedNodes := fun _ => some attached
  shimStore := none
  defaultScName := none
  notReadyAfter := none
  claimOrder := List.dedup
  claimOrder_perm := fun _ => .refl _
  nodeOrder := List.dedup
  nodeOrder_perm := fun _ => .refl _

/-- Two ready nodes of different zones. -/
def twoZones : NodeTable where
  nodes := [(zoneNode "n1" "a", some ⟨"Ready", some 0⟩),
    (zoneNode "n2" "b", some ⟨"Ready", some 0⟩)]
  distinct := by decide

end Scheduling
end K1s
