import K1s.Lib.Dealing
import K1s.Scheduling.Volumes

/-!
# The plan of the scheduler

A plan first looks for the nodes that may run the app.  If storage pins the app, all
its pods go to one of them.  Otherwise they are spread over the values of a topology
label, or over all the nodes in turn.
-/

namespace K1s
namespace Scheduling

open Py Dealing

/-! ## Placements -/

def revisionPodNames (appName : String) (revision : Int) (count : Nat) : List String :=
  (List.range count).map fun idx =>
    appName ++ "-rev" ++ toString revision ++ "-" ++ toString idx

@[simp] theorem length_revisionPodNames (appName : String) (revision : Int) (count : Nat) :
    (revisionPodNames appName revision count).length = count := by
  simp [revisionPodNames]

/-- The names differ in their numbers. -/
theorem nodup_revisionPodNames (appName : String) (revision : Int) (count : Nat) :
    (revisionPodNames appName revision count).Nodup := by
  unfold revisionPodNames
  apply List.Nodup.map _ List.nodup_range
  intro first second same
  apply Nat.repr_injective
  exact (String.append_right_inj _).mp same

structure Placement where
  node : Option NodeRecord
  agentUrl : Option String
  podNames : List String
  deriving DecidableEq

def Placement.on (node : NodeRecord) (podNames : List String) : Placement :=
  ⟨some node, node.endpoint, podNames⟩

def Placement.onLocalRuntime (podNames : List String) : Placement := ⟨none, none, podNames⟩

/-- The pods that have been assigned to each node id. -/
abbrev Assignments := String → List String

/-- The placements on the nodes that have been assigned pods. -/
def placementsOf (nodes : List NodeRecord) (assignments : Assignments) : List Placement :=
  (nodes.filter fun node => !(assignments node.nodeId).isEmpty).map fun node =>
    .on node (assignments node.nodeId)

/-! ## Eligible nodes -/

/-- The nodes that pass the filters, and the ids of those that are not ready. -/
def survey (manifest : AppManifest) (now grace : Int) :
    List (NodeRecord × Option NodeStatus) → Option (List NodeRecord × List String)
  | [] => some ([], [])
  | (node, status) :: rest =>
      if node.cordoned then survey manifest now grace rest
      else if !isReady status now grace then
        (survey manifest now grace rest).map fun (eligible, staleNodes) =>
          (eligible, node.nodeId :: staleNodes)
      else if !matchesNodeSelector node manifest then survey manifest now grace rest
      else
        (toleratesTaints node manifest).bind fun tolerated =>
          (survey manifest now grace rest).map fun (eligible, staleNodes) =>
            (if tolerated then node :: eligible else eligible, staleNodes)

def staleWarnings (staleNodes : List String) : List String :=
  if staleNodes.isEmpty then []
  else ["stale/not-ready nodes skipped: " ++ ", ".intercalate staleNodes]

/-! ## Pinned apps -/

/-- What storage says about the node of an app. -/
structure Pinning where
  hasDeclaredStorage : Bool
  localPvcPinning : Bool
  boundNodeId : Option String
  warnings : List String

/-- All pods have to be on one node. -/
def Pinning.pinned (pinning : Pinning) : Bool :=
  pinning.hasDeclaredStorage || pinning.localPvcPinning

/-- The bound node, empty where there is none. -/
def Pinning.bound (pinning : Pinning) : String := pinning.boundNodeId.getD ""

/-- The placement of an app that storage pins, with its warnings. -/
def placePinned
    (pinning : Pinning) (eligible : List NodeRecord)
    (podNames : List String) : List Placement × List String :=
  if pinning.bound ≠ "" then
    match eligible.find? (·.nodeId = pinning.bound) with
    | some boundNode => ([.on boundNode podNames], [])
    | none =>
        ([], ["storage volumes bound to node " ++ pinning.bound ++
          " but node is not eligible (cordoned/not ready); skipping placement"])
  else
    match eligible with
    | [] => ([], [])
    | target :: others =>
        ([.on target podNames],
          if pinning.localPvcPinning && !others.isEmpty then
            ["single-writer PVCs pending; pinning to node " ++ target.nodeId ++
              " until selected-node is set"]
          else [])

/-! ## Topology spread -/

def topologyKey (manifest : AppManifest) : Option Json :=
  (manifest.topologySpreadConstraints.map (Dict.get · "topologyKey")).find? Json.truthy

def topologyValue (key : String) (node : NodeRecord) : Option String :=
  match Dict.get node.labels key with
  | .null => none
  | value => some value.toStr

/-- The keys of `nodes_by_val`. -/
def topologyValues (key : String) (nodes : List NodeRecord) : List String :=
  (nodes.filterMap (topologyValue key)).dedup

/-- `nodes_by_val[val]`. -/
def bucket (key : String) (nodes : List NodeRecord) (value : String) : List NodeRecord :=
  nodes.filter fun node => topologyValue key node = some value

/-- The variables of the loop over the pods. -/
structure SpreadState where
  counts : String → Nat
  nodeIndex : String → Nat
  assignments : Assignments

namespace SpreadState

/-- No pod has been assigned. -/
def initial : SpreadState := ⟨fun _ => 0, fun _ => 0, fun _ => []⟩

/-- The order of values by their counts, and of equal counts by the keys. -/
def Before (state : SpreadState) (first second : String) : Prop :=
  state.counts first < state.counts second ∨
    state.counts first = state.counts second ∧ first ≤ second

instance (state : SpreadState) (first second : String) :
    Decidable (state.Before first second) :=
  inferInstanceAs (Decidable (_ ∨ _))

def assign
    (key : String) (nodes : List NodeRecord) (state : SpreadState)
    (podName : String) : SpreadState :=
  match ((topologyValues key nodes).insertionSort state.Before).head? with
  | none => state
  | some value =>
      let group := bucket key nodes value
      match group[state.nodeIndex value % group.length]? with
      | none => state
      | some target =>
          { counts := Function.update state.counts value (state.counts value + 1)
            nodeIndex := Function.update state.nodeIndex value (state.nodeIndex value + 1)
            assignments := put state.assignments target.nodeId podName }

instance (state : SpreadState) : Std.Total state.Before where
  total first second := by
    rcases lt_trichotomy (state.counts first) (state.counts second) with less | same | more
    · exact .inl (.inl less)
    · rcases le_total first second with before | after
      · exact .inl (.inr ⟨same, before⟩)
      · exact .inr (.inr ⟨same.symm, after⟩)
    · exact .inr (.inl more)

instance (state : SpreadState) : IsTrans String state.Before where
  trans first second third before after := by
    unfold Before at *
    rcases before with less | ⟨same, order⟩ <;> rcases after with more | ⟨equal, later⟩
    · omega
    · omega
    · omega
    · exact .inr ⟨by omega, le_trans order later⟩

/-- The first value of the order has a least count. -/
theorem least_of_head
    {state : SpreadState} {values : List String} {value : String}
    (first : (values.insertionSort state.Before).head? = some value) :
    value ∈ values ∧ Least {other | other ∈ values} state.counts value := by
  have member := List.mem_of_head? first
  refine ⟨(List.mem_insertionSort _).mp member, ?_⟩
  intro other present
  have sorted := List.pairwise_insertionSort state.Before values
  have listed := (List.mem_insertionSort state.Before).mpr present
  cases ordered : values.insertionSort state.Before with
  | nil => simp [ordered] at first
  | cons head rest =>
      rw [ordered] at first sorted listed
      obtain rfl : head = value := by simpa using first
      rcases List.mem_cons.mp listed with rfl | later
      · exact le_refl _
      · rcases List.rel_of_pairwise_cons sorted later with less | ⟨same, _⟩
        · exact less.le
        · exact same.le

end SpreadState

theorem bucket_ne_nil
    {key value : String} {nodes : List NodeRecord}
    (member : value ∈ topologyValues key nodes) : bucket key nodes value ≠ [] := by
  rw [topologyValues, List.mem_dedup, List.mem_filterMap] at member
  obtain ⟨node, present, has⟩ := member
  have inside : node ∈ bucket key nodes value := by
    simp [bucket, present, has]
  exact List.ne_nil_of_mem inside

/-- A pod goes to the node whose turn it is, of a value with a least count. -/
theorem SpreadState.assign_spec
    {key : String} {nodes : List NodeRecord} (state : SpreadState) (podName : String)
    (some_value : topologyValues key nodes ≠ []) :
    ∃ value ∈ topologyValues key nodes,
      Least {other | other ∈ topologyValues key nodes} state.counts value ∧
      ∃ target, (bucket key nodes value)[
          state.nodeIndex value % (bucket key nodes value).length]? = some target ∧
        state.assign key nodes podName =
          { counts := Function.update state.counts value (state.counts value + 1)
            nodeIndex := Function.update state.nodeIndex value (state.nodeIndex value + 1)
            assignments := put state.assignments target.nodeId podName } := by
  cases first : ((topologyValues key nodes).insertionSort state.Before).head? with
  | none =>
      rw [List.head?_eq_none_iff, ← List.length_eq_zero_iff, List.length_insertionSort,
        List.length_eq_zero_iff] at first
      exact absurd first some_value
  | some value =>
      obtain ⟨member, least⟩ := least_of_head first
      have room := List.length_pos_iff.mpr (bucket_ne_nil member)
      have inside := Nat.mod_lt (state.nodeIndex value) room
      have target := List.getElem?_eq_getElem inside
      refine ⟨value, member, least, _, target, ?_⟩
      simp only [assign, first, target]

def spreadAssignments
    (key : String) (nodes : List NodeRecord)
    (podNames : List String) : Assignments :=
  (podNames.foldl (SpreadState.assign key nodes) .initial).assignments

def spreadByTopology
    (nodes : List NodeRecord) (podNames : List String)
    (key : String) : List Placement :=
  if (topologyValues key nodes).length ≤ 1 then []
  else placementsOf nodes (spreadAssignments key nodes podNames)

/-- The same for any value of the key. -/
def spreadByTopologyKey
    (nodes : List NodeRecord) (podNames : List String) : Option Json → Option (List Placement)
  | none => some []
  | some (.str key) =>
      some (if 1 < nodes.length then spreadByTopology nodes podNames key else [])
  -- Labels have no other keys, and a list or a dictionary cannot be looked up.
  | some key => if nodes.length ≤ 1 || key.hashable then some [] else none

/-! ## Round robin -/

/-- Assign the pods from a position on. -/
def assignInTurn (eligible : List NodeRecord) :
    Nat → List String → Assignments → Assignments
  | _, [], assignments => assignments
  | idx, podName :: rest, assignments =>
      match eligible[idx % eligible.length]? with
      | none => assignments
      | some node => assignInTurn eligible (idx + 1) rest (put assignments node.nodeId podName)

def turnAssignments (eligible : List NodeRecord) (podNames : List String) : Assignments :=
  assignInTurn eligible 0 podNames fun _ => []

def roundRobin (eligible : List NodeRecord) (podNames : List String) : List Placement :=
  let placements := placementsOf eligible (turnAssignments eligible podNames)
  if placements.isEmpty then [.onLocalRuntime podNames] else placements

/-- The placement of an app that nothing pins. -/
def placeUnpinned
    (manifest : AppManifest) (eligible : List NodeRecord)
    (podNames : List String) : Option (List Placement) :=
  (spreadByTopologyKey eligible podNames (topologyKey manifest)).map fun placements =>
    if placements.isEmpty then roundRobin eligible podNames else placements

namespace Scheduler

variable (scheduler : Scheduler)

/-! ## The plan -/

def desired (manifest : AppManifest) : Nat :=
  if scheduler.rwopClaims manifest ≠ [] then 1 else manifest.replicas

/-- The warning about claims that allow one pod. -/
def rwopWarnings (manifest : AppManifest) : List String :=
  let claims := scheduler.rwopClaims manifest
  if claims ≠ [] ∧ 1 < manifest.replicas then
    ["ReadWriteOncePod PVCs limit replicas to 1; claims: " ++ ", ".intercalate claims]
  else []

def podNames (manifest : AppManifest) (revision : Int) : List String :=
  revisionPodNames manifest.appKey revision (scheduler.desired manifest)

/-- The grace period of heartbeats in seconds. -/
def grace : Int := notReadyGraceSeconds scheduler.notReadyAfter

/-- The eligible nodes, the warnings about storage and the nodes that are not ready. -/
def eligibleNodes (manifest : AppManifest) (now : Int) :
    Option (List NodeRecord × List String × List String) :=
  (survey manifest now scheduler.grace scheduler.nodes.nodes).map fun (ready, staleNodes) =>
    let (eligible, warnings, _) := scheduler.filterNodesByStorageTopology manifest ready
    (eligible, warnings, staleNodes)

/-- The node of the first attachment of declared storage. -/
def attachedNode (manifest : AppManifest) : Option String :=
  if manifest.storage.isEmpty then none
  else ((scheduler.attachedNodes manifest.appKey).getD []).head?

/-- The warning about records that disagree. -/
def disagreement (attached selected : Option String) : List String :=
  match attached, selected with
  | some first, some second =>
      if first ≠ "" ∧ second ≠ "" ∧ first ≠ second then
        ["storage attachments and single-writer PVCs disagree on bound node; using " ++ first]
      else []
  | _, _ => []

/-- What storage says about the node of an app. -/
def pinning (manifest : AppManifest) : Option Pinning :=
  (scheduler.localPathPinning manifest).map fun (localPvcPinning, localBoundNode, warnings) =>
    let attached := scheduler.attachedNode manifest
    { hasDeclaredStorage := !manifest.storage.isEmpty
      localPvcPinning
      boundNodeId := attached.or localBoundNode
      warnings := warnings ++ disagreement attached localBoundNode }

def place
    (manifest : AppManifest) (eligible : List NodeRecord)
    (podNames : List String) : Option (List Placement × List String) :=
  (scheduler.pinning manifest).bind fun pinning =>
    if pinning.pinned then
      let (placements, warnings) := placePinned pinning eligible podNames
      some (placements, pinning.warnings ++ warnings)
    else (placeUnpinned manifest eligible podNames).map (·, pinning.warnings)

/-- `plan`, at a time. -/
def plan (manifest : AppManifest) (revision now : Int) :
    Option (List Placement × List String) :=
  let podNames := scheduler.podNames manifest revision
  let rwopWarnings := scheduler.rwopWarnings manifest
  if scheduler.nodes.nodes.isEmpty then
    some ([.onLocalRuntime podNames],
      rwopWarnings ++ ["no nodes registered; scheduling on local runtime"])
  else
    (scheduler.eligibleNodes manifest now).bind fun (eligible, warnings, staleNodes) =>
      if eligible.isEmpty then
        some ([], rwopWarnings ++ warnings ++
          ["no eligible nodes after storage constraints; skipping placement"] ++
          staleWarnings staleNodes)
      else
        (scheduler.place manifest eligible podNames).map fun (placements, placeWarnings) =>
          (placements, rwopWarnings ++ warnings ++ placeWarnings ++ staleWarnings staleNodes)

end Scheduler

end Scheduling
end K1s
