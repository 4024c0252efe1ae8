import K1s.Scheduling.Soundness

/-!
# Storage pins apps to nodes

Declared storage, and a mounted claim whose volume is made on one node or may be
written by one node only, keep the pods of an app together.  The node is that of the
first attachment, or one that is selected for a claim.  A claim for one pod leaves the
app one pod.
-/

namespace K1s
namespace Scheduling

open Py ApiShim

namespace Scheduler

variable (scheduler : Scheduler)

/-! ## What pins an app -/

def PinningClaim (manifest : AppManifest) (pvc : K8sObject) : Prop :=
  ∃ store, scheduler.shimStore = some store ∧
    (∃ claim ∈ scheduler.storedClaims manifest store, claim.2 = pvc) ∧
    scheduler.needsPinning store pvc = some true

/-- The app declares storage or mounts a claim that pins it. -/
def Pins (manifest : AppManifest) : Prop :=
  manifest.storage ≠ [] ∨ ∃ pvc, scheduler.PinningClaim manifest pvc

def Selected (manifest : AppManifest) (nodeId : String) : Prop :=
  nodeId ≠ "" ∧ ∃ pvc, scheduler.PinningClaim manifest pvc ∧ pvcSelectedNode pvc = some nodeId

theorem mem_pinningClaims
    {manifest : AppManifest} {claims : List K8sObject}
    (known : scheduler.pinningClaims manifest = some claims) (pvc : K8sObject) :
    pvc ∈ claims ↔ scheduler.PinningClaim manifest pvc := by
  unfold pinningClaims at known
  unfold PinningClaim
  cases present : scheduler.shimStore with
  | none =>
      rw [present] at known
      simp [← Option.some.inj known]
  | some store =>
      rw [present] at known
      simp only [Option.some.injEq, exists_eq_left', Option.map_eq_some_iff] at known ⊢
      obtain ⟨answers, answered, rfl⟩ := known
      rw [← List.mem_map]
      generalize (scheduler.storedClaims manifest store).map Prod.snd = pvcs at answered ⊢
      induction pvcs generalizing answers with
      | nil =>
          obtain rfl := Option.some.inj answered
          simp
      | cons first rest ih =>
          rw [List.mapM_cons] at answered
          cases answer : scheduler.needsPinning store first with
          | none => simp [answer] at answered
          | some pins =>
              cases others : rest.mapM (scheduler.needsPinning store) with
              | none => simp [answer, others] at answered
              | some remaining =>
                  simp only [answer, others, Option.pure_def, Option.bind_eq_bind,
                    Option.bind_some, Option.some.injEq] at answered
                  subst answered
                  have later := ih remaining others
                  by_cases same : pvc = first
                  · subst same
                    cases pins <;> simp_all
                  · cases pins <;> simp_all

theorem localPathPinning_spec
    {manifest : AppManifest} {pinned : Bool} {boundNode : Option String} {warnings : List String}
    (known : scheduler.localPathPinning manifest = some (pinned, boundNode, warnings)) :
    (pinned = true ↔ ∃ pvc, scheduler.PinningClaim manifest pvc) ∧
      (∀ nodeId, boundNode = some nodeId → scheduler.Selected manifest nodeId) ∧
      (boundNode = none → ∀ nodeId, ¬ scheduler.Selected manifest nodeId) := by
  unfold localPathPinning at known
  rw [Option.map_eq_some_iff] at known
  obtain ⟨claims, stored, known⟩ := known
  have pinning := scheduler.mem_pinningClaims stored
  split_ifs at known with none
  · simp only [Prod.mk.injEq] at known
    obtain ⟨rfl, rfl, -⟩ := known
    rw [List.isEmpty_iff] at none
    subst none
    simp only [List.not_mem_nil, false_iff] at pinning
    refine ⟨by simpa using pinning, by simp, ?_⟩
    rintro _ nodeId ⟨_, pvc, pins, _⟩
    exact pinning pvc pins
  · simp only [Prod.mk.injEq] at known
    obtain ⟨rfl, rfl, -⟩ := known
    have selected : ∀ nodeId, scheduler.Selected manifest nodeId ↔ nodeId ∈
        scheduler.nodeOrder ((claims.filterMap pvcSelectedNode).filter (· ≠ "")) := by
      intro nodeId
      rw [(scheduler.nodeOrder_perm _).mem_iff, List.mem_dedup, List.mem_filter,
        List.mem_filterMap]
      simp only [Selected, pinning, ne_eq, decide_not, Bool.not_eq_true', decide_eq_false_iff_not]
      exact and_comm
    refine ⟨?_, ?_, ?_⟩
    · obtain ⟨pvc, member⟩ := List.exists_mem_of_ne_nil claims (by simpa using none)
      simpa using ⟨pvc, (pinning pvc).mp member⟩
    · intro nodeId head
      exact (selected nodeId).mpr (List.mem_of_head? head)
    · intro nothing nodeId
      rw [selected, List.head?_eq_none_iff.mp nothing]
      exact List.not_mem_nil

/-- The pinning of an app is what its storage says. -/
theorem pinning_spec
    {manifest : AppManifest} {pinning : Pinning}
    (known : scheduler.pinning manifest = some pinning) :
    (pinning.pinned = true ↔ scheduler.Pins manifest) ∧
      (∀ nodeId, scheduler.attachedNode manifest = some nodeId → pinning.bound = nodeId) ∧
      (scheduler.attachedNode manifest = none → (∃ nodeId, scheduler.Selected manifest nodeId) →
          scheduler.Selected manifest pinning.bound) := by
  unfold Scheduler.pinning at known
  rw [Option.map_eq_some_iff] at known
  obtain ⟨⟨pinned, boundNode, warnings⟩, localPinning, rfl⟩ := known
  obtain ⟨pins, bound, unbound⟩ := scheduler.localPathPinning_spec localPinning
  refine ⟨?_, ?_, ?_⟩
  · simp [Pinning.pinned, Pins, ← pins]
  · intro nodeId attached
    simp [Pinning.bound, attached]
  · rintro detached ⟨nodeId, selected⟩
    cases found : boundNode with
    | none => exact absurd selected (unbound found nodeId)
    | some node =>
        simpa [Pinning.bound, detached, found] using bound node found

/-! ## Plans -/

end Scheduler

theorem placePinned_bound
    {pinning : Pinning} {eligible : List NodeRecord} {podNames : List String} {node : NodeRecord}
    (placed : (placePinned pinning eligible podNames).1 = [.on node podNames])
    (bound : pinning.bound ≠ "") : node.nodeId = pinning.bound := by
  unfold placePinned at placed
  rw [if_pos bound] at placed
  cases found : eligible.find? (·.nodeId = pinning.bound) with
  | none => simp [found] at placed
  | some boundNode =>
      have same : boundNode = node := by
        simpa [found, Placement.on] using congrArg (List.map Placement.node) placed
      rw [← same]
      simpa using List.find?_some found

namespace Scheduler

variable (scheduler : Scheduler)

/-- All pods are on a node that the records of the storage of the app allow. -/
structure PinnedTo (manifest : AppManifest) (node : NodeRecord) : Prop where
  attached : ∀ nodeId, scheduler.attachedNode manifest = some nodeId → nodeId ≠ "" →
    node.nodeId = nodeId
  selected : scheduler.attachedNode manifest = none →
    (∃ nodeId, scheduler.Selected manifest nodeId) → scheduler.Selected manifest node.nodeId

theorem length_pods_le
    {manifest : AppManifest} {revision now : Int} {placements : List Placement}
    (planned : scheduler.Planned manifest revision now placements) :
    (placements.flatMap Placement.podNames).length ≤ scheduler.desired manifest := by
  have number : (scheduler.podNames manifest revision).length = scheduler.desired manifest := by
    simp [podNames]
  rw [← number]
  cases planned with
  | noNodes empty => simp [Placement.onLocalRuntime]
  | noEligible known => simp
  | @pinned eligible _ _ pinning known some_node storage pins =>
      rcases placePinned_spec pinning eligible (scheduler.podNames manifest revision) with
        nothing | ⟨node, member, together⟩
      · simp [nothing]
      · simp [together, Placement.on]
  | unpinned known some_node storage free dealing =>
      have distinct := (scheduler.eligibleNodes_spec known).1
      exact (placementsOf_perm distinct (dealing.dealt some_node)).length_eq.le

end Scheduler

/-- A plan as it is without the local runtime: all its pods are on one node, the one
of the first attachment. -/
def OnAttachedNode
    (scheduler : Scheduler) (manifest : AppManifest)
    (placements : List Placement) : Prop :=
  ∀ nodeId, scheduler.attachedNode manifest = some nodeId →
    ∀ placement ∈ placements, placement.node.map NodeRecord.nodeId = some nodeId

end Scheduling
end K1s
