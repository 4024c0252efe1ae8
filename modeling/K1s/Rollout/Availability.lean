import K1s.Rollout.Surge

/-!
# The availability of a rollout

A step takes a replica for available if the state store has it as ready, or if it is
an old one that runs.  A recorded replica may be gone, so that the first removal can
take old replicas that are still needed.  The removal of old revisions afterwards goes
by the probes of replicas that exist, and always leaves enough.
-/

namespace K1s
namespace Rollout

/-! ## The property -/

/-- How many current replicas exist and are ready and how many old ones run. -/
def available (spec : RolloutSpec) (ready : String → Bool) (replicas : List Replica) : Nat :=
  (replicas.filter fun replica => isCurrent spec replica && ready replica.replicaId).length +
    (replicas.filter fun replica => !isCurrent spec replica && replica.running).length

/-- Some replicas are available as before, or enough of them are. -/
def KeepsAvailable
    (spec : RolloutSpec) (ready : String → Bool)
    (before after : List Replica) : Prop :=
  min (available spec ready before : Int) (spec.replicas - spec.maxUnavailable) ≤
    available spec ready after

/-- Both removals of a step leave enough replicas, the first by the recorded readiness,
the second by what the probes find. -/
structure StaysAvailable
    (spec : RolloutSpec) (situation : Situation)
    (replicas : List Replica) : Prop where
  preRemoval : KeepsAvailable spec (situation.recordedReady.contains ·) replicas
    (preRemoved spec situation replicas)
  collection : KeepsAvailable spec situation.healthy (ensured spec situation replicas)
    (step spec situation replicas)

/-- The first removal takes no running replica, or leaves enough of those that are
there. -/
def AvailabilityRoom
    (spec : RolloutSpec) (recordedReady : List String)
    (replicas : List Replica) : Prop :=
  let available := available spec (recordedReady.contains ·) replicas
  let running := ((oldReplicas spec replicas).filter (·.running)).length
  let ready := (currentReadyIds spec recordedReady).length
  if spec.strategy = .canary then True
  else if spec.noOverlap then
    if spec.strategy = .ordered then
      (∀ first ∈ (oldReplicas spec replicas).head?, first.running = false) ∨
        spec.minAvailable < available
    else running = 0 ∨ spec.minAvailable + running ≤ available
  else if spec.strategy = .ordered then
    (∃ old ∈ oldReplicas spec replicas, old.running = false) ∨ running = 0 ∨
      ready + running ≤ spec.minAvailable ∨ spec.minAvailable < available
  else
    running = 0 ∨ ready + running ≤ spec.minAvailable ∨
      min ready spec.minAvailable + running ≤ available

/-! ## The first removal -/

section

variable {spec : RolloutSpec} {situation : Situation} {replicas : List Replica}

/-- How many running replicas the first removal takes. -/
def runningRemoved (spec : RolloutSpec) (situation : Situation) (replicas : List Replica) :
    Nat :=
  ((stepBudget spec situation replicas).removableOld.filter (·.running)).length

/-- The first removal takes running old replicas only from those that are available. -/
theorem available_preRemoved
    (situation : Situation) (wellNamed : WellNamed spec replicas) (ready : String → Bool) :
    available spec ready (preRemoved spec situation replicas) +
      runningRemoved spec situation replicas = available spec ready replicas := by
  have current := length_preRemoved wellNamed situation fun replica =>
    isCurrent spec replica && ready replica.replicaId
  have old := length_preRemoved wellNamed situation fun replica =>
    !isCurrent spec replica && replica.running
  have allOld : ∀ replica ∈ (stepBudget spec situation replicas).removableOld,
      isCurrent spec replica = false := fun replica member =>
    ((mem_oldReplicas _ _ _).mp (stepBudget_removableOld_subset _ _ _ member)).2
  have none : (stepBudget spec situation replicas).removableOld.filter (fun replica =>
      isCurrent spec replica && ready replica.replicaId) = [] := by
    rw [List.filter_eq_nil_iff]
    intro replica member
    simp [allOld replica member]
  have same : (stepBudget spec situation replicas).removableOld.filter (fun replica =>
      !isCurrent spec replica && replica.running) =
      (stepBudget spec situation replicas).removableOld.filter (·.running) := by
    apply List.filter_congr
    intro replica member
    simp [allOld replica member]
  rw [none, List.length_nil] at current
  rw [same] at old
  unfold available runningRemoved
  omega

theorem keepsAvailable_preRemoved_iff
    (wellNamed : WellNamed spec replicas) (ready : String → Bool) :
    KeepsAvailable spec ready replicas (preRemoved spec situation replicas) ↔
      runningRemoved spec situation replicas = 0 ∨
        spec.minAvailable + runningRemoved spec situation replicas ≤
          available spec ready replicas := by
  have parts := available_preRemoved situation wellNamed ready
  unfold KeepsAvailable RolloutSpec.minAvailable
  omega

/-- The number of running replicas that are removed, where they are told from the
others. -/
theorem runningRemoved_eq
    (budgeted : spec.strategy ≠ .canary) (overlap : spec.noOverlap = false) :
    runningRemoved spec situation replicas =
      let running := ((oldReplicas spec replicas).filter (·.running)).length
      let spare := min running
        ((currentReadyIds spec situation.recordedReady).length + running - spec.minAvailable)
      if spec.strategy = .ordered then
        if (oldReplicas spec replicas).filter (!·.running) = [] then min 1 spare else 0
      else spare := by
  have notRunning : ((oldReplicas spec replicas).filter (!·.running)).filter (·.running) = [] := by
    simp
  have taken : ∀ count, (((oldReplicas spec replicas).filter (·.running)).take count).filter
      (·.running) = ((oldReplicas spec replicas).filter (·.running)).take count := by
    intro count
    rw [List.filter_eq_self]
    intro replica member
    simpa using (List.mem_filter.mp (List.mem_of_mem_take member)).2
  rw [runningRemoved, stepBudget, budget_removableOld budgeted, removableOld, availableHeadroom,
    oldNotRunning, oldRunning, overlap]
  simp only [Bool.false_eq_true, if_false]
  by_cases ordered : spec.strategy = .ordered
  · simp only [ordered, if_true]
    cases stopped : (oldReplicas spec replicas).filter (!·.running) with
    | nil =>
        rw [List.nil_append, List.take_take, taken, List.length_take, if_pos rfl]
        omega
    | cons first rest =>
        have stops : first.running = false := by
          have member : first ∈ (oldReplicas spec replicas).filter (!·.running) := by
            simp [stopped]
          simpa using (List.mem_filter.mp member).2
        simp [stops]
  · simp only [ordered, if_false]
    rw [List.filter_append, notRunning, taken, List.nil_append, List.length_take]
    omega

/-- The same where all old replicas are taken for stopped ones. -/
theorem runningRemoved_of_noOverlap
    (budgeted : spec.strategy ≠ .canary) (noOverlap : spec.noOverlap = true) :
    runningRemoved spec situation replicas =
      if spec.strategy = .ordered then
        (((oldReplicas spec replicas).take 1).filter (·.running)).length
      else ((oldReplicas spec replicas).filter (·.running)).length := by
  rw [runningRemoved, stepBudget, budget_removableOld budgeted, removableOld,
    oldNotRunning, oldRunning, noOverlap]
  simp only [if_true, List.take_nil, List.append_nil]
  split_ifs <;> rfl

/-- The first removal leaves enough replicas if and only if there is room. -/
theorem availabilityRoom_iff (replicas : List Replica) :
    (runningRemoved spec situation replicas = 0 ∨
      spec.minAvailable + runningRemoved spec situation replicas ≤
        available spec (situation.recordedReady.contains ·) replicas) ↔
    AvailabilityRoom spec situation.recordedReady replicas := by
  unfold AvailabilityRoom
  by_cases canary : spec.strategy = .canary
  · have none : runningRemoved spec situation replicas = 0 := by
      simp [runningRemoved, stepBudget, budget, canary]
    simp [canary, none]
  · simp only [if_neg canary]
    cases overlap : spec.noOverlap with
    | true =>
        rw [runningRemoved_of_noOverlap canary overlap]
        simp only [if_true]
        by_cases ordered : spec.strategy = .ordered
        · simp only [ordered, if_true]
          cases oldReplicas spec replicas with
          | nil => simp
          | cons first rest =>
              cases runs : first.running with
              | true => simp [runs]
              | false => simp [runs]
        · simp only [ordered, if_false]
    | false =>
        rw [runningRemoved_eq canary overlap]
        have stopped : (oldReplicas spec replicas).filter (!·.running) = [] ↔
            ¬ ∃ old ∈ oldReplicas spec replicas, old.running = false := by
          simp [List.filter_eq_nil_iff]
        by_cases ordered : spec.strategy = .ordered
        · simp only [ordered, if_true, Bool.false_eq_true, if_false, stopped]
          by_cases someStopped : ∃ old ∈ oldReplicas spec replicas, old.running = false
          · simp [someStopped]
          · simp only [someStopped, not_false_eq_true, if_true, false_or]
            omega
        · simp only [ordered, Bool.false_eq_true, if_false]
          omega

/-! ## The removal of old revisions -/

variable (spec situation replicas) in
/-- The replicas that the health report counts are still there afterwards. -/
theorem readyReplicas_le_available :
    readyReplicas spec situation replicas ≤ available spec situation.healthy
      (removeOldRevisions spec (runtimesUsed spec situation replicas)
        (ensured spec situation replicas)) := by
  unfold available
  apply Nat.le_add_right_of_le
  rw [readyReplicas, ← List.length_map Replica.replicaId]
  apply List.Subperm.length_le
  apply ((List.nodup_dedup _).filter _).subperm
  intro podName counted
  obtain ⟨reported, healthy⟩ := List.mem_filter.mp counted
  rw [List.mem_dedup, List.mem_map] at reported
  obtain ⟨replica, member, rfl⟩ := reported
  obtain ⟨there, current⟩ := List.mem_filter.mp member
  have revision : replica.revision = spec.revision := by
    simpa using (Bool.and_eq_true_iff.mp current).2
  rw [List.mem_map]
  refine ⟨replica, ?_, rfl⟩
  simp [List.mem_filter, removeOldRevisions, there, revision, isCurrent, healthy]

theorem keepsAvailable_step :
    KeepsAvailable spec situation.healthy (ensured spec situation replicas)
      (step spec situation replicas) := by
  unfold step
  split_ifs with collects
  · have enough : spec.minAvailable ≤ readyReplicas spec situation replicas := by
      simpa using (Bool.and_eq_true_iff.mp collects).2
    have left := readyReplicas_le_available spec situation replicas
    unfold RolloutSpec.minAvailable at enough
    unfold KeepsAvailable
    omega
  · exact min_le_left _ _

end

/-- Neither removal of a step leaves too few replicas, whatever is planned, if and only
if the first one does not count on replicas that are gone. -/
theorem staysAvailable_iff
    {spec : RolloutSpec} (fleet : Fleet spec) (recordedReady : List String) :
    (∀ situation : Situation, situation.recordedReady = recordedReady →
      StaysAvailable spec situation fleet.replicas) ↔
      AvailabilityRoom spec recordedReady fleet.replicas := by
  constructor
  · intro stays
    have kept := (stays (onOneRuntime spec recordedReady false "") rfl).preRemoval
    rw [keepsAvailable_preRemoved_iff fleet.wellNamed] at kept
    exact (availabilityRoom_iff fleet.replicas).mp kept
  · rintro room situation rfl
    constructor
    · rw [keepsAvailable_preRemoved_iff fleet.wellNamed]
      exact (availabilityRoom_iff fleet.replicas).mpr room
    · exact keepsAvailable_step

/-- Both replicas of the new revision are recorded as ready, but gone, so that a step
stops both of the old ones. -/
theorem availability_lost_oldFleet :
    ¬ KeepsAvailable (webRollout 1 0) (["web-rev2-0", "web-rev2-1"].contains ·) oldFleet.replicas
      (preRemoved (webRollout 1 0)
        (onOneRuntime (webRollout 1 0) ["web-rev2-0", "web-rev2-1"] false "a")
        oldFleet.replicas) := by
  unfold KeepsAvailable
  decide +kernel

end Rollout
end K1s
