import K1s.Rollout.Step

/-!
# What a step does to the replicas

The budget of a step names the desired replicas that exist and as many others as may
be created.  Creation adds replicas of these names and keeps the current ones.  All
parts of a step keep the replicas well named.
-/

namespace K1s
namespace Rollout

/-! ## Removal -/

theorem length_removableOld (spec : RolloutSpec) (recordedReady : List String)
    (replicas : List Replica) :
    (removableOld spec recordedReady replicas).length =
      let all := (oldNotRunning spec replicas).length + min (oldRunning spec replicas).length
        ((currentReadyIds spec recordedReady).length + (oldRunning spec replicas).length -
          spec.minAvailable)
      if spec.strategy = .ordered then min 1 all else all := by
  unfold removableOld availableHeadroom
  split_ifs
  · simp [Nat.min_comm]
  · simp [Nat.min_comm]

theorem length_divided (spec : RolloutSpec) (replicas : List Replica) :
    (oldNotRunning spec replicas).length + (oldRunning spec replicas).length =
      (oldReplicas spec replicas).length := by
  rw [← List.length_append]
  exact (divided_perm spec replicas).length_eq

theorem removeOldRevisions_sublist
    (spec : RolloutSpec) (runtimes : List String) (replicas : List Replica) :
    (removeOldRevisions spec runtimes replicas).Sublist replicas :=
  List.filter_sublist

theorem step_sublist (spec : RolloutSpec) (situation : Situation) (replicas : List Replica) :
    (step spec situation replicas).Sublist (ensured spec situation replicas) := by
  unfold step
  split_ifs
  · exact removeOldRevisions_sublist _ _ _
  · exact .refl _

/-! ## Target names -/

/-- The selection takes the first names that have not been selected. -/
theorem selectPodNames_eq
    {total : Nat} {podNames selected : List String} (distinct : podNames.Nodup) :
    selectPodNames total podNames selected =
      selected ++ (podNames.filter (· ∉ selected)).take (total - selected.length) := by
  induction podNames generalizing selected with
  | nil => simp [selectPodNames]
  | cons podName rest ih =>
      obtain ⟨notLater, restDistinct⟩ := List.nodup_cons.mp distinct
      rw [selectPodNames]
      by_cases full : total ≤ selected.length
      · have none : total - selected.length = 0 := by omega
        simp [full, none]
      · rw [if_neg full, ih restDistinct]
        by_cases known : podName ∈ selected
        · simp [known]
        · have same : rest.filter (· ∉ selected ++ [podName]) =
              rest.filter (· ∉ selected) := by
            apply List.filter_congr
            intro other later
            have different : other ≠ podName := fun equal => notLater (equal ▸ later)
            simp [different]
          have more : total - selected.length = total - (selected.length + 1) + 1 := by omega
          rw [if_neg known, same, List.filter_cons_of_pos (by simpa using known), more,
            List.take_succ_cons, List.length_append, List.length_singleton,
            List.append_assoc, List.singleton_append]

section

variable {spec : RolloutSpec} {recordedReady : List String} {replicas : List Replica}

variable (spec recordedReady replicas) in
theorem targetNewTotal_le : targetNewTotal spec recordedReady replicas ≤ spec.replicas := by
  unfold targetNewTotal
  omega

variable (spec recordedReady replicas) in
theorem existingDesired_le_targetNewTotal :
    (existingDesired spec replicas).length ≤ targetNewTotal spec recordedReady replicas := by
  have bound := length_existingDesired_le spec replicas
  unfold targetNewTotal
  omega

/-- The desired names that do not exist. -/
def missingDesired (spec : RolloutSpec) (replicas : List Replica) : List String :=
  spec.desiredPodNames.filter (· ∉ existingDesired spec replicas)

theorem length_missingDesired (spec : RolloutSpec) (replicas : List Replica) :
    (existingDesired spec replicas).length + (missingDesired spec replicas).length =
      spec.replicas := by
  have split := List.length_eq_length_filter_add (l := spec.desiredPodNames)
    ((currentExistingIds spec replicas).contains ·)
  rw [spec.length_desiredPodNames] at split
  have same : missingDesired spec replicas = spec.desiredPodNames.filter
      (!(currentExistingIds spec replicas).contains ·) := by
    apply List.filter_congr
    intro podName desired
    simp [existingDesired, desired]
  rw [same, existingDesired]
  exact split.symm

theorem targetPodNames_eq (spec : RolloutSpec) (recordedReady : List String)
    (replicas : List Replica) :
    targetPodNames spec recordedReady replicas =
      existingDesired spec replicas ++ (missingDesired spec replicas).take
        (targetNewTotal spec recordedReady replicas - (existingDesired spec replicas).length) :=
  selectPodNames_eq spec.nodup_desiredPodNames

theorem nodup_targetPodNames : (targetPodNames spec recordedReady replicas).Nodup := by
  rw [targetPodNames_eq, List.nodup_append]
  refine ⟨spec.nodup_desiredPodNames.filter _, ?_, ?_⟩
  · exact (spec.nodup_desiredPodNames.filter _).sublist (List.take_sublist _ _)
  · rintro podName exists_ _ added rfl
    have missing := (List.mem_filter.mp (List.mem_of_mem_take added)).2
    simp [exists_] at missing

theorem targetPodNames_subset :
    targetPodNames spec recordedReady replicas ⊆ spec.desiredPodNames := by
  rw [targetPodNames_eq]
  intro podName member
  rcases List.mem_append.mp member with exists_ | added
  · exact List.mem_of_mem_filter exists_
  · exact List.mem_of_mem_filter (List.mem_of_mem_take added)

variable (spec recordedReady replicas) in
theorem length_targetPodNames :
    (targetPodNames spec recordedReady replicas).length =
      targetNewTotal spec recordedReady replicas := by
  have atMost := targetNewTotal_le spec recordedReady replicas
  have atLeast := existingDesired_le_targetNewTotal spec recordedReady replicas
  have parts := length_missingDesired spec replicas
  rw [targetPodNames_eq, List.length_append, List.length_take]
  omega

/-- How many replicas a step may create. -/
theorem createBudget_eq (spec : RolloutSpec) (recordedReady : List String)
    (replicas : List Replica) :
    createBudget spec recordedReady replicas =
      if spec.strategy = .ordered then
        min (targetNewTotal spec recordedReady replicas - (existingDesired spec replicas).length) 1
      else targetNewTotal spec recordedReady replicas -
        (existingDesired spec replicas).length := by
  have same : (targetPodNames spec recordedReady replicas).filter
      ((currentExistingIds spec replicas).contains ·) = existingDesired spec replicas := by
    rw [targetPodNames_eq, List.filter_append]
    have first : (existingDesired spec replicas).filter
        ((currentExistingIds spec replicas).contains ·) = existingDesired spec replicas := by
      simp [existingDesired]
    have second : ((missingDesired spec replicas).take
        (targetNewTotal spec recordedReady replicas -
          (existingDesired spec replicas).length)).filter
        ((currentExistingIds spec replicas).contains ·) = [] := by
      rw [List.filter_eq_nil_iff]
      intro podName added
      obtain ⟨desired, missing⟩ := List.mem_filter.mp (List.mem_of_mem_take added)
      simpa [existingDesired, desired] using missing
    rw [first, second, List.append_nil]
  unfold createBudget
  rw [same]

theorem budget_removableOld (budgeted : spec.strategy ≠ .canary) (coolingDown : Bool) :
    (budget spec recordedReady coolingDown replicas).removableOld =
      removableOld spec recordedReady replicas := by
  rw [budget, if_neg budgeted]

theorem budget_targetPodNames (budgeted : spec.strategy ≠ .canary) (coolingDown : Bool) :
    (budget spec recordedReady coolingDown replicas).targetPodNames =
      targetPodNames spec recordedReady replicas := by
  rw [budget, if_neg budgeted]

end

/-! ## Creation -/

/-- What `ensure_app` starts from. -/
def madeRoom (spec : RolloutSpec) (runtime : String) (replicas : List Replica) :
    List Replica :=
  if spec.keepOld then replicas else removeOldRevisions spec [runtime] replicas

theorem madeRoom_sublist (spec : RolloutSpec) (runtime : String) (replicas : List Replica) :
    (madeRoom spec runtime replicas).Sublist replicas := by
  unfold madeRoom
  split_ifs
  · exact .refl _
  · exact removeOldRevisions_sublist _ _ _

/-- The pods that `ensure_app` creates. -/
def appAdded
    (spec : RolloutSpec) (mountsReady : String → Bool) (runtime : String)
    (limit : Option Nat) (podNames : List String)
    (replicas : List Replica) : List String :=
  takeUpTo limit (missingOn spec mountsReady runtime podNames (madeRoom spec runtime replicas))

/-- `ensure_app` makes room and creates missing pods. -/
theorem ensureApp_spec
    (spec : RolloutSpec) (mountsReady : String → Bool) (runtime : String)
    (limit : Option Nat) {podNames : List String} (distinct : podNames.Nodup)
    (replicas : List Replica) :
    let added := appAdded spec mountsReady runtime limit podNames replicas
    let outcome := ensureApp spec mountsReady runtime limit podNames replicas
    outcome.1.map Replica.mark = (madeRoom spec runtime replicas).map Replica.mark ++
          added.map (runtime, ·, spec.revision) ∧
      outcome.2 = added.length := by
  have loop := ensurePods_spec spec mountsReady runtime limit distinct 0 (madeRoom spec runtime replicas)
  have whole : limit.map (· - 0) = limit := by cases limit <;> rfl
  simp only [whole, Nat.zero_add] at loop
  exact loop

/-- Creation stays within its limit. -/
theorem length_ensurePlacements_le
    {spec : RolloutSpec} {mountsReady : String → Bool} {limit : Nat}
    {placements : List RuntimePlacement}
    (distinct : ∀ placement ∈ placements, placement.podNames.Nodup) (replicas : List Replica) :
    (ensurePlacements spec mountsReady (some limit) placements replicas).length ≤
      replicas.length + limit := by
  induction placements generalizing limit replicas with
  | nil => simp [ensurePlacements]
  | cons placement rest ih =>
      rw [List.forall_mem_cons] at distinct
      obtain ⟨marks, number⟩ := ensureApp_spec spec mountsReady placement.runtime (some limit)
        distinct.1 replicas
      have lengths := congrArg List.length marks
      simp only [List.length_map, List.length_append] at lengths
      have room := (madeRoom_sublist spec placement.runtime replicas).length_le
      have within : (appAdded spec mountsReady placement.runtime (some limit)
          placement.podNames replicas).length ≤ limit := by
        simp [appAdded, takeUpTo]
      have later := @ih
        (limit - (ensureApp spec mountsReady placement.runtime (some limit)
          placement.podNames replicas).2) distinct.2
        (ensureApp spec mountsReady placement.runtime (some limit) placement.podNames replicas).1
      simp only [ensurePlacements, Option.map_some]
      omega

theorem filterPlacements_nodup
    (targetPodNames : List String) (placements : List RuntimePlacement) :
    ∀ placement ∈ filterPlacements targetPodNames placements, placement.podNames.Nodup := by
  intro placement member
  obtain ⟨mapped, _⟩ := List.mem_filter.mp member
  obtain ⟨given, _, rfl⟩ := List.mem_map.mp mapped
  exact (List.nodup_reverse.mpr (List.nodup_dedup _)).filter _

theorem filterPlacements_subset
    (targetPodNames : List String) (placements : List RuntimePlacement) :
    ∀ placement ∈ filterPlacements targetPodNames placements,
      placement.podNames ⊆ targetPodNames := by
  intro placement member podName named
  obtain ⟨mapped, _⟩ := List.mem_filter.mp member
  obtain ⟨given, _, rfl⟩ := List.mem_map.mp mapped
  simpa using (List.mem_filter.mp named).2

end Rollout
end K1s
