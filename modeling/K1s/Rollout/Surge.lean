import K1s.Rollout.Effects

/-!
# The surge of a rollout

A step creates replicas as far as the desired number and `maxSurge` allow for the old
replicas that remain and the desired ones that exist.  Replicas of the current revision
beyond these, which are not desired or exist twice, are not counted.  So a step that
starts within the bound ends within it exactly as long as there is room for them.
-/

namespace K1s
namespace Rollout

/-! ## The property -/

/-- No more replicas than the desired number and `maxSurge` allow. -/
def WithinSurge (spec : RolloutSpec) (replicas : List Replica) : Prop :=
  (replicas.length : Int) ≤ spec.replicas + spec.maxSurge

instance (spec : RolloutSpec) (replicas : List Replica) : Decidable (WithinSurge spec replicas) :=
  inferInstanceAs (Decidable (_ ≤ _))

/-- After each part of a step there are no more. -/
structure StaysWithinSurge
    (spec : RolloutSpec) (situation : Situation)
    (replicas : List Replica) : Prop where
  preRemoved : WithinSurge spec (preRemoved spec situation replicas)
  ensured : WithinSurge spec (ensured spec situation replicas)
  step : WithinSurge spec (step spec situation replicas)

/-- There is room for the replicas that are not counted: none are created, or there are
no such replicas, or they fit in `maxSurge` beside the running old replicas that are
still needed.  In an ordered rollout, one replica is created, which has to fit in
itself or to replace an old one. -/
def SurgeRoom
    (spec : RolloutSpec) (recordedReady : List String) (coolingDown : Bool)
    (replicas : List Replica) : Prop :=
  coolingDown = true ∨ surplus spec replicas = 0 ∨ missingDesired spec replicas = [] ∨
    let notRunning := (oldNotRunning spec replicas).length
    let running := (oldRunning spec replicas).length
    let ready := (currentReadyIds spec recordedReady).length
    if spec.strategy = .ordered then
      (replicas.length : Int) < spec.replicas + spec.maxSurge ∨ 0 < notRunning ∨
        (0 < running ∧ spec.minAvailable < ready + running)
    else (surplus spec replicas + min running (spec.minAvailable - ready) : Nat) ≤ spec.maxSurge

/-! ## Numbers -/

section

variable {spec : RolloutSpec} {recordedReady : List String} {replicas : List Replica}

def stepLimit
    (spec : RolloutSpec) (recordedReady : List String) (coolingDown : Bool)
    (replicas : List Replica) : Nat :=
  if coolingDown then 0
  else if spec.strategy = .ordered then
    min 1 (targetNewTotal spec recordedReady replicas - (existingDesired spec replicas).length)
  else targetNewTotal spec recordedReady replicas - (existingDesired spec replicas).length

theorem budget_limitCreate (budgeted : spec.strategy ≠ .canary) (coolingDown : Bool) :
    (budget spec recordedReady coolingDown replicas).limitCreate =
      some (stepLimit spec recordedReady coolingDown replicas) := by
  unfold budget stepLimit limitCreate
  rw [if_neg budgeted, createBudget_eq]
  split_ifs <;> simp [Nat.min_comm]

theorem missingDesired_eq_nil_iff (spec : RolloutSpec) (replicas : List Replica) :
    missingDesired spec replicas = [] ↔
      (existingDesired spec replicas).length = spec.replicas := by
  have parts := length_missingDesired spec replicas
  rw [← List.length_eq_zero_iff]
  omega

/-- What is left after the first removal, with the limit of creation, is within the
surge if and only if there is room. -/
theorem removed_add_limit_le_iff (within : WithinSurge spec replicas) (coolingDown : Bool) :
    ((replicas.length - (removableOld spec recordedReady replicas).length +
        stepLimit spec recordedReady coolingDown replicas : Nat) : Int) ≤
      spec.replicas + spec.maxSurge ↔
    SurgeRoom spec recordedReady coolingDown replicas := by
  have whole := length_add_surplus spec replicas
  have divided := length_divided spec replicas
  have existing := length_existingDesired_le spec replicas
  have removed := length_removableOld spec recordedReady replicas
  unfold WithinSurge at within
  unfold SurgeRoom
  rw [missingDesired_eq_nil_iff, stepLimit, targetNewTotal, allowedCurrentTotal, oldRemaining]
  simp only at removed ⊢
  generalize (removableOld spec recordedReady replicas).length = removedNumber at removed ⊢
  generalize (existingDesired spec replicas).length = existingNumber at whole existing ⊢
  generalize (oldReplicas spec replicas).length = oldNumber at whole divided ⊢
  generalize (oldNotRunning spec replicas).length = notRunning at divided removed ⊢
  generalize (oldRunning spec replicas).length = running at divided removed ⊢
  generalize (currentReadyIds spec recordedReady).length = ready at removed ⊢
  cases coolingDown with
  | true => simp; omega
  | false =>
      by_cases ordered : spec.strategy = .ordered
      · simp only [ordered, if_true, Bool.false_eq_true, if_false, false_or] at removed ⊢
        by_cases removes : 0 < notRunning ∨ 0 < running ∧ spec.minAvailable < ready + running
        · have one : removedNumber = 1 := by omega
          simp only [removes, or_true, iff_true]
          omega
        · have none : removedNumber = 0 := by omega
          simp only [removes, or_false]
          omega
      · simp only [ordered, Bool.false_eq_true, if_false, false_or] at removed ⊢
        -- The running old replicas that are still needed are left.
        have left : oldNumber - removedNumber = min running (spec.minAvailable - ready) := by
          omega
        have total : replicas.length - removedNumber =
            min running (spec.minAvailable - ready) + existingNumber + surplus spec replicas := by
          omega
        rw [left, total]
        have within : ((min running (spec.minAvailable - ready) + existingNumber +
            surplus spec replicas : Nat) : Int) ≤ spec.replicas + spec.maxSurge := by
          omega
        generalize min running (spec.minAvailable - ready) = kept at within ⊢
        omega

end

section

variable {spec : RolloutSpec} {situation : Situation} {replicas : List Replica}

variable (situation) in
theorem length_preRemoved_eq
    (budgeted : spec.strategy ≠ .canary) (wellNamed : WellNamed spec replicas) :
    (preRemoved spec situation replicas).length =
      replicas.length - (removableOld spec situation.recordedReady replicas).length := by
  have parts := length_preRemoved wellNamed situation fun _ => true
  rw [stepBudget, budget_removableOld budgeted] at parts
  simp only [List.filter_true] at parts
  omega

variable (situation replicas) in
/-- Creation adds no more than its limit. -/
theorem length_ensured_le (budgeted : spec.strategy ≠ .canary) :
    (ensured spec situation replicas).length ≤ (preRemoved spec situation replicas).length +
      stepLimit spec situation.recordedReady situation.coolingDown replicas := by
  rw [ensured, stepBudget, budget_limitCreate budgeted]
  exact length_ensurePlacements_le (filterPlacements_nodup _ _) _

end

/-! ## A plan that uses the whole limit -/

theorem fromKeys_of_nodup {names : List String} (distinct : names.Nodup) :
    fromKeys names = names := by
  rw [fromKeys, List.Nodup.dedup (List.nodup_reverse.mpr distinct), List.reverse_reverse]

/-- A runtime without replicas creates the pods that it is given. -/
theorem length_ensureApp_of_absent
    (spec : RolloutSpec) {runtime : String} {podNames : List String}
    {replicas : List Replica} (distinct : podNames.Nodup)
    (absent : ∀ replica ∈ replicas, replica.runtime ≠ runtime) (limit : Nat) :
    (ensureApp spec (fun _ => true) runtime (some limit) podNames replicas).1.length =
      replicas.length + min limit podNames.length := by
  have room : madeRoom spec runtime replicas = replicas := by
    unfold madeRoom
    split_ifs
    · rfl
    · rw [removeOldRevisions, List.filter_eq_self]
      intro replica member
      simp [absent replica member]
  have missing : missingOn spec (fun _ => true) runtime podNames replicas = podNames := by
    rw [missingOn, List.filter_eq_self]
    intro podName _
    simp only [present_eq, Bool.true_and, Bool.not_eq_true', Bool.eq_false_iff, ne_eq,
      List.contains_iff_mem, List.mem_map, Replica.mark, Prod.mk.injEq, not_exists, not_and]
    exact fun replica member same => absurd same (absent replica member)
  obtain ⟨marks, -⟩ := ensureApp_spec spec (fun _ => true) runtime (some limit) distinct replicas
  have lengths := congrArg List.length marks
  simpa [appAdded, room, missing, takeUpTo] using lengths

/-- All desired pods are to be on one runtime, and their volumes are ready. -/
def onOneRuntime
    (spec : RolloutSpec) (recordedReady : List String) (coolingDown : Bool)
    (runtime : String) : Situation where
  recordedReady
  coolingDown
  placements := [⟨runtime, spec.desiredPodNames⟩]
  mountsReady _ := true
  healthy _ := false
  localRuntime := runtime

/-- A runtime without replicas creates as many as the limit allows. -/
theorem length_ensured_onOneRuntime
    {spec : RolloutSpec} {recordedReady : List String} {coolingDown : Bool}
    {runtime : String} {replicas : List Replica} (budgeted : spec.strategy ≠ .canary)
    (fresh : runtime ∉ replicas.map Replica.runtime) :
    let situation := onOneRuntime spec recordedReady coolingDown runtime
    (ensured spec situation replicas).length = (preRemoved spec situation replicas).length +
      stepLimit spec recordedReady coolingDown replicas := by
  intro situation
  have absent : ∀ replica ∈ preRemoved spec situation replicas, replica.runtime ≠ runtime := by
    intro replica member same
    exact fresh (List.mem_map.mpr ⟨replica, (without_sublist _ _).subset member, same⟩)
  have atMost : stepLimit spec recordedReady coolingDown replicas ≤
      (targetPodNames spec recordedReady replicas).length := by
    rw [length_targetPodNames, stepLimit]
    split_ifs <;> omega
  have targets : (spec.desiredPodNames.filter
      ((targetPodNames spec recordedReady replicas).contains ·)).Perm
        (targetPodNames spec recordedReady replicas) := by
    rw [List.perm_ext_iff_of_nodup (spec.nodup_desiredPodNames.filter _) nodup_targetPodNames]
    intro podName
    simpa using @targetPodNames_subset spec recordedReady replicas podName
  have limit : (stepBudget spec situation replicas).limitCreate =
      some (stepLimit spec recordedReady coolingDown replicas) :=
    budget_limitCreate budgeted coolingDown
  have target : (stepBudget spec situation replicas).targetPodNames =
      targetPodNames spec recordedReady replicas :=
    budget_targetPodNames budgeted coolingDown
  rw [ensured, stepPlacements, limit, target]
  have placements : situation.placements = [⟨runtime, spec.desiredPodNames⟩] := rfl
  rw [placements, filterPlacements, List.map_singleton,
    fromKeys_of_nodup spec.nodup_desiredPodNames]
  have number := targets.length_eq
  have distinct := spec.nodup_desiredPodNames.filter
    ((targetPodNames spec recordedReady replicas).contains ·)
  generalize spec.desiredPodNames.filter
    ((targetPodNames spec recordedReady replicas).contains ·) = podNames at number distinct ⊢
  by_cases nothing : podNames = []
  · subst nothing
    simp only [List.length_nil] at number
    simp [ensurePlacements]
    omega
  · rw [List.filter_cons_of_pos (by simpa using nothing), List.filter_nil]
    have created := length_ensureApp_of_absent spec distinct absent
      (stepLimit spec recordedReady coolingDown replicas)
    rw [Nat.min_eq_left (by omega)] at created
    exact created

/-- A step with a budget that starts within the surge ends within it, whatever is
planned, if and only if there is room for the replicas that are not counted. -/
theorem staysWithinSurge_iff
    {spec : RolloutSpec} (fleet : Fleet spec) (recordedReady : List String)
    (coolingDown : Bool) (budgeted : spec.strategy ≠ .canary)
    (within : WithinSurge spec fleet.replicas) :
    (∀ situation : Situation, situation.recordedReady = recordedReady →
      situation.coolingDown = coolingDown → StaysWithinSurge spec situation fleet.replicas) ↔
      SurgeRoom spec recordedReady coolingDown fleet.replicas := by
  rw [← removed_add_limit_le_iff within coolingDown]
  constructor
  · intro stays
    obtain ⟨runtime, fresh⟩ :=
      Infinite.exists_notMem_finset (fleet.replicas.map Replica.runtime).toFinset
    rw [List.mem_toFinset] at fresh
    have ensured := (stays (onOneRuntime spec recordedReady coolingDown runtime) rfl rfl).ensured
    rw [WithinSurge, length_ensured_onOneRuntime budgeted fresh,
      length_preRemoved_eq _ budgeted fleet.wellNamed] at ensured
    exact ensured
  · rintro room situation rfl rfl
    have removed := length_preRemoved_eq situation budgeted fleet.wellNamed
    have created := length_ensured_le situation fleet.replicas budgeted
    have kept := (step_sublist spec situation fleet.replicas).length_le
    constructor
    · unfold WithinSurge
      omega
    · unfold WithinSurge
      omega
    · unfold WithinSurge
      omega

/-- A parallel rollout of two replicas, from revision 1 to revision 2. -/
def webRollout (maxSurge maxUnavailable : Int) : RolloutSpec where
  appName := "web"
  revision := 2
  replicas := 2
  oneReplica := by decide
  strategy := .parallel
  maxSurge := maxSurge
  maxUnavailable := maxUnavailable
  weight := none
  fixedServicePort := false
  aliasRefresh := false

def webReplica (runtime : String) (revision : Int) (idx : Nat) : Replica :=
  ⟨runtime, "web-rev" ++ toString revision ++ "-" ++ toString idx, revision, true⟩

/-- Two running replicas of revision 1. -/
def oldFleet : Fleet (webRollout 1 0) where
  replicas := [webReplica "a" 1 0, webReplica "a" 1 1]
  wellNamed := ⟨by decide +kernel, by decide +kernel, by decide +kernel⟩

theorem staysWithinSurge_oldFleet :
    StaysWithinSurge (webRollout 1 0) (onOneRuntime (webRollout 1 0) [] false "b")
      oldFleet.replicas :=
  (staysWithinSurge_iff oldFleet [] false (by decide) (by decide)).mpr
    (.inr (.inl (by decide +kernel))) _ rfl rfl

/-- A replica of revision 2 that was placed again while its node was away. -/
def returnedFleet : Fleet (webRollout 1 0) where
  replicas := [webReplica "a" 2 0, webReplica "b" 2 0, webReplica "a" 1 1]
  wellNamed := ⟨by decide +kernel, by decide +kernel, by decide +kernel⟩

/-- A step makes four replicas where three are allowed. -/
theorem surge_exceeded_returnedFleet :
    WithinSurge (webRollout 1 0) returnedFleet.replicas ∧
      ¬ WithinSurge (webRollout 1 0) (step (webRollout 1 0)
        { recordedReady := ["web-rev2-0"]
          coolingDown := false
          placements := [⟨"a", ["web-rev2-1"]⟩, ⟨"b", ["web-rev2-0"]⟩]
          mountsReady := fun _ => true
          healthy := fun podName => podName = "web-rev2-0"
          localRuntime := "controller" }
        returnedFleet.replicas) := by
  decide +kernel

end Rollout
end K1s
