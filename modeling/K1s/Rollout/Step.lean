import K1s.Rollout.Replicas

/-!
# A step of a rollout

A step removes old replicas that it can spare, creates as many new ones as its budget
allows, and, once enough new ones are ready, removes the old ones on the runtimes that
it has used.  All runtimes answer, and do what they are asked.
-/

namespace K1s
namespace Rollout

/-! ## The budget -/

/-- What a step may remove and create. -/
structure Budget where
  removableOld : List Replica
  targetPodNames : List String
  /-- `effective_limit_create`. -/
  limitCreate : Option Nat

/-- `old_not_running`.  Where old and new replicas may not overlap, all old ones are
taken for such. -/
def oldNotRunning (spec : RolloutSpec) (replicas : List Replica) : List Replica :=
  if spec.noOverlap then oldReplicas spec replicas
  else (oldReplicas spec replicas).filter (!·.running)

def oldRunning (spec : RolloutSpec) (replicas : List Replica) : List Replica :=
  if spec.noOverlap then [] else (oldReplicas spec replicas).filter (·.running)

def availableHeadroom
    (spec : RolloutSpec) (recordedReady : List String)
    (replicas : List Replica) : Nat :=
  (currentReadyIds spec recordedReady).length + (oldRunning spec replicas).length -
    spec.minAvailable

def removableOld
    (spec : RolloutSpec) (recordedReady : List String)
    (replicas : List Replica) : List Replica :=
  let removable := oldNotRunning spec replicas ++
    (oldRunning spec replicas).take (availableHeadroom spec recordedReady replicas)
  if spec.strategy = .ordered then removable.take 1 else removable

/-- `allowed_current_total`, for the number of old replicas that remain. -/
def allowedCurrentTotal (spec : RolloutSpec) (oldRemaining : Nat) : Nat :=
  min spec.replicas (spec.replicas + spec.maxSurge - oldRemaining).toNat

def oldRemaining
    (spec : RolloutSpec) (recordedReady : List String)
    (replicas : List Replica) : Nat :=
  (oldReplicas spec replicas).length - (removableOld spec recordedReady replicas).length

def targetNewTotal
    (spec : RolloutSpec) (recordedReady : List String)
    (replicas : List Replica) : Nat :=
  min spec.replicas (max (existingDesired spec replicas).length
    (allowedCurrentTotal spec (oldRemaining spec recordedReady replicas)))

/-- Add desired names to the selected ones up to a number of them. -/
def selectPodNames (total : Nat) : List String → List String → List String
  | [], selected => selected
  | podName :: rest, selected =>
      if total ≤ selected.length then selected
      else selectPodNames total rest
        (if podName ∈ selected then selected else selected ++ [podName])

def targetPodNames
    (spec : RolloutSpec) (recordedReady : List String)
    (replicas : List Replica) : List String :=
  selectPodNames (targetNewTotal spec recordedReady replicas) spec.desiredPodNames
    (existingDesired spec replicas)

def createBudget
    (spec : RolloutSpec) (recordedReady : List String)
    (replicas : List Replica) : Nat :=
  let existing := (targetPodNames spec recordedReady replicas).filter
    ((currentExistingIds spec replicas).contains ·)
  let missing := targetNewTotal spec recordedReady replicas - existing.length
  if spec.strategy = .ordered then min missing 1 else missing

def limitCreate (spec : RolloutSpec) (coolingDown : Bool) : Option Nat :=
  if coolingDown then some 0
  else if spec.strategy = .ordered then some 1
  else none

/-- The budget of a step.  A canary has none. -/
def budget
    (spec : RolloutSpec) (recordedReady : List String) (coolingDown : Bool)
    (replicas : List Replica) : Budget :=
  if spec.strategy = .canary then
    { removableOld := []
      targetPodNames := spec.desiredPodNames
      limitCreate := limitCreate spec coolingDown }
  else
    { removableOld := removableOld spec recordedReady replicas
      targetPodNames := targetPodNames spec recordedReady replicas
      limitCreate :=
        let createBudget := createBudget spec recordedReady replicas
        some (((limitCreate spec coolingDown).map (min · createBudget)).getD createBudget) }

/-! ## Runtimes -/

def removeOldRevisions
    (spec : RolloutSpec) (runtimes : List String)
    (replicas : List Replica) : List Replica :=
  replicas.filter fun replica =>
    !(runtimes.contains replica.runtime && replica.revision ≠ spec.revision)

/-- A replica of the current revision is on a runtime. -/
def present (spec : RolloutSpec) (runtime podName : String) (replicas : List Replica) : Bool :=
  replicas.any fun replica =>
    replica.key = (runtime, podName) && replica.revision = spec.revision

def start (runtime podName : String) (replicas : List Replica) : List Replica :=
  replicas.map fun replica =>
    if replica.key = (runtime, podName) then { replica with running := true } else replica

/-- The loop of `ensure_app` over the pods, with the number of those that it has
created.  A pod whose volumes are not ready is left out. -/
def ensurePods
    (spec : RolloutSpec) (mountsReady : String → Bool) (runtime : String)
    (limit : Option Nat) : List String → Nat → List Replica → List Replica × Nat
  | [], created, replicas => (replicas, created)
  | podName :: rest, created, replicas =>
      if !mountsReady podName then
        ensurePods spec mountsReady runtime limit rest created replicas
      else if present spec runtime podName replicas then
        ensurePods spec mountsReady runtime limit rest created (start runtime podName replicas)
      else if limit.any (· ≤ created) then
        ensurePods spec mountsReady runtime limit rest created replicas
      else
        ensurePods spec mountsReady runtime limit rest (created + 1)
          (replicas ++ [⟨runtime, podName, spec.revision, true⟩])

/-- `ensure_app`.  A single replica with a fixed port makes room for its successor;
nothing old is left to be removed after that. -/
def ensureApp
    (spec : RolloutSpec) (mountsReady : String → Bool) (runtime : String)
    (limit : Option Nat) (podNames : List String)
    (replicas : List Replica) : List Replica × Nat :=
  ensurePods spec mountsReady runtime limit podNames 0
    (if spec.keepOld then replicas else removeOldRevisions spec [runtime] replicas)

/-! ## The step -/

/-- A placement of the scheduler, with the runtime of its node. -/
structure RuntimePlacement where
  runtime : String
  podNames : List String

/-- What a step finds besides the replicas. -/
structure Situation where
  /-- The pods that the state store has as ready. -/
  recordedReady : List String
  /-- The creation cooldown is active. -/
  coolingDown : Bool
  placements : List RuntimePlacement
  mountsReady : String → Bool
  /-- The pods that the probes find ready after creation. -/
  healthy : String → Bool
  localRuntime : String

/-- `list(dict.fromkeys(names))`: the first of equal names stays. -/
def fromKeys (names : List String) : List String := names.reverse.dedup.reverse

def filterPlacements
    (targetPodNames : List String)
    (placements : List RuntimePlacement) : List RuntimePlacement :=
  (placements.map fun placement =>
    { placement with
      podNames := (fromKeys placement.podNames).filter (targetPodNames.contains ·) }).filter
    fun placement => !placement.podNames.isEmpty

/-- The loop over the placements with the limit that remains. -/
def ensurePlacements (spec : RolloutSpec) (mountsReady : String → Bool) :
    Option Nat → List RuntimePlacement → List Replica → List Replica
  | _, [], replicas => replicas
  | remainingLimit, placement :: rest, replicas =>
      let (ensured, created) := ensureApp spec mountsReady placement.runtime remainingLimit
        placement.podNames replicas
      ensurePlacements spec mountsReady (remainingLimit.map (· - created)) rest ensured

section

variable (spec : RolloutSpec) (situation : Situation) (replicas : List Replica)

def stepBudget : Budget :=
  budget spec situation.recordedReady situation.coolingDown replicas

/-- The replicas after the removal of old ones that can be spared. -/
def preRemoved : List Replica :=
  without (stepBudget spec situation replicas).removableOld replicas

/-- The placements whose pods are to be there. -/
def stepPlacements : List RuntimePlacement :=
  filterPlacements (stepBudget spec situation replicas).targetPodNames situation.placements

/-- The replicas after the creation of new ones. -/
def ensured : List Replica :=
  ensurePlacements spec situation.mountsReady (stepBudget spec situation replicas).limitCreate
    (stepPlacements spec situation replicas) (preRemoved spec situation replicas)

/-- `runtimes_used` and the local runtime. -/
def runtimesUsed : List String :=
  (stepBudget spec situation replicas).removableOld.map Replica.runtime ++
    (stepPlacements spec situation replicas).map RuntimePlacement.runtime ++
    [situation.localRuntime]

/-- `ready_replicas` of the health report, over the replicas that the runtimes of the
placements have reported. -/
def readyReplicas : Nat :=
  let reported := (ensured spec situation replicas).filter fun replica =>
    ((stepPlacements spec situation replicas).map RuntimePlacement.runtime).contains
      replica.runtime && replica.revision = spec.revision
  ((reported.map Replica.replicaId).dedup.filter situation.healthy).length

def step : List Replica :=
  if !spec.canaryActive && spec.minAvailable ≤ readyReplicas spec situation replicas then
    removeOldRevisions spec (runtimesUsed spec situation replicas)
      (ensured spec situation replicas)
  else ensured spec situation replicas

end

/-! ## What removal takes -/

section

variable {spec : RolloutSpec} {recordedReady : List String} {replicas : List Replica}

theorem divided_perm (spec : RolloutSpec) (replicas : List Replica) :
    (oldNotRunning spec replicas ++ oldRunning spec replicas).Perm
      (oldReplicas spec replicas) := by
  unfold oldNotRunning oldRunning
  split_ifs
  · simp
  · have split := List.filter_append_perm (fun replica : Replica => !replica.running)
      (oldReplicas spec replicas)
    simpa using split

variable (spec recordedReady replicas) in
theorem removableOld_subperm :
    (removableOld spec recordedReady replicas).Subperm (oldReplicas spec replicas) := by
  apply List.Subperm.trans _ (divided_perm spec replicas).subperm
  apply List.Sublist.subperm
  unfold removableOld
  have sublist := (List.Sublist.refl (oldNotRunning spec replicas)).append
    (List.take_sublist (availableHeadroom spec recordedReady replicas) (oldRunning spec replicas))
  split_ifs
  · exact (List.take_sublist _ _).trans sublist
  · exact sublist

theorem removableOld_nodup : (removableOld spec recordedReady replicas).Nodup := by
  obtain ⟨same, perm, sublist⟩ :=
    removableOld_subperm spec recordedReady replicas
  exact perm.nodup_iff.mp ((oldReplicas_nodup spec replicas).sublist sublist)

/-- What the step removes first is old. -/
theorem stepBudget_removableOld_subset
    (spec : RolloutSpec) (situation : Situation) (replicas : List Replica) :
    (stepBudget spec situation replicas).removableOld ⊆ oldReplicas spec replicas := by
  unfold stepBudget budget
  split_ifs
  · simp
  · exact (removableOld_subperm _ _ _).subset

theorem stepBudget_removableOld_nodup
    (spec : RolloutSpec) (situation : Situation) (replicas : List Replica) :
    (stepBudget spec situation replicas).removableOld.Nodup := by
  unfold stepBudget budget
  split_ifs
  · simp
  · exact removableOld_nodup

/-- The replicas that are left after the first removal and those that it takes. -/
theorem length_preRemoved
    (wellNamed : WellNamed spec replicas) (situation : Situation) (kind : Replica → Bool) :
    ((preRemoved spec situation replicas).filter kind).length +
        ((stepBudget spec situation replicas).removableOld.filter kind).length =
      (replicas.filter kind).length := by
  apply length_filter_without wellNamed.distinct (stepBudget_removableOld_nodup _ _ _)
  intro replica member
  exact oldReplicas_subset spec replicas (stepBudget_removableOld_subset _ _ _ member)

end

/-! ## What creation adds -/

/-- A replica apart from whether it runs. -/
def Replica.mark (replica : Replica) : String × String × Int :=
  (replica.runtime, replica.replicaId, replica.revision)

/-- The first items of a list, up to a limit where there is one. -/
def takeUpTo {α : Type} (limit : Option Nat) (items : List α) : List α :=
  limit.elim items items.take

theorem takeUpTo_sublist {α : Type} (limit : Option Nat) (items : List α) :
    (takeUpTo limit items).Sublist items := by
  cases limit with
  | none => exact .refl _
  | some count => exact List.take_sublist count items

@[simp] theorem start_marks (runtime podName : String) (replicas : List Replica) :
    (start runtime podName replicas).map Replica.mark = replicas.map Replica.mark := by
  rw [start, List.map_map]
  apply List.map_congr_left
  intro replica _
  simp only [Function.comp_apply]
  split_ifs <;> rfl

theorem present_eq (spec : RolloutSpec) (runtime podName : String) (replicas : List Replica) :
    present spec runtime podName replicas =
      (replicas.map Replica.mark).contains (runtime, podName, spec.revision) := by
  rw [Bool.eq_iff_iff, List.contains_iff_mem]
  simp [present, Replica.mark, Replica.key, and_assoc]

@[simp] theorem present_start
    (spec : RolloutSpec) (runtime podName startedOn started : String) (replicas : List Replica) :
    present spec runtime podName (start startedOn started replicas) =
      present spec runtime podName replicas := by
  simp [present_eq]

/-- The pods that a runtime has to create: their volumes are ready, and they are not
there. -/
def missingOn
    (spec : RolloutSpec) (mountsReady : String → Bool) (runtime : String) (podNames : List String)
    (replicas : List Replica) : List String :=
  podNames.filter fun podName =>
    mountsReady podName && !present spec runtime podName replicas

/-- Nothing more is taken once the limit is reached. -/
theorem takeUpTo_of_full
    {α : Type} {limit : Option Nat} {created : Nat} (full : limit.any (· ≤ created) = true)
    (items : List α) : takeUpTo (limit.map (· - created)) items = [] := by
  cases limit with
  | none => simp at full
  | some count =>
      have none : count - created = 0 := by
        simp at full
        omega
      simp [takeUpTo, none]

/-- Until then, the first item is. -/
theorem takeUpTo_cons
    {α : Type} {limit : Option Nat} {created : Nat} (room : limit.any (· ≤ created) = false)
    (item : α) (items : List α) :
    takeUpTo (limit.map (· - created)) (item :: items) =
      item :: takeUpTo (limit.map (· - (created + 1))) items := by
  cases limit with
  | none => simp [takeUpTo]
  | some count =>
      have some : count - created = count - (created + 1) + 1 := by
        simp at room
        omega
      simp [takeUpTo, some]

/-- The loop creates the first missing pods, as far as the limit allows. -/
theorem ensurePods_spec
    (spec : RolloutSpec) (mountsReady : String → Bool) (runtime : String)
    (limit : Option Nat) {podNames : List String} (distinct : podNames.Nodup)
    (created : Nat) (replicas : List Replica) :
    let added := takeUpTo (limit.map (· - created))
      (missingOn spec mountsReady runtime podNames replicas)
    let outcome := ensurePods spec mountsReady runtime limit podNames created replicas
    outcome.1.map Replica.mark =
        replicas.map Replica.mark ++ added.map (runtime, ·, spec.revision) ∧
      outcome.2 = created + added.length := by
  induction podNames generalizing created replicas with
  | nil => cases limit <;> simp [ensurePods, missingOn, takeUpTo]
  | cons podName rest ih =>
      obtain ⟨notLater, restDistinct⟩ := List.nodup_cons.mp distinct
      have step := ih restDistinct
      rw [ensurePods]
      by_cases ready : mountsReady podName = true
      · by_cases there : present spec runtime podName replicas = true
        · have same : missingOn spec mountsReady runtime rest (start runtime podName replicas) =
              missingOn spec mountsReady runtime (podName :: rest) replicas := by
            simp [missingOn, there]
          have next := step created (start runtime podName replicas)
          rw [same] at next
          simpa [ready, there] using next
        · have first : missingOn spec mountsReady runtime (podName :: rest) replicas =
              podName :: missingOn spec mountsReady runtime rest replicas := by
            simp [missingOn, ready, there]
          by_cases full : limit.any (· ≤ created) = true
          · have next := step created replicas
            rw [takeUpTo_of_full full] at next ⊢
            simpa [ready, there, full] using next
          · rw [Bool.not_eq_true] at full
            have same : missingOn spec mountsReady runtime rest
                (replicas ++ [⟨runtime, podName, spec.revision, true⟩]) =
                missingOn spec mountsReady runtime rest replicas := by
              apply List.filter_congr
              intro other later
              have different : other ≠ podName := fun equal => notLater (equal ▸ later)
              simp [present_eq, Replica.mark, different]
            have next := step (created + 1) (replicas ++ [⟨runtime, podName, spec.revision, true⟩])
            rw [same] at next
            rw [first, takeUpTo_cons full]
            simp only [ready, there, full, Bool.not_true, Bool.false_eq_true, if_false]
            refine ⟨?_, ?_⟩
            · rw [next.1]
              simp [Replica.mark]
            · rw [next.2, List.length_cons]
              omega
      · have next := step created replicas
        simpa [ready, missingOn] using next

end Rollout
end K1s
