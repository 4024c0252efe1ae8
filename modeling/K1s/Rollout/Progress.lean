import K1s.Rollout.Frame
import K1s.Rollout.Surge

/-!
# The progress of a rollout

The plan puts every desired replica in one place, and the current replicas that exist
are where the plan puts them.  Then every step that may create replicas removes an old
one or creates a missing one, as long as there are any: where no old replica can be
spared, the surge leaves room for a new one.
-/

namespace K1s
namespace Rollout

/-- The replicas are the desired ones, each once, and no old ones. -/
structure Finished (spec : RolloutSpec) (replicas : List Replica) : Prop where
  desired : (replicas.map Replica.replicaId).Perm spec.desiredPodNames
  current : ∀ replica ∈ replicas, replica.revision = spec.revision

section

variable
  {spec : RolloutSpec}
  {placements : List RuntimePlacement}
  {situation : Situation}
  {replicas : List Replica}

/-! ## The measure -/

/-- How many old replicas there are and how many desired ones are missing. -/
def remaining (spec : RolloutSpec) (replicas : List Replica) : Nat :=
  (replicas.filter (·.revision ≠ spec.revision)).length + (missingDesired spec replicas).length

theorem mem_existingDesired (wellNamed : WellNamed spec replicas) (podName : String) :
    podName ∈ existingDesired spec replicas ↔ podName ∈ spec.desiredPodNames ∧
      ∃ mark ∈ replicas.map Replica.mark, mark.2.1 = podName ∧ mark.2.2 = spec.revision := by
  rw [existingDesired, List.mem_filter, List.contains_iff_mem, mem_currentExistingIds wellNamed]
  simp [Replica.mark]

theorem mem_missingDesired (podName : String) :
    podName ∈ missingDesired spec replicas ↔
      podName ∈ spec.desiredPodNames ∧ podName ∉ existingDesired spec replicas := by
  simp [missingDesired]

/-- What exists still exists. -/
theorem Follows.existing
    {after : List Replica} (wellNamed : WellNamed spec replicas)
    (follows : Follows spec placements replicas after) :
    existingDesired spec replicas ⊆ existingDesired spec after := by
  intro podName member
  rw [mem_existingDesired wellNamed] at member
  rw [mem_existingDesired follows.wellNamed]
  obtain ⟨desired, mark, present, named, current⟩ := member
  exact ⟨desired, mark, follows.keeps mark present current, named, current⟩

theorem Follows.missing_le
    {after : List Replica} (wellNamed : WellNamed spec replicas)
    (follows : Follows spec placements replicas after) :
    (missingDesired spec after).length ≤ (missingDesired spec replicas).length := by
  apply List.Subperm.length_le
  apply (spec.nodup_desiredPodNames.filter _).subperm
  intro podName member
  have missing := (mem_missingDesired podName).mp member
  exact (mem_missingDesired podName).mpr
    ⟨missing.1, fun present => missing.2 (follows.existing wellNamed present)⟩

/-- A missing name that has come makes fewer of them. -/
theorem Follows.missing_lt
    {after : List Replica} {podName : String} (wellNamed : WellNamed spec replicas)
    (follows : Follows spec placements replicas after)
    (missing : podName ∈ missingDesired spec replicas)
    (present : podName ∈ existingDesired spec after) :
    (missingDesired spec after).length < (missingDesired spec replicas).length := by
  have distinct : (podName :: missingDesired spec after).Nodup := by
    rw [List.nodup_cons]
    refine ⟨fun member => ?_, spec.nodup_desiredPodNames.filter _⟩
    exact ((mem_missingDesired podName).mp member).2 present
  have fewer : (podName :: missingDesired spec after).length ≤
      (missingDesired spec replicas).length := by
    apply List.Subperm.length_le
    apply distinct.subperm
    intro other member
    rcases List.mem_cons.mp member with rfl | later
    · exact missing
    · have absent := (mem_missingDesired other).mp later
      exact (mem_missingDesired other).mpr
        ⟨absent.1, fun there => absent.2 (follows.existing wellNamed there)⟩
  simpa using fewer

theorem Follows.remaining_le
    {after : List Replica} (wellNamed : WellNamed spec replicas)
    (follows : Follows spec placements replicas after) :
    remaining spec after ≤ remaining spec replicas :=
  Nat.add_le_add follows.old (follows.missing_le wellNamed)

/-- A step removes an old replica first or may create a missing one, as long as there
are any. -/
theorem removes_or_creates
    (wellNamed : WellNamed spec replicas) (surge : 0 ≤ spec.maxSurge)
    (unavailable : 0 ≤ spec.maxUnavailable)
    (some_budget : 1 ≤ spec.maxSurge + spec.maxUnavailable) {recordedReady : List String}
    (ready : existingDesired spec replicas ⊆ recordedReady)
    (unfinished : remaining spec replicas ≠ 0) :
    0 < (removableOld spec recordedReady replicas).length ∨
      0 < stepLimit spec recordedReady false replicas := by
  have divided := length_divided spec replicas
  have parts := length_missingDesired spec replicas
  have counted : (existingDesired spec replicas).length ≤
      (currentReadyIds spec recordedReady).length := by
    apply List.Subperm.length_le
    apply (spec.nodup_desiredPodNames.filter _).subperm
    intro podName member
    simpa [currentReadyIds, ready member] using List.mem_of_mem_filter member
  have observed : (replicas.filter (·.revision ≠ spec.revision)).length ≠ 0 →
      0 < (oldReplicas spec replicas).length := by
    intro some_old
    obtain ⟨replica, member⟩ := List.exists_mem_of_length_pos (Nat.pos_of_ne_zero some_old)
    obtain ⟨present, old⟩ := List.mem_filter.mp member
    obtain ⟨entry, listed, _⟩ := exists_oldReplica wellNamed present (by simpa using old)
    exact List.length_pos_of_mem listed
  unfold remaining at unfinished
  have positive := spec.oneReplica
  rw [stepLimit, targetNewTotal, allowedCurrentTotal, oldRemaining, length_removableOld]
  simp only [Bool.false_eq_true, if_false]
  unfold RolloutSpec.minAvailable
  by_cases ordered : spec.strategy = .ordered
  · simp only [ordered, if_true]
    omega
  · simp only [ordered, if_false]
    omega

/-- A step that takes an old replica leaves fewer. -/
theorem remaining_lt_of_removed
    (wellNamed : WellNamed spec replicas) (budgeted : spec.strategy ≠ .canary)
    (planned : situation.placements = placements)
    (removes : 0 < (removableOld spec situation.recordedReady replicas).length) :
    remaining spec (step spec situation replicas) < remaining spec replicas := by
  have first := Follows.preRemoved placements situation wellNamed
  have later := (Follows.ensured wellNamed planned).trans (Follows.collected wellNamed planned)
  have parts := length_preRemoved wellNamed situation (·.revision ≠ spec.revision)
  rw [stepBudget, budget_removableOld budgeted] at parts
  have allOld : (removableOld spec situation.recordedReady replicas).filter
      (·.revision ≠ spec.revision) = removableOld spec situation.recordedReady replicas := by
    rw [List.filter_eq_self]
    intro replica member
    simpa using revision_of_mem_oldReplicas wellNamed ((removableOld_subperm _ _ _).subset member)
  rw [allOld] at parts
  have old := later.old
  have missing := (first.trans later).missing_le wellNamed
  unfold remaining
  omega

/-- The first missing desired name is one of the target names. -/
theorem exists_missing_target
    (recordedReady : List String)
    (creates : (existingDesired spec replicas).length <
      targetNewTotal spec recordedReady replicas) :
    ∃ podName ∈ targetPodNames spec recordedReady replicas,
      podName ∈ missingDesired spec replicas := by
  have number := length_targetPodNames spec recordedReady replicas
  rw [targetPodNames_eq] at number ⊢
  cases added : (missingDesired spec replicas).take (targetNewTotal spec recordedReady replicas -
      (existingDesired spec replicas).length) with
  | nil =>
      rw [added, List.append_nil] at number
      omega
  | cons podName rest =>
      refine ⟨podName, by simp, ?_⟩
      apply List.mem_of_mem_take (i := targetNewTotal spec recordedReady replicas -
        (existingDesired spec replicas).length)
      simp [added]

/-- A step that may create a missing replica leaves fewer of them. -/
theorem remaining_lt_of_created
    (wellNamed : WellNamed spec replicas) (complete : Complete spec placements)
    (inPlace : InPlace spec placements replicas) (budgeted : spec.strategy ≠ .canary)
    (regular : Regular spec placements situation replicas) (warm : situation.coolingDown = false)
    (creates : 0 < stepLimit spec situation.recordedReady false replicas) :
    remaining spec (step spec situation replicas) < remaining spec replicas := by
  have first := Follows.preRemoved placements situation wellNamed
  have later := (Follows.ensured wellNamed regular.placements).trans
    (Follows.collected wellNamed regular.placements)
  have limit : (stepBudget spec situation replicas).limitCreate =
      some (stepLimit spec situation.recordedReady false replicas) := by
    rw [stepBudget, budget_limitCreate budgeted, warm]
  have target : (stepBudget spec situation replicas).targetPodNames =
      targetPodNames spec situation.recordedReady replicas :=
    budget_targetPodNames budgeted _
  have room : (existingDesired spec replicas).length <
      targetNewTotal spec situation.recordedReady replicas := by
    unfold stepLimit at creates
    simp only [Bool.false_eq_true, if_false] at creates
    split_ifs at creates <;> omega
  obtain ⟨podName, targeted, missing⟩ := exists_missing_target situation.recordedReady room
  obtain ⟨desired, absent⟩ := (mem_missingDesired podName).mp missing
  obtain ⟨placement, member, listed⟩ :=
    List.mem_flatMap.mp (complete.mem_iff.mpr desired)
  obtain ⟨kept, keptMember, _, keptListed⟩ := mem_filterPlacements member listed targeted
  -- No runtime has the missing replica.
  have nowhere : ∀ mark ∈ (preRemoved spec situation replicas).map Replica.mark,
      mark.2.2 = spec.revision → mark.2.1 ≠ podName := by
    intro mark there current named
    rw [mem_existingDesired wellNamed] at absent
    exact absent ⟨desired, mark, ((without_sublist _ _).map _).subset there, named, current⟩
  have some_missing : ∃ source ∈ stepPlacements spec situation replicas,
      missingOn spec situation.mountsReady source.runtime source.podNames
        (preRemoved spec situation replicas) ≠ [] := by
    refine ⟨kept, ?_, ?_⟩
    · rw [stepPlacements, target, regular.placements]
      exact keptMember
    · apply List.ne_nil_of_mem (a := podName)
      rw [missingOn, List.mem_filter, regular.mountsReady, present_eq]
      refine ⟨keptListed, ?_⟩
      simp only [Bool.true_and, Bool.not_eq_true', Bool.eq_false_iff, ne_eq, List.contains_iff_mem]
      exact fun there => nowhere _ there rfl rfl
  obtain ⟨mark, planned, fresh, created⟩ := exists_created first.wellNamed
    orderly_stepPlacements creates some_missing
  rw [← limit] at created
  -- A new replica is one of a name that was missing.
  have whole : mark ∈ plannedMarks spec placements := by
    rw [stepPlacements, regular.placements] at planned
    exact filterPlacements_marks _ _ _ planned
  obtain ⟨source, sourceMember, newName, newListed, rfl⟩ := mem_plannedMarks.mp whole
  have newDesired : newName ∈ spec.desiredPodNames :=
    complete.mem_iff.mp (List.mem_flatMap.mpr ⟨source, sourceMember, newListed⟩)
  have collected := Follows.collected wellNamed regular.placements
  have fewer : (missingDesired spec (step spec situation replicas)).length <
      (missingDesired spec replicas).length := by
    have before : newName ∈ missingDesired spec replicas := by
      rw [mem_missingDesired, mem_existingDesired wellNamed]
      refine ⟨newDesired, ?_⟩
      rintro ⟨_, other, there, named, current⟩
      have kept := first.keeps other there current
      obtain ⟨replica, present, rfl⟩ := List.mem_map.mp there
      have same := plannedMarks_inj complete (inPlace replica present current) whole named
      exact fresh (same ▸ kept)
    have after : newName ∈ existingDesired spec (step spec situation replicas) := by
      rw [mem_existingDesired later.wellNamed]
      exact ⟨newDesired, _, collected.keeps _ created rfl, rfl, rfl⟩
    exact (first.trans later).missing_lt wellNamed before after
  have old := (first.trans later).old
  unfold remaining
  omega

/-- A step that may create replicas makes progress until nothing remains. -/
theorem remaining_lt_step
    (wellNamed : WellNamed spec replicas) (complete : Complete spec placements)
    (inPlace : InPlace spec placements replicas) (budgeted : spec.strategy ≠ .canary)
    (surge : 0 ≤ spec.maxSurge) (unavailable : 0 ≤ spec.maxUnavailable)
    (some_budget : 1 ≤ spec.maxSurge + spec.maxUnavailable)
    (regular : Regular spec placements situation replicas)
    (warm : situation.coolingDown = false) (unfinished : remaining spec replicas ≠ 0) :
    remaining spec (step spec situation replicas) < remaining spec replicas := by
  rcases removes_or_creates wellNamed surge unavailable some_budget
    regular.recordedReady unfinished with removes | creates
  · exact remaining_lt_of_removed wellNamed budgeted regular.placements removes
  · exact remaining_lt_of_created wellNamed complete inPlace budgeted regular warm creates

/-- Where nothing remains, the replicas are the desired ones. -/
theorem finished_of_remaining_eq_zero
    (wellNamed : WellNamed spec replicas) (complete : Complete spec placements)
    (inPlace : InPlace spec placements replicas) (nothing : remaining spec replicas = 0) :
    Finished spec replicas := by
  unfold remaining at nothing
  have noOld : replicas.filter (·.revision ≠ spec.revision) = [] :=
    List.length_eq_zero_iff.mp (by omega)
  have noneMissing : missingDesired spec replicas = [] :=
    List.length_eq_zero_iff.mp (by omega)
  have current : ∀ replica ∈ replicas, replica.revision = spec.revision := by
    simpa [List.filter_eq_nil_iff] using noOld
  refine ⟨?_, current⟩
  have distinct : (replicas.map Replica.replicaId).Nodup := by
    apply List.Nodup.map_on _ wellNamed.nodup
    intro first firstMember second secondMember same
    have alike := plannedMarks_inj complete (inPlace first firstMember (current first firstMember))
      (inPlace second secondMember (current second secondMember)) same
    apply List.inj_on_of_nodup_map wellNamed.distinct firstMember secondMember
    simp only [Replica.mark, Prod.mk.injEq] at alike
    simp [Replica.key, alike]
  rw [List.perm_ext_iff_of_nodup distinct spec.nodup_desiredPodNames]
  intro podName
  constructor
  · intro member
    obtain ⟨replica, present, rfl⟩ := List.mem_map.mp member
    obtain ⟨placement, placed, name, listed, same⟩ :=
      mem_plannedMarks.mp (inPlace replica present (current replica present))
    simp only [Replica.mark, Prod.mk.injEq] at same
    rw [← same.2.1]
    exact complete.mem_iff.mp (List.mem_flatMap.mpr ⟨placement, placed, listed⟩)
  · intro desired
    have existing : podName ∈ existingDesired spec replicas := by
      by_contra absent
      have missing := (mem_missingDesired podName).mpr ⟨desired, absent⟩
      simp [noneMissing] at missing
    obtain ⟨_, mark, there, rfl, _⟩ := (mem_existingDesired wellNamed podName).mp existing
    obtain ⟨replica, present, rfl⟩ := List.mem_map.mp there
    exact List.mem_map_of_mem present

end

/-! ## Runs -/

/-- The replicas after so many steps. -/
def replicasAfter
    (spec : RolloutSpec) (situations : Nat → Situation)
    (replicas : List Replica) : Nat → List Replica
  | 0 => replicas
  | count + 1 => step spec (situations count) (replicasAfter spec situations replicas count)

theorem mem_marks_replicasAfter
    {spec : RolloutSpec} (situations : Nat → Situation) {replicas : List Replica}
    (wellNamed : WellNamed spec replicas) {mark : String × String × Int}
    (member : mark ∈ replicas.map Replica.mark) (current : mark.2.2 = spec.revision)
    (count : Nat) :
    WellNamed spec (replicasAfter spec situations replicas count) ∧
      mark ∈ (replicasAfter spec situations replicas count).map Replica.mark := by
  induction count with
  | zero => exact ⟨wellNamed, member⟩
  | succ count ih =>
      have follows : Follows spec (situations count).placements
          (replicasAfter spec situations replicas count)
          (replicasAfter spec situations replicas (count + 1)) :=
        Follows.step ih.1 rfl
      exact ⟨follows.wellNamed, follows.keeps mark ih.2 current⟩

/-- A rollout that goes as planned ends with the desired replicas and no others, where
now and then a step may create replicas and the budget allows some change. -/
theorem rollout_finishes
    {spec : RolloutSpec} {placements : List RuntimePlacement} (fleet : Fleet spec)
    (situations : Nat → Situation) (budgeted : spec.strategy ≠ .canary)
    (surge : 0 ≤ spec.maxSurge) (unavailable : 0 ≤ spec.maxUnavailable)
    (some_budget : 1 ≤ spec.maxSurge + spec.maxUnavailable)
    (complete : Complete spec placements) (inPlace : InPlace spec placements fleet.replicas)
    (regular : ∀ count, Regular spec placements (situations count)
      (replicasAfter spec situations fleet.replicas count))
    (warm : ∀ count, ∃ later ≥ count, (situations later).coolingDown = false) :
    ∃ count, ∀ later ≥ count,
      Finished spec (replicasAfter spec situations fleet.replicas later) := by
  have invariant : ∀ count, WellNamed spec (replicasAfter spec situations fleet.replicas count) ∧
        InPlace spec placements (replicasAfter spec situations fleet.replicas count) := by
    intro count
    induction count with
    | zero => exact ⟨fleet.wellNamed, inPlace⟩
    | succ count ih =>
        have follows := Follows.step ih.1 (regular count).placements
        exact ⟨follows.wellNamed, ih.2.of_follows follows⟩
  have shrinks : Antitone fun count =>
      remaining spec (replicasAfter spec situations fleet.replicas count) := by
    apply antitone_nat_of_succ_le
    intro count
    exact (Follows.step (invariant count).1 (regular count).placements).remaining_le
      (invariant count).1
  -- The measure is constant from some step on, and a later step would lower it.
  obtain ⟨count, constant⟩ := WellFoundedLT.antitone_chain_condition shrinks
  obtain ⟨later, after, mayCreate⟩ := warm count
  have nothing : remaining spec (replicasAfter spec situations fleet.replicas later) = 0 := by
    by_contra unfinished
    have lower := remaining_lt_step (invariant later).1 complete (invariant later).2 budgeted
      surge unavailable some_budget (regular later) mayCreate unfinished
    have same := (constant later after).symm.trans (constant (later + 1) (by omega))
    simp only [replicasAfter] at same
    omega
  refine ⟨later, fun last reached => ?_⟩
  apply finished_of_remaining_eq_zero (invariant last).1 complete (invariant last).2
  have same := (constant later after).symm.trans (constant last (by omega))
  exact same.symm.trans nothing

/-- Every step has the same plan, and all desired replicas are recorded as ready. -/
def steady (spec : RolloutSpec) : Situation where
  recordedReady := spec.desiredPodNames
  coolingDown := false
  placements := [⟨"a", spec.desiredPodNames⟩]
  mountsReady _ := true
  healthy _ := false
  localRuntime := "controller"

theorem rollout_finishes_oldFleet :
    ∃ count, ∀ later ≥ count, Finished (webRollout 1 0)
      (replicasAfter (webRollout 1 0) (fun _ => steady (webRollout 1 0))
        oldFleet.replicas later) :=
  @rollout_finishes _ [⟨"a", (webRollout 1 0).desiredPodNames⟩] oldFleet
    (fun _ => steady (webRollout 1 0)) (by decide) (by decide) (by decide) (by decide)
    (by simp [Complete]) (by unfold InPlace; decide +kernel)
    (fun _ => ⟨rfl, fun _ => rfl, List.filter_subset_self _⟩)
    (fun count => ⟨count, le_refl _, rfl⟩)

/-- A replica that is not desired stays for ever, and so does a gap that a negative
surge leaves. -/
theorem rollout_unfinished :
    (∀ count, ¬ Finished (webRollout 1 0)
      (replicasAfter (webRollout 1 0) (fun _ => steady (webRollout 1 0))
        [webReplica "a" 2 5] count)) ∧
    ∀ count, ¬ Finished (webRollout (-1) 2)
      (replicasAfter (webRollout (-1) 2) (fun _ => steady (webRollout (-1) 2))
        [webReplica "a" 2 0] count) := by
  constructor
  · intro count finished
    have wellNamed : WellNamed (webRollout 1 0) [webReplica "a" 2 5] :=
      ⟨by decide +kernel, by decide +kernel, by decide +kernel⟩
    obtain ⟨_, member⟩ := mem_marks_replicasAfter (fun _ => steady (webRollout 1 0))
      wellNamed List.mem_cons_self rfl count
    obtain ⟨replica, present, same⟩ := List.mem_map.mp member
    have desired := finished.desired.subset (List.mem_map_of_mem present)
    have named : replica.replicaId = "web-rev2-5" := congrArg (fun mark => mark.2.1) same
    rw [named] at desired
    revert desired
    decide +kernel
  · intro count
    have stays : replicasAfter (webRollout (-1) 2) (fun _ => steady (webRollout (-1) 2))
        [webReplica "a" 2 0] count = [webReplica "a" 2 0] := by
      induction count with
      | zero => rfl
      | succ count ih =>
          rw [replicasAfter, ih]
          decide +kernel
    rw [stays]
    intro finished
    have lengths := finished.desired.length_eq
    simp [webRollout] at lengths

end Rollout
end K1s
