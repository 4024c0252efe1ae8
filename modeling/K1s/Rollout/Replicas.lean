import K1s.Scheduling.Plan

/-!
# Replicas of an app on its runtimes

A rollout replaces the replicas of older revisions by those of the current one.  It
looks at all runtimes and takes replicas with one id on several of them for one
replica.  A replica is named after its revision, so that replicas with one id have
one revision.
-/

namespace K1s
namespace Rollout

open Scheduling (revisionPodNames length_revisionPodNames nodup_revisionPodNames)

/-! ## Rollouts -/

/-- `rollout.strategy`: every text but `ordered` and `canary` acts as `parallel`. -/
inductive Strategy
  | parallel
  | ordered
  | canary
  deriving DecidableEq

/-- What a rollout step reads of the manifest and its revision. -/
structure RolloutSpec where
  appName : String
  revision : Int
  replicas : Nat
  /-- `replicas: int = Field(default=1, ge=1)`. -/
  oneReplica : 1 ≤ replicas
  strategy : Strategy
  maxSurge : Int
  maxUnavailable : Int
  weight : Option Int
  /-- A service with a fixed port. -/
  fixedServicePort : Bool
  /-- The step refreshes service aliases of containerd containers, where old and new
  replicas may not overlap. -/
  aliasRefresh : Bool

namespace RolloutSpec

variable (spec : RolloutSpec)

def desiredPodNames : List String :=
  revisionPodNames spec.appName spec.revision spec.replicas

@[simp] theorem length_desiredPodNames : spec.desiredPodNames.length = spec.replicas :=
  length_revisionPodNames _ _ _

theorem nodup_desiredPodNames : spec.desiredPodNames.Nodup :=
  nodup_revisionPodNames _ _ _

def keepOld : Bool :=
  !(spec.strategy ≠ .canary && spec.replicas = 1 && spec.fixedServicePort)

/-- `direct_containerd_alias_refresh_no_overlap`. -/
def noOverlap : Bool :=
  spec.aliasRefresh && spec.strategy ≠ .canary && spec.replicas = 1

def canaryActive : Bool :=
  spec.strategy = .canary && 0 < spec.weight.getD 0 && spec.weight.getD 0 < 100

def minAvailable : Nat := (spec.replicas - spec.maxUnavailable).toNat

end RolloutSpec

/-! ## Replicas -/

/-- A replica of the app on a runtime. -/
structure Replica where
  runtime : String
  replicaId : String
  revision : Int
  running : Bool
  deriving DecidableEq

def Replica.key (replica : Replica) : String × String := (replica.runtime, replica.replicaId)

/-- What holds of the replicas on all the runtimes. -/
structure WellNamed (spec : RolloutSpec) (replicas : List Replica) : Prop where
  distinct : (replicas.map Replica.key).Nodup
  named : ∀ replica ∈ replicas, replica.replicaId ∈ spec.desiredPodNames →
    replica.revision = spec.revision
  alike : ∀ first ∈ replicas, ∀ second ∈ replicas, first.replicaId = second.replicaId →
    first.revision = second.revision

/-- Replicas that are named as the runtimes name them. -/
structure Fleet (spec : RolloutSpec) where
  replicas : List Replica
  wellNamed : WellNamed spec replicas

variable {replicas : List Replica}

theorem WellNamed.nodup {spec : RolloutSpec} (wellNamed : WellNamed spec replicas) :
    replicas.Nodup :=
  wellNamed.distinct.of_map _

theorem WellNamed.sublist
    {spec : RolloutSpec} {fewer replicas : List Replica}
    (wellNamed : WellNamed spec replicas) (sublist : fewer.Sublist replicas) :
    WellNamed spec fewer where
  distinct := wellNamed.distinct.sublist (sublist.map _)
  named replica member := wellNamed.named replica (sublist.subset member)
  alike first firstMember second secondMember :=
    wellNamed.alike first (sublist.subset firstMember) second (sublist.subset secondMember)

/-! ## Observation -/

/-- Record an observed replica, one for each id and a running one where there is. -/
def record : List Replica → Replica → List Replica
  | [], replica => [replica]
  | first :: rest, replica =>
      if first.replicaId = replica.replicaId then
        (if !first.running && replica.running then replica else first) :: rest
      else first :: record rest replica

def observedById (replicas : List Replica) : List Replica := replicas.foldl record []

/-- What has been recorded of the replicas that have been seen. -/
structure Observes (observed seen : List Replica) : Prop where
  distinct : (observed.map Replica.replicaId).Nodup
  present : observed ⊆ seen
  complete : ∀ replica ∈ seen, ∃ entry ∈ observed, entry.replicaId = replica.replicaId ∧
    (replica.running = true → entry.running = true)

/-- The ids stay in their places, and a new one comes last. -/
theorem record_ids (observed : List Replica) (replica : Replica) :
    (record observed replica).map Replica.replicaId =
      if replica.replicaId ∈ observed.map Replica.replicaId then
        observed.map Replica.replicaId
      else observed.map Replica.replicaId ++ [replica.replicaId] := by
  induction observed with
  | nil => simp [record]
  | cons first rest ih =>
      rw [record]
      by_cases same : first.replicaId = replica.replicaId
      · have known : replica.replicaId ∈ (first :: rest).map Replica.replicaId := by
          simp [same]
        rw [if_pos same, if_pos known]
        split_ifs <;> simp [same]
      · rw [if_neg same, List.map_cons, ih]
        simp only [List.map_cons, List.mem_cons, Ne.symm same, false_or]
        split_ifs <;> simp

variable {observed : List Replica} {replica : Replica}

theorem mem_of_mem_record
    {replica entry : Replica} (member : entry ∈ record observed replica) :
    entry ∈ observed ∨ entry = replica := by
  induction observed with
  | nil => simpa [record] using member
  | cons first rest ih =>
      rw [record] at member
      split_ifs at member
      · rcases List.mem_cons.mp member with same | later
        · exact .inr same
        · exact .inl (List.mem_cons_of_mem _ later)
      · exact .inl member
      · rcases List.mem_cons.mp member with rfl | later
        · exact .inl List.mem_cons_self
        · rcases ih later with earlier | same
          · exact .inl (List.mem_cons_of_mem _ earlier)
          · exact .inr same

/-- What was recorded is still recorded, and so is the replica. -/
theorem record_covers (observed : List Replica) (replica : Replica) :
    ∀ entry ∈ replica :: observed, ∃ recorded ∈ record observed replica,
      recorded.replicaId = entry.replicaId ∧ (entry.running = true → recorded.running = true) := by
  induction observed with
  | nil => simp [record]
  | cons first rest ih =>
      intro entry member
      rw [record]
      by_cases same : first.replicaId = replica.replicaId
      · rw [if_pos same]
        rcases List.mem_cons.mp member with rfl | earlier
        · refine ⟨_, List.mem_cons_self, ?_⟩
          split_ifs with better
          · exact ⟨rfl, id⟩
          · refine ⟨same, fun running => ?_⟩
            simpa [running] using better
        · rcases List.mem_cons.mp earlier with rfl | later
          · refine ⟨_, List.mem_cons_self, ?_⟩
            split_ifs with better
            · exact ⟨same.symm, fun running => by simp [running] at better⟩
            · exact ⟨rfl, id⟩
          · exact ⟨entry, List.mem_cons_of_mem _ later, rfl, id⟩
      · rw [if_neg same]
        rcases List.mem_cons.mp member with rfl | earlier
        · obtain ⟨recorded, listed, found⟩ := ih _ List.mem_cons_self
          exact ⟨recorded, List.mem_cons_of_mem _ listed, found⟩
        · rcases List.mem_cons.mp earlier with rfl | later
          · exact ⟨entry, List.mem_cons_self, rfl, id⟩
          · obtain ⟨recorded, listed, found⟩ :=
              ih entry (List.mem_cons_of_mem _ later)
            exact ⟨recorded, List.mem_cons_of_mem _ listed, found⟩

theorem Observes.record
    {observed seen : List Replica} (observes : Observes observed seen) (replica : Replica) :
    Observes (record observed replica) (seen ++ [replica]) where
  distinct := by
    rw [record_ids]
    split_ifs with known
    · exact observes.distinct
    · rw [List.nodup_append]
      refine ⟨observes.distinct, List.nodup_singleton _, ?_⟩
      rintro first listed _ last rfl
      rw [List.mem_singleton] at last
      exact known (last ▸ listed)
  present := by
    intro entry member
    rw [List.mem_append, List.mem_singleton]
    exact (mem_of_mem_record member).imp (fun earlier => observes.present earlier) id
  complete := by
    intro other member
    rw [List.mem_append, List.mem_singleton] at member
    rcases member with earlier | rfl
    · obtain ⟨entry, listed, same, runs⟩ := observes.complete other earlier
      obtain ⟨recorded, found, alike, stillRuns⟩ :=
        record_covers observed replica entry (List.mem_cons_of_mem _ listed)
      exact ⟨recorded, found, alike.trans same, fun running => stillRuns (runs running)⟩
    · exact record_covers observed other other List.mem_cons_self

/-- Recording all of them. -/
theorem observes_observedById (replicas : List Replica) :
    Observes (observedById replicas) replicas := by
  have run : ∀ later observed seen, Observes observed seen →
      Observes (later.foldl Rollout.record observed) (seen ++ later) := by
    intro later
    induction later with
    | nil =>
        intro observed seen observes
        simpa using observes
    | cons replica rest ih =>
        intro observed seen observes
        have next := ih _ _ (observes.record replica)
        simpa using next
  exact run replicas [] [] ⟨by simp, by simp, by simp⟩

/-! ## Current and old replicas -/

def isCurrent (spec : RolloutSpec) (replica : Replica) : Bool :=
  spec.desiredPodNames.contains replica.replicaId || replica.revision = spec.revision

def currentExistingIds (spec : RolloutSpec) (replicas : List Replica) : List String :=
  ((observedById replicas).filter (isCurrent spec)).map Replica.replicaId

def oldReplicas (spec : RolloutSpec) (replicas : List Replica) : List Replica :=
  ((observedById replicas).filter (!isCurrent spec ·)).insertionSort
    fun first second => first.replicaId ≤ second.replicaId

def currentReadyIds (spec : RolloutSpec) (recordedReady : List String) : List String :=
  spec.desiredPodNames.filter (recordedReady.contains ·)

def existingDesired (spec : RolloutSpec) (replicas : List Replica) : List String :=
  spec.desiredPodNames.filter ((currentExistingIds spec replicas).contains ·)

/-- How many replicas are neither old ones nor desired ones, or share an id with
another. -/
def surplus (spec : RolloutSpec) (replicas : List Replica) : Nat :=
  replicas.length - ((oldReplicas spec replicas).length + (existingDesired spec replicas).length)

theorem isCurrent_iff
    {spec : RolloutSpec} (wellNamed : WellNamed spec replicas) (member : replica ∈ replicas) :
    isCurrent spec replica = true ↔ replica.revision = spec.revision := by
  simp only [isCurrent, Bool.or_eq_true, List.contains_iff_mem, decide_eq_true_eq]
  exact ⟨fun current => current.elim (wellNamed.named replica member) id, .inr⟩

theorem mem_oldReplicas (spec : RolloutSpec) (replicas : List Replica) (replica : Replica) :
    replica ∈ oldReplicas spec replicas ↔
      replica ∈ observedById replicas ∧ isCurrent spec replica = false := by
  simp [oldReplicas]

theorem oldReplicas_subset (spec : RolloutSpec) (replicas : List Replica) :
    oldReplicas spec replicas ⊆ replicas := by
  intro replica member
  exact (observes_observedById replicas).present ((mem_oldReplicas _ _ _).mp member).1

theorem oldReplicas_nodup (spec : RolloutSpec) (replicas : List Replica) :
    (oldReplicas spec replicas).Nodup := by
  rw [oldReplicas, (List.perm_insertionSort _ _).nodup_iff]
  exact ((observes_observedById replicas).distinct.of_map _).filter _

theorem mem_currentExistingIds
    {spec : RolloutSpec} (wellNamed : WellNamed spec replicas) (replicaId : String) :
    replicaId ∈ currentExistingIds spec replicas ↔
      ∃ replica ∈ replicas, replica.replicaId = replicaId ∧ replica.revision = spec.revision := by
  have observes := observes_observedById replicas
  rw [currentExistingIds, List.mem_map]
  constructor
  · rintro ⟨replica, member, same⟩
    obtain ⟨listed, current⟩ := List.mem_filter.mp member
    have present := observes.present listed
    exact ⟨replica, present, same, (isCurrent_iff wellNamed present).mp current⟩
  · rintro ⟨replica, member, rfl, current⟩
    obtain ⟨entry, listed, same, _⟩ := observes.complete replica member
    have present := observes.present listed
    refine ⟨entry, List.mem_filter.mpr ⟨listed, ?_⟩, same⟩
    rw [isCurrent_iff wellNamed present, wellNamed.alike entry present replica member same]
    exact current

theorem exists_oldReplica
    {spec : RolloutSpec} (wellNamed : WellNamed spec replicas) (member : replica ∈ replicas)
    (old : replica.revision ≠ spec.revision) :
    ∃ entry ∈ oldReplicas spec replicas, entry.replicaId = replica.replicaId ∧
      (replica.running = true → entry.running = true) := by
  obtain ⟨entry, listed, same, runs⟩ := (observes_observedById replicas).complete replica member
  have present := (observes_observedById replicas).present listed
  refine ⟨entry, (mem_oldReplicas _ _ _).mpr ⟨listed, ?_⟩, same, runs⟩
  rw [Bool.eq_false_iff, ne_eq, isCurrent_iff wellNamed present,
    wellNamed.alike entry present replica member same]
  exact old

theorem revision_of_mem_oldReplicas
    {spec : RolloutSpec} (wellNamed : WellNamed spec replicas)
    (member : replica ∈ oldReplicas spec replicas) : replica.revision ≠ spec.revision := by
  have present := oldReplicas_subset spec replicas member
  have old := ((mem_oldReplicas _ _ _).mp member).2
  rw [Bool.eq_false_iff, ne_eq, isCurrent_iff wellNamed present] at old
  exact old

theorem length_existingDesired_le (spec : RolloutSpec) (replicas : List Replica) :
    (existingDesired spec replicas).length ≤ spec.replicas := by
  rw [← spec.length_desiredPodNames]
  exact List.length_filter_le _ _

theorem length_add_surplus (spec : RolloutSpec) (replicas : List Replica) :
    (oldReplicas spec replicas).length + (existingDesired spec replicas).length +
      surplus spec replicas = replicas.length := by
  have observes := observes_observedById replicas
  have all : (observedById replicas).length ≤ replicas.length :=
    ((observes.distinct.of_map _).subperm observes.present).length_le
  have parts : (oldReplicas spec replicas).length +
      (currentExistingIds spec replicas).length = (observedById replicas).length := by
    rw [oldReplicas, List.length_insertionSort, currentExistingIds, List.length_map]
    have split := List.length_eq_length_filter_add (l := observedById replicas) (isCurrent spec)
    omega
  have some : (existingDesired spec replicas).length ≤
      (currentExistingIds spec replicas).length := by
    apply List.Subperm.length_le
    apply (spec.nodup_desiredPodNames.filter _).subperm
    intro podName member
    simpa using (List.mem_filter.mp member).2
  unfold surplus
  omega

/-! ## Removal -/

/-- The replicas without some of them. -/
def without (removed replicas : List Replica) : List Replica :=
  replicas.filter fun replica => !(removed.map Replica.key).contains replica.key

theorem without_sublist (removed replicas : List Replica) :
    (without removed replicas).Sublist replicas :=
  List.filter_sublist

variable {removed : List Replica}

theorem mem_without
    (distinct : (replicas.map Replica.key).Nodup) (present : removed ⊆ replicas)
    (replica : Replica) :
    replica ∈ without removed replicas ↔ replica ∈ replicas ∧ replica ∉ removed := by
  simp only [without, List.mem_filter, Bool.not_eq_true', Bool.eq_false_iff, ne_eq,
    List.contains_iff_mem, List.mem_map]
  refine and_congr_right fun member => not_congr ?_
  constructor
  · rintro ⟨other, listed, same⟩
    rwa [← List.inj_on_of_nodup_map distinct (present listed) member same]
  · intro listed
    exact ⟨replica, listed, rfl⟩

theorem length_filter_without
    (distinct : (replicas.map Replica.key).Nodup) (once : removed.Nodup)
    (present : removed ⊆ replicas) (kind : Replica → Bool) :
    ((without removed replicas).filter kind).length + (removed.filter kind).length =
      (replicas.filter kind).length := by
  have nodup : replicas.Nodup := distinct.of_map _
  rw [← List.length_append]
  apply List.Perm.length_eq
  rw [List.perm_ext_iff_of_nodup _ (nodup.filter _)]
  · intro replica
    simp only [List.mem_append, List.mem_filter, mem_without distinct present]
    by_cases member : replica ∈ removed
    · simp [member, present member]
    · simp [member]
  · rw [List.nodup_append]
    refine ⟨(nodup.sublist (without_sublist _ _)).filter _, once.filter _, ?_⟩
    rintro first kept _ taken rfl
    have left := (mem_without distinct present first).mp (List.mem_of_mem_filter kept)
    exact left.2 (List.mem_of_mem_filter taken)

end Rollout
end K1s
