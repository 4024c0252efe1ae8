import K1s.Rollout.Effects

/-!
# What a rollout keeps

No part of a step removes a current replica, and the replicas that come are those of
the plan.  Where the current replicas are in the places of the plan, they stay there.
-/

namespace K1s
namespace Rollout

/-! ## Plans -/

def plannedMarks (spec : RolloutSpec) (placements : List RuntimePlacement) :
    List (String × String × Int) :=
  placements.flatMap fun placement =>
    placement.podNames.map (placement.runtime, ·, spec.revision)

/-- Every desired replica is placed once. -/
def Complete (spec : RolloutSpec) (placements : List RuntimePlacement) : Prop :=
  (placements.flatMap RuntimePlacement.podNames).Perm spec.desiredPodNames

/-- The current replicas are where placements put them. -/
def InPlace
    (spec : RolloutSpec) (placements : List RuntimePlacement)
    (replicas : List Replica) : Prop :=
  ∀ replica ∈ replicas, replica.revision = spec.revision →
    replica.mark ∈ plannedMarks spec placements

theorem mem_plannedMarks
    {spec : RolloutSpec} {placements : List RuntimePlacement} {mark : String × String × Int} :
    mark ∈ plannedMarks spec placements ↔ ∃ placement ∈ placements, ∃ podName ∈ placement.podNames,
        (placement.runtime, podName, spec.revision) = mark := by
  simp [plannedMarks]

theorem plannedMarks_names (spec : RolloutSpec) (placements : List RuntimePlacement) :
    (plannedMarks spec placements).map (fun mark => mark.2.1) =
      placements.flatMap RuntimePlacement.podNames := by
  rw [plannedMarks, List.map_flatMap]
  apply List.flatMap_congr
  intro placement _
  simp [Function.comp_def]

theorem plannedMarks_inj
    {spec : RolloutSpec} {placements : List RuntimePlacement}
    (complete : Complete spec placements) {first second : String × String × Int}
    (firstPlanned : first ∈ plannedMarks spec placements)
    (secondPlanned : second ∈ plannedMarks spec placements)
    (same : first.2.1 = second.2.1) : first = second := by
  have distinct : ((plannedMarks spec placements).map fun mark => mark.2.1).Nodup := by
    rw [plannedMarks_names, complete.nodup_iff]
    exact spec.nodup_desiredPodNames
  exact List.inj_on_of_nodup_map distinct firstPlanned secondPlanned same

/-! ## What stays and what comes -/

/-- Marks of the current revision stay, and others come only from a plan. -/
structure Follows
    (spec : RolloutSpec) (placements : List RuntimePlacement)
    (before after : List Replica) : Prop where
  wellNamed : WellNamed spec after
  keeps : ∀ mark ∈ before.map Replica.mark, mark.2.2 = spec.revision →
    mark ∈ after.map Replica.mark
  planned : ∀ mark ∈ after.map Replica.mark,
    mark ∈ before.map Replica.mark ∨ mark ∈ plannedMarks spec placements
  old : (after.filter (·.revision ≠ spec.revision)).length ≤
    (before.filter (·.revision ≠ spec.revision)).length

theorem Follows.refl
    {spec : RolloutSpec} {placements : List RuntimePlacement} {replicas : List Replica}
    (wellNamed : WellNamed spec replicas) : Follows spec placements replicas replicas :=
  ⟨wellNamed, fun _ member _ => member, fun _ member => .inl member, le_refl _⟩

theorem Follows.trans
    {spec : RolloutSpec} {placements : List RuntimePlacement}
    {first second third : List Replica} (early : Follows spec placements first second)
    (late : Follows spec placements second third) :
    Follows spec placements first third where
  wellNamed := late.wellNamed
  keeps mark member current := late.keeps mark (early.keeps mark member current) current
  planned mark member := (late.planned mark member).elim (early.planned mark) .inr
  old := late.old.trans early.old

theorem Follows.of_removal
    {spec : RolloutSpec} {placements : List RuntimePlacement} {before after : List Replica}
    (wellNamed : WellNamed spec before) (sublist : after.Sublist before)
    (keeps : ∀ replica ∈ before, replica.revision = spec.revision → replica ∈ after) :
    Follows spec placements before after where
  wellNamed := wellNamed.sublist sublist
  keeps := by
    rintro _ member current
    obtain ⟨replica, present, rfl⟩ := List.mem_map.mp member
    exact List.mem_map_of_mem (keeps replica present current)
  planned mark member := .inl ((sublist.map _).subset member)
  old := (sublist.filter _).length_le

theorem Follows.removeOldRevisions
    {spec : RolloutSpec} (placements : List RuntimePlacement) {replicas : List Replica}
    (wellNamed : WellNamed spec replicas) (runtimes : List String) :
    Follows spec placements replicas (removeOldRevisions spec runtimes replicas) := by
  apply Follows.of_removal wellNamed (removeOldRevisions_sublist _ _ _)
  intro replica member current
  simp [Rollout.removeOldRevisions, member, current]

/-- The number of old replicas can be told from the marks. -/
theorem length_old_eq (spec : RolloutSpec) (replicas : List Replica) :
    (replicas.filter (·.revision ≠ spec.revision)).length =
      ((replicas.map Replica.mark).filter (·.2.2 ≠ spec.revision)).length := by
  rw [List.filter_map, List.length_map]
  rfl

theorem WellNamed.of_marks
    {spec : RolloutSpec} {first second : List Replica} (wellNamed : WellNamed spec first)
    (same : second.map Replica.mark = first.map Replica.mark) : WellNamed spec second := by
  have found : ∀ replica ∈ second, ∃ other ∈ first, other.mark = replica.mark := by
    intro replica member
    have mark := List.mem_map_of_mem (f := Replica.mark) member
    rwa [same, List.mem_map] at mark
  constructor
  · have keys : second.map Replica.key = first.map Replica.key := by
      have project : Replica.key =
          (fun mark : String × String × Int => (mark.1, mark.2.1)) ∘ Replica.mark := rfl
      rw [project, ← List.map_map, ← List.map_map, same]
    rw [keys]
    exact wellNamed.distinct
  · intro replica member desired
    obtain ⟨other, present, alike⟩ := found replica member
    simp only [Replica.mark, Prod.mk.injEq] at alike
    rw [← alike.2.2]
    exact wellNamed.named other present (alike.2.1 ▸ desired)
  · intro left leftMember right rightMember sameId
    obtain ⟨leftOther, leftPresent, leftAlike⟩ := found left leftMember
    obtain ⟨rightOther, rightPresent, rightAlike⟩ := found right rightMember
    simp only [Replica.mark, Prod.mk.injEq] at leftAlike rightAlike
    rw [← leftAlike.2.2, ← rightAlike.2.2]
    apply wellNamed.alike leftOther leftPresent rightOther rightPresent
    rw [leftAlike.2.1, rightAlike.2.1, sameId]

theorem WellNamed.add
    {spec : RolloutSpec} {replicas : List Replica} (wellNamed : WellNamed spec replicas)
    (runtime : String) {podNames : List String} (distinct : podNames.Nodup)
    (desired : podNames ⊆ spec.desiredPodNames)
    (absent : ∀ podName ∈ podNames, present spec runtime podName replicas = false) :
    WellNamed spec
      (replicas ++ podNames.map fun podName => ⟨runtime, podName, spec.revision, true⟩) := by
  have old : ∀ replica ∈ replicas, replica.replicaId ∈ podNames →
      replica.revision = spec.revision := fun replica member listed =>
    wellNamed.named replica member (desired listed)
  constructor
  · rw [List.map_append, List.nodup_append]
    refine ⟨wellNamed.distinct, ?_, ?_⟩
    · rw [List.map_map]
      apply distinct.map
      intro first second same
      exact (Prod.mk.inj same).2
    · rintro key there _ added rfl
      obtain ⟨replica, member, rfl⟩ := List.mem_map.mp there
      rw [List.map_map, List.mem_map] at added
      obtain ⟨podName, listed, same⟩ := added
      have alike : runtime = replica.runtime ∧ podName = replica.replicaId :=
        Prod.mk.inj same
      have missing := absent podName listed
      rw [present, List.any_eq_false] at missing
      apply missing replica member
      rw [alike.2] at listed
      simp [Replica.key, alike, old replica member listed]
  · intro replica member wanted
    rcases List.mem_append.mp member with earlier | added
    · exact wellNamed.named replica earlier wanted
    · obtain ⟨podName, _, rfl⟩ := List.mem_map.mp added
      rfl
  · intro first firstMember second secondMember same
    rcases List.mem_append.mp firstMember with firstEarlier | firstAdded
    · rcases List.mem_append.mp secondMember with secondEarlier | secondAdded
      · exact wellNamed.alike first firstEarlier second secondEarlier same
      · obtain ⟨podName, listed, rfl⟩ := List.mem_map.mp secondAdded
        exact old first firstEarlier (same ▸ listed)
    · obtain ⟨podName, listed, rfl⟩ := List.mem_map.mp firstAdded
      rcases List.mem_append.mp secondMember with secondEarlier | secondAdded
      · exact (old second secondEarlier (same ▸ listed)).symm
      · obtain ⟨other, _, rfl⟩ := List.mem_map.mp secondAdded
        rfl

/-! ## The parts of a step -/

/-- Placements that name desired replicas, each once. -/
def Orderly (spec : RolloutSpec) (placements : List RuntimePlacement) : Prop :=
  ∀ placement ∈ placements, placement.podNames.Nodup ∧ placement.podNames ⊆ spec.desiredPodNames

theorem missingOn_subset
    (spec : RolloutSpec) (mountsReady : String → Bool) (runtime : String)
    (podNames : List String) (replicas : List Replica) :
    missingOn spec mountsReady runtime podNames replicas ⊆ podNames :=
  List.filter_subset_self _

theorem Follows.ensureApp
    {spec : RolloutSpec} {placements : List RuntimePlacement} {placement : RuntimePlacement}
    {replicas : List Replica} (wellNamed : WellNamed spec replicas)
    (distinct : placement.podNames.Nodup) (desired : placement.podNames ⊆ spec.desiredPodNames)
    (placed : ∀ podName ∈ placement.podNames,
      (placement.runtime, podName, spec.revision) ∈ plannedMarks spec placements)
    (mountsReady : String → Bool)
    (limit : Option Nat) :
    Follows spec placements replicas
      (ensureApp spec mountsReady placement.runtime limit placement.podNames replicas).1 := by
  obtain ⟨marks, -⟩ := ensureApp_spec spec mountsReady placement.runtime limit distinct replicas
  have room : Follows spec placements replicas (madeRoom spec placement.runtime replicas) := by
    unfold madeRoom
    split_ifs
    · exact .refl wellNamed
    · exact .removeOldRevisions _ wellNamed _
  apply room.trans
  have all := (takeUpTo_sublist limit
    (missingOn spec mountsReady placement.runtime placement.podNames
      (madeRoom spec placement.runtime replicas)))
  have named : ∀ podName ∈ appAdded spec mountsReady placement.runtime limit placement.podNames
      replicas, podName ∈ placement.podNames :=
    fun podName member => missingOn_subset _ _ _ _ _ (all.subset member)
  constructor
  · have added := room.wellNamed.add placement.runtime
      ((distinct.filter _).sublist all) (fun podName member => desired (named podName member))
      (fun podName member => by
        have missing := (List.mem_filter.mp (all.subset member)).2
        simpa using (Bool.and_eq_true_iff.mp missing).2)
    apply added.of_marks
    rw [marks, List.map_append, List.map_map]
    rfl
  · intro mark member _
    rw [marks]
    exact List.mem_append_left _ member
  · intro mark member
    rw [marks] at member
    rcases List.mem_append.mp member with earlier | added
    · exact .inl earlier
    · obtain ⟨podName, listed, rfl⟩ := List.mem_map.mp added
      exact .inr (placed podName (named podName listed))
  · rw [length_old_eq, length_old_eq, marks, List.filter_append]
    simp [List.filter_map]

theorem Follows.ensurePlacements
    {spec : RolloutSpec} {planned placements : List RuntimePlacement}
    {replicas : List Replica} (wellNamed : WellNamed spec replicas)
    (orderly : Orderly spec placements)
    (placed : plannedMarks spec placements ⊆ plannedMarks spec planned)
    (mountsReady : String → Bool) (limit : Option Nat) :
    Follows spec planned replicas
      (ensurePlacements spec mountsReady limit placements replicas) := by
  induction placements generalizing replicas limit with
  | nil => exact .refl wellNamed
  | cons placement rest ih =>
      rw [Orderly, List.forall_mem_cons] at orderly
      have first : Follows spec planned replicas (Rollout.ensureApp spec mountsReady
          placement.runtime limit placement.podNames replicas).1 := by
        apply Follows.ensureApp wellNamed orderly.1.1 orderly.1.2
        intro podName member
        apply placed
        rw [mem_plannedMarks]
        exact ⟨placement, List.mem_cons_self, podName, member, rfl⟩
      simp only [Rollout.ensurePlacements]
      apply first.trans
      apply ih first.wellNamed orderly.2
      intro mark member
      apply placed
      rw [mem_plannedMarks] at member ⊢
      obtain ⟨other, later, found⟩ := member
      exact ⟨other, List.mem_cons_of_mem _ later, found⟩

/-- What a runtime has to create depends on the current replicas. -/
theorem missingOn_congr
    {spec : RolloutSpec} {first second : List Replica}
    (same : ∀ mark : String × String × Int, mark.2.2 = spec.revision →
      (mark ∈ first.map Replica.mark ↔ mark ∈ second.map Replica.mark))
    (mountsReady : String → Bool)
    (runtime : String)
    (podNames : List String) :
    missingOn spec mountsReady runtime podNames first =
      missingOn spec mountsReady runtime podNames second := by
  apply List.filter_congr
  intro podName _
  have alike := same (runtime, podName, spec.revision) rfl
  rw [present_eq, present_eq]
  simp only [List.contains_eq_mem, alike]

theorem mem_madeRoom_marks
    {spec : RolloutSpec} {replicas : List Replica} (wellNamed : WellNamed spec replicas)
    (runtime : String) {mark : String × String × Int} (current : mark.2.2 = spec.revision) :
    mark ∈ (madeRoom spec runtime replicas).map Replica.mark ↔
      mark ∈ replicas.map Replica.mark := by
  constructor
  · exact fun member => ((madeRoom_sublist _ _ _).map _).subset member
  · intro member
    unfold madeRoom
    split_ifs
    · exact member
    · exact (Follows.removeOldRevisions [] wellNamed [runtime]).keeps mark member
        current

theorem exists_created
    {spec : RolloutSpec} {mountsReady : String → Bool} {limit : Nat}
    {placements : List RuntimePlacement} {replicas : List Replica}
    (wellNamed : WellNamed spec replicas) (orderly : Orderly spec placements)
    (allowed : 0 < limit)
    (missing : ∃ placement ∈ placements,
      missingOn spec mountsReady placement.runtime placement.podNames replicas ≠ []) :
    ∃ mark ∈ plannedMarks spec placements, mark ∉ replicas.map Replica.mark ∧
      mark ∈ (ensurePlacements spec mountsReady (some limit) placements replicas).map
        Replica.mark := by
  induction placements generalizing replicas with
  | nil => simp at missing
  | cons placement rest ih =>
      rw [Orderly, List.forall_mem_cons] at orderly
      obtain ⟨marks, number⟩ := ensureApp_spec spec mountsReady placement.runtime (some limit)
        orderly.1.1 replicas
      have follows : Follows spec [placement] replicas (ensureApp spec mountsReady
          placement.runtime (some limit) placement.podNames replicas).1 := by
        apply Follows.ensureApp wellNamed orderly.1.1 orderly.1.2
        intro podName member
        rw [mem_plannedMarks]
        exact ⟨placement, List.mem_cons_self, podName, member, rfl⟩
      have room : missingOn spec mountsReady placement.runtime placement.podNames
          (madeRoom spec placement.runtime replicas) =
            missingOn spec mountsReady placement.runtime placement.podNames replicas :=
        missingOn_congr (fun _ current => mem_madeRoom_marks wellNamed _ current) _ _ _
      rw [appAdded, room] at marks number
      simp only [ensurePlacements, Option.map_some]
      cases here : missingOn spec mountsReady placement.runtime placement.podNames replicas with
      | cons podName others =>
          -- The first placement creates one.
          obtain ⟨more, rfl⟩ : ∃ more, limit = more + 1 := ⟨limit - 1, by omega⟩
          have listed : podName ∈ missingOn spec mountsReady placement.runtime
              placement.podNames replicas := by
            simp [here]
          refine ⟨(placement.runtime, podName, spec.revision), ?_, ?_, ?_⟩
          · rw [mem_plannedMarks]
            exact ⟨placement, List.mem_cons_self, podName, missingOn_subset _ _ _ _ _ listed, rfl⟩
          · have absent := (Bool.and_eq_true_iff.mp (List.mem_filter.mp listed).2).2
            simpa [present_eq] using absent
          · apply (Follows.ensurePlacements follows.wellNamed orderly.2 (List.Subset.refl _) _
              _).keeps
            · rw [marks, here]
              simp [takeUpTo]
            · rfl
      | nil =>
          -- It creates none, and the others find the same replicas.
          have none : (ensureApp spec mountsReady placement.runtime (some limit)
              placement.podNames replicas).2 = 0 := by
            rw [number, here]
            simp [takeUpTo]
          rw [here] at marks
          simp only [takeUpTo, Option.elim_some, List.take_nil, List.map_nil,
            List.append_nil] at marks
          have same : ∀ mark : String × String × Int, mark.2.2 = spec.revision →
              (mark ∈ (ensureApp spec mountsReady placement.runtime (some limit)
                placement.podNames replicas).1.map Replica.mark ↔
                  mark ∈ replicas.map Replica.mark) := by
            intro mark current
            rw [marks]
            exact mem_madeRoom_marks wellNamed _ current
          obtain ⟨other, member, some_missing⟩ := missing
          have later : other ∈ rest := by
            rcases List.mem_cons.mp member with rfl | later
            · exact absurd here some_missing
            · exact later
          obtain ⟨mark, planned, absent, created⟩ := ih follows.wellNamed
            orderly.2 ⟨other, later, by rwa [missingOn_congr same]⟩
          rw [none, Nat.sub_zero]
          rw [mem_plannedMarks] at planned
          obtain ⟨source, sourceLater, podName, listed, rfl⟩ := planned
          refine ⟨_, ?_, ?_, created⟩
          · rw [mem_plannedMarks]
            exact ⟨source, List.mem_cons_of_mem _ sourceLater, podName, listed, rfl⟩
          · rwa [same _ rfl] at absent

/-! ## Steps -/

/-- A situation of a rollout that goes as planned: the plan is the same, the volumes
are ready, and every desired replica that exists is recorded as ready. -/
structure Regular
    (spec : RolloutSpec) (placements : List RuntimePlacement) (situation : Situation)
    (replicas : List Replica) : Prop where
  placements : situation.placements = placements
  mountsReady : ∀ podName, situation.mountsReady podName = true
  recordedReady : existingDesired spec replicas ⊆ situation.recordedReady

theorem filterPlacements_marks
    (spec : RolloutSpec) (targetPodNames : List String) (placements : List RuntimePlacement) :
    plannedMarks spec (filterPlacements targetPodNames placements) ⊆
      plannedMarks spec placements := by
  intro mark member
  rw [mem_plannedMarks] at member ⊢
  obtain ⟨placement, filtered, podName, listed, rfl⟩ := member
  obtain ⟨mapped, _⟩ := List.mem_filter.mp filtered
  obtain ⟨given, present, rfl⟩ := List.mem_map.mp mapped
  refine ⟨given, present, podName, ?_, rfl⟩
  have inKeys := List.mem_of_mem_filter listed
  simpa [fromKeys] using inKeys

theorem mem_filterPlacements
    {targetPodNames : List String} {placements : List RuntimePlacement}
    {placement : RuntimePlacement} {podName : String} (member : placement ∈ placements)
    (listed : podName ∈ placement.podNames) (target : podName ∈ targetPodNames) :
    ∃ kept ∈ filterPlacements targetPodNames placements,
      kept.runtime = placement.runtime ∧ podName ∈ kept.podNames := by
  have inside : podName ∈ (fromKeys placement.podNames).filter (targetPodNames.contains ·) := by
    simp [fromKeys, listed, target]
  refine ⟨_, List.mem_filter.mpr ⟨List.mem_map_of_mem member, ?_⟩, rfl, inside⟩
  simpa using List.ne_nil_of_mem inside

section

variable
  {spec : RolloutSpec}
  {placements : List RuntimePlacement}
  {situation : Situation}
  {replicas : List Replica}

theorem stepBudget_targetPodNames_subset :
    (stepBudget spec situation replicas).targetPodNames ⊆ spec.desiredPodNames := by
  unfold stepBudget budget
  split_ifs
  · exact List.Subset.refl _
  · exact targetPodNames_subset

theorem orderly_stepPlacements : Orderly spec (stepPlacements spec situation replicas) :=
  fun placement member => ⟨filterPlacements_nodup _ _ placement member,
    fun _ listed => stepBudget_targetPodNames_subset
      (filterPlacements_subset _ _ placement member listed)⟩

variable (placements situation) in
theorem Follows.preRemoved (wellNamed : WellNamed spec replicas) :
    Follows spec placements replicas (preRemoved spec situation replicas) := by
  apply Follows.of_removal wellNamed (without_sublist _ _)
  intro replica member current
  have removable := stepBudget_removableOld_subset spec situation replicas
  have kept := mem_without wellNamed.distinct
    (fun _ listed => oldReplicas_subset spec replicas (removable listed)) replica
  refine kept.mpr ⟨member, fun removed => ?_⟩
  exact revision_of_mem_oldReplicas wellNamed (removable removed) current

/-- Creation after the first removal. -/
theorem Follows.ensured
    (wellNamed : WellNamed spec replicas) (planned : situation.placements = placements) :
    Follows spec placements (Rollout.preRemoved spec situation replicas)
      (ensured spec situation replicas) := by
  apply Follows.ensurePlacements
    (Follows.preRemoved placements situation wellNamed).wellNamed orderly_stepPlacements
  rw [stepPlacements, planned]
  exact filterPlacements_marks _ _ _

/-- The removal of old revisions. -/
theorem Follows.collected
    (wellNamed : WellNamed spec replicas) (planned : situation.placements = placements) :
    Follows spec placements (Rollout.ensured spec situation replicas)
      (step spec situation replicas) := by
  have created := (Follows.ensured wellNamed planned).wellNamed
  unfold step
  split_ifs
  · exact .removeOldRevisions _ created _
  · exact .refl created

theorem Follows.step
    (wellNamed : WellNamed spec replicas) (planned : situation.placements = placements) :
    Follows spec placements replicas (step spec situation replicas) :=
  ((Follows.preRemoved _ _ wellNamed).trans (Follows.ensured wellNamed planned)).trans
    (Follows.collected wellNamed planned)

theorem InPlace.of_follows
    {after : List Replica} (inPlace : InPlace spec placements replicas)
    (follows : Follows spec placements replicas after) : InPlace spec placements after := by
  intro replica member current
  rcases follows.planned _ (List.mem_map_of_mem member) with earlier | planned
  · obtain ⟨other, present, same⟩ := List.mem_map.mp earlier
    simp only [Replica.mark, Prod.mk.injEq] at same
    have found := inPlace other present (same.2.2.trans current)
    simpa [Replica.mark, same] using found
  · exact planned

end

end Rollout
end K1s
