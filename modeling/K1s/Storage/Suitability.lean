import K1s.Storage.Quota

/-!
# Volumes that suit a claim

A claim that names no volume is bound to the first volume whose reference names the claim,
and otherwise to the first volume that passes the tests of `_find_available_pv`.  The two
searches look at different fields: the first at the reference alone, the second at the
phase, the class, the access modes and the volume mode, where it counts as a match what
one of the two objects leaves out.

The main result says on which volumes the one that is bound suits the claim.
-/

namespace K1s
namespace Storage

open Py ApiShim
open Program (runAlone runAlone_andThen runAlone_ofOption)

/-! ## What a claim asks of a volume -/

def phaseText (pv : K8sObject) : String :=
  ((pv.status.item "phase").or (.str "")).toStr

def listedModes (object : K8sObject) : List Json := (accessModes object).getD []

def StatesMode (object : K8sObject) : Prop :=
  (object.spec.item "volumeMode").truthy = true

/-- The volume mode of an object, which is `Filesystem` where it states none. -/
def volumeModeOf (object : K8sObject) : String :=
  ((object.spec.item "volumeMode").or (.str "Filesystem")).toStr

/-- The name of a class, empty where there is none. -/
def className (sc : Option (Option String)) : String := sc.join.getD ""

/-- The size of a volume. -/
def kubeCapacity (pv : K8sObject) : ℚ :=
  let storage := (volumeCapacity pv.spec).item "storage"
  if storage.truthy then max 0 ((kubeQuantity storage.toStr).getD 0) else 0

/-- What the search for an available volume does not see to. -/
structure Fits (pvc pv : K8sObject) : Prop where
  modes : ∀ mode ∈ listedModes pvc, mode ∈ listedModes pv
  volumeMode : volumeModeOf pvc = volumeModeOf pv
  capacity : kubeSize pvc ≤ kubeCapacity pv

/-- The volume may be given to the claim, and has what the claim asks for. -/
structure Suitable
    (controller : StorageController)
    (pvc pv : K8sObject) : Prop extends Fits pvc pv where
  claim : (pv.spec.item "claimRef").truthy = false ∨
    ∃ claim, pv.spec.item "claimRef" = .dict claim ∧ Names claim pvc
  phase : phaseText pv ≠ "Released" ∧ phaseText pv ≠ "Failed"
  storageClass : className (pvcStorageClass controller pvc) = className (pvStorageClass pv)

/-! ## Binding by matching -/

/-- `_reconcile_pvc` comes to the matching. -/
structure ReachesMatching
    (controller : StorageController) (outside : Outside) (pvc : K8sObject)
    (world : World) : Prop where
  unnamed : ∃ volumeName, pvc.spec.lookup "volumeName" = some volumeName ∧
    volumeName.truthy = false
  unbound : ∃ phase, pvc.status.lookup "phase" = some phase ∧ phase ≠ .str "Bound"
  allowed : (runAlone (StorageOp.execute outside) (quotaAllowsPvc controller pvc) world).1 =
    some true

/-- The claim and the volume can be written with references to each other. -/
def Bindable (controller : StorageController) (pvc pv : K8sObject) : Prop :=
  (boundClaim controller pvc pv).isSome ∧ (boundVolume pvc pv).isSome

/-- `_reconcile_pvc` binds the claim to a volume that matches it. -/
structure BindsByMatching
    (controller : StorageController) (outside : Outside) (pvc pv : K8sObject)
    (world : World) : Prop extends ReachesMatching controller outside pvc world where
  matched : (runAlone (StorageOp.execute outside) (matchPvForPvc controller pvc) world).1 =
    some (some pv)
  bindable : Bindable controller pvc pv

/-- Every volume that the claim is bound to by matching suits it. -/
def BindsSuitable
    (controller : StorageController) (outside : Outside) (pvc : K8sObject)
    (world : World) : Prop :=
  ∀ pv, BindsByMatching controller outside pvc pv world → Suitable controller pvc pv

/-! ## When it does -/

/-- The tests of `_find_available_pv`, on a claim. -/
def isAvailableFor
    (controller : StorageController)
    (pvc pv : K8sObject) : Option Bool :=
  (pvcStorageClass controller pvc).bind fun sc =>
  (accessModes pvc).bind fun modes =>
  (pvc.spec.lookup "volumeMode").bind fun vm =>
  availableFor sc modes vm pvc pv

/-- What is left to the volumes that refer to the claim: all but the reference. -/
structure PreboundFits
    (controller : StorageController)
    (pvc pv : K8sObject) : Prop extends Fits pvc pv where
  phase : phaseText pv ≠ "Released" ∧ phaseText pv ≠ "Failed"
  storageClass : className (pvcStorageClass controller pvc) = className (pvStorageClass pv)

/-- What is left to the volumes that pass the tests: that they list access modes where the
claim does, that a volume mode that only one of the two states is the default, and the
capacity. -/
structure AvailableFits (pvc pv : K8sObject) : Prop where
  modes : listedModes pv = [] → listedModes pvc = []
  claimMode : ¬ StatesMode pv → volumeModeOf pvc = "Filesystem"
  volumeMode : ¬ StatesMode pvc → volumeModeOf pv = "Filesystem"
  capacity : kubeSize pvc ≤ kubeCapacity pv

/-- Where the claim comes to the matching, the first volume that refers to it fits, and if
there is none the first one that passes the tests does. -/
def FirstFits
    (controller : StorageController) (outside : Outside) (pvc : K8sObject)
    (world : World) : Prop :=
  ReachesMatching controller outside pvc world → ∀ pv, Bindable controller pvc pv →
    (FirstOf (world.store.listAll pvResource) (fun pv => pvClaimRefMatches pv pvc) pv →
      PreboundFits controller pvc pv) ∧
    ((∀ other ∈ world.store.listAll pvResource, pvClaimRefMatches other pvc = some false) →
      FirstOf (world.store.listAll pvResource) (isAvailableFor controller pvc) pv →
      AvailableFits pvc pv)

/-! ## The searches -/

section Matching

variable {controller : StorageController} {outside : Outside} {pvc pv : K8sObject}
  {world : World}

/-- The search for a volume that refers to the claim looks at the stored volumes. -/
theorem runAlone_findPreboundPv :
    runAlone (StorageOp.execute outside) (findPreboundPv pvc) world =
      (firstWith (world.store.listAll pvResource) fun pv => pvClaimRefMatches pv pvc, world) :=
  runAlone_ofOption _ _ _

/-- The search for an available volume looks at the stored volumes. -/
theorem runAlone_findAvailablePv :
    (runAlone (StorageOp.execute outside) (findAvailablePv controller pvc) world).1 =
        some (some pv) ↔
      FirstOf (world.store.listAll pvResource) (isAvailableFor controller pvc) pv := by
  simp only [findAvailablePv, Program.bind_eq, runAlone_andThen, runAlone_ofOption]
  cases readClass : pvcStorageClass controller pvc with
  | none => simp [FirstOf, isAvailableFor, readClass]
  | some sc =>
      cases readModes : accessModes pvc with
      | none => simp [FirstOf, isAvailableFor, readClass, readModes]
      | some modes =>
          cases readMode : pvc.spec.lookup "volumeMode" with
          | none => simp [FirstOf, isAvailableFor, readClass, readModes, readMode]
          | some vm =>
              have same : isAvailableFor controller pvc = availableFor sc modes vm pvc := by
                funext other
                simp [isAvailableFor, readClass, readModes, readMode]
              rw [same]
              exact firstWith_eq_some_iff _ _ _

theorem runAlone_findAvailablePv_none
    (noneFound : (runAlone (StorageOp.execute outside) (findAvailablePv controller pvc) world).1 =
      some none) :
    ∀ other ∈ world.store.listAll pvResource, isAvailableFor controller pvc other = some false := by
  simp only [findAvailablePv, Program.bind_eq, runAlone_andThen, runAlone_ofOption] at noneFound
  cases readClass : pvcStorageClass controller pvc with
  | none => simp [readClass] at noneFound
  | some sc =>
      cases readModes : accessModes pvc with
      | none => simp [readClass, readModes] at noneFound
      | some modes =>
          cases readMode : pvc.spec.lookup "volumeMode" with
          | none => simp [readClass, readModes, readMode] at noneFound
          | some vm =>
              simp only [readClass, readModes, readMode] at noneFound
              intro other member
              simp only [isAvailableFor, readClass, readModes, readMode, Option.bind_some]
              exact (firstWith_eq_none_iff _ _).mp noneFound other member

/-- The two searches, one after the other. -/
theorem runAlone_matchPvForPvc
    (unnamed : ∃ volumeName, pvc.spec.lookup "volumeName" = some volumeName ∧
      volumeName.truthy = false) :
    (runAlone (StorageOp.execute outside) (matchPvForPvc controller pvc) world).1 =
        some (some pv) ↔
      FirstOf (world.store.listAll pvResource) (fun pv => pvClaimRefMatches pv pvc) pv ∨
        (∀ other ∈ world.store.listAll pvResource, pvClaimRefMatches other pvc = some false) ∧
          FirstOf (world.store.listAll pvResource) (isAvailableFor controller pvc) pv := by
  obtain ⟨volumeName, readName, falsy⟩ := unnamed
  have searched : (runAlone (StorageOp.execute outside) (findAvailablePv controller pvc) world).1 =
        some (some pv) ↔
      FirstOf (world.store.listAll pvResource) (isAvailableFor controller pvc) pv :=
    runAlone_findAvailablePv
  rw [← firstWith_eq_some_iff, ← firstWith_eq_none_iff, ← searched]
  simp only [matchPvForPvc, Program.bind_eq, runAlone_andThen, runAlone_ofOption, readName,
    falsy, Bool.false_eq_true, if_false, runAlone_findPreboundPv]
  cases firstWith (world.store.listAll pvResource) fun pv => pvClaimRefMatches pv pvc with
  | none => simp
  | some found =>
      cases found with
      | none => simp
      | some prebound => simp

theorem runAlone_matchPvForPvc_none
    (unnamed : ∃ volumeName, pvc.spec.lookup "volumeName" = some volumeName ∧
      volumeName.truthy = false)
    (noneFound : (runAlone (StorageOp.execute outside) (matchPvForPvc controller pvc) world).1 =
      some none) :
    ∀ other ∈ world.store.listAll pvResource, pvClaimRefMatches other pvc = some false ∧
      isAvailableFor controller pvc other = some false := by
  obtain ⟨volumeName, readName, falsy⟩ := unnamed
  simp only [matchPvForPvc, Program.bind_eq, runAlone_andThen, runAlone_ofOption, readName,
    falsy, Bool.false_eq_true, if_false, runAlone_findPreboundPv] at noneFound
  cases prebound : firstWith (world.store.listAll pvResource)
      fun pv => pvClaimRefMatches pv pvc with
  | none => simp [prebound] at noneFound
  | some found =>
      cases found with
      | none =>
          simp only [prebound] at noneFound
          intro other member
          exact ⟨(firstWith_eq_none_iff _ _).mp prebound other member,
            runAlone_findAvailablePv_none noneFound other member⟩
      | some pv => simp [prebound] at noneFound

/-- The search for a volume looks only. -/
theorem runAlone_matchPvForPvc_world
    (unnamed : ∃ volumeName, pvc.spec.lookup "volumeName" = some volumeName ∧
      volumeName.truthy = false) :
    (runAlone (StorageOp.execute outside) (matchPvForPvc controller pvc) world).2 = world := by
  obtain ⟨volumeName, readName, falsy⟩ := unnamed
  have looks : (runAlone (StorageOp.execute outside) (findAvailablePv controller pvc) world).2 =
      world := by
    simp only [findAvailablePv, Program.bind_eq, runAlone_andThen, runAlone_ofOption]
    cases pvcStorageClass controller pvc <;> cases accessModes pvc <;>
      cases pvc.spec.lookup "volumeMode" <;> rfl
  simp only [matchPvForPvc, Program.bind_eq, runAlone_andThen, runAlone_ofOption, readName,
    falsy, Bool.false_eq_true, if_false, runAlone_findPreboundPv]
  cases firstWith (world.store.listAll pvResource) fun pv => pvClaimRefMatches pv pvc with
  | none => rfl
  | some found =>
      cases found with
      | none => exact looks
      | some prebound => rfl

end Matching

/-! ## The tests -/

section Tests

variable {controller : StorageController} {pvc pv : K8sObject}

/-- The class of a volume that is not passed over is the class of the claim. -/
theorem className_eq_iff (sc pvSc : Option String) :
    ¬ ((sc.getD "" ≠ "" ∨ pvSc.getD "" ≠ "") ∧ sc ≠ pvSc) ↔
      className (some sc) = className (some pvSc) := by
  cases sc with
  | none =>
      cases pvSc with
      | none => simp [className]
      | some name => simp [className, eq_comm]
  | some first =>
      cases pvSc with
      | none => simp [className]
      | some second =>
          by_cases same : first = second
          · simp [className, same]
          · have stated : first ≠ "" ∨ second ≠ "" := by
              by_contra empty
              rw [not_or, not_not, not_not] at empty
              exact same (empty.1.trans empty.2.symm)
            simp [className, same, stated]

theorem modes_of_modesMatch
    {modes : List Json} (readModes : accessModes pvc = some modes)
    (fits : (if modes.isEmpty then some true else modesMatch modes pv) = some true)
    (lists : listedModes pv ≠ []) : ∀ mode ∈ listedModes pvc, mode ∈ listedModes pv := by
  intro mode member
  have asked : mode ∈ modes := by simpa [listedModes, readModes] using member
  have nonempty : modes.isEmpty = false :=
    List.isEmpty_eq_false_iff.mpr (List.ne_nil_of_mem asked)
  rw [nonempty, if_neg (by decide), modesMatch, Option.map_eq_some_iff] at fits
  obtain ⟨pvModes, readPvModes, covers⟩ := fits
  rw [listedModes, readPvModes, Option.getD_some] at lists ⊢
  rw [Bool.or_eq_true, List.isEmpty_iff, or_iff_right lists] at covers
  exact List.contains_iff_mem.mp (List.all_eq_true.mp covers mode asked)

/-- The test of the volume mode, where both state one. -/
theorem volumeMode_of_volumeModeMatch
    {vm : Json} (readMode : pvc.spec.lookup "volumeMode" = some vm)
    (fits : (if vm.truthy then volumeModeMatch vm pv else some true) = some true)
    (stated : StatesMode pvc) (pvStated : StatesMode pv) :
    volumeModeOf pvc = volumeModeOf pv := by
  have isStated : vm.truthy = true := by rwa [StatesMode, Json.item_of_lookup readMode] at stated
  rw [if_pos isStated, volumeModeMatch, Option.map_eq_some_iff] at fits
  obtain ⟨pvVm, readPvMode, same⟩ := fits
  rw [StatesMode, Json.item_of_lookup readPvMode] at pvStated
  rw [pvStated, Bool.not_true, Bool.false_or, decide_eq_true_eq] at same
  rw [volumeModeOf, volumeModeOf, Json.item_of_lookup readMode, Json.item_of_lookup readPvMode,
    Json.or, Json.or, if_pos isStated, if_pos pvStated, same]

theorem volumeModeOf_of_not_statesMode
    {object : K8sObject}
    (unstated : ¬ StatesMode object) : volumeModeOf object = "Filesystem" := by
  unfold StatesMode at unstated
  rw [volumeModeOf, Json.or, if_neg unstated]
  rfl

/-- An available volume is neither released nor failed. -/
theorem phaseText_of_pvIsAvailable (available : pvIsAvailable pv = some true) :
    phaseText pv ≠ "Released" ∧ phaseText pv ≠ "Failed" := by
  obtain ⟨phase, readPhase, isOpen⟩ := Option.map_eq_some_iff.mp available
  rw [phaseText, Json.item_of_lookup readPhase]
  rcases of_decide_eq_true isOpen with rfl | rfl | rfl <;> decide

/-- What the tests see to. -/
structure Tested
    (controller : StorageController)
    (pvc pv : K8sObject) : Prop where
  free : pvClaimRefConflicts pv pvc = some false
  available : pvIsAvailable pv = some true
  storageClass : className (pvcStorageClass controller pvc) = className (pvStorageClass pv)
  modes : listedModes pv ≠ [] → ∀ mode ∈ listedModes pvc, mode ∈ listedModes pv
  volumeMode : StatesMode pvc → StatesMode pv → volumeModeOf pvc = volumeModeOf pv

theorem tested_of_isAvailableFor (passed : isAvailableFor controller pvc pv = some true) :
    Tested controller pvc pv := by
  obtain ⟨sc, readClass, passed⟩ := Option.bind_eq_some_iff.mp passed
  obtain ⟨modes, readModes, passed⟩ := Option.bind_eq_some_iff.mp passed
  obtain ⟨vm, readMode, passed⟩ := Option.bind_eq_some_iff.mp passed
  obtain ⟨conflicts, free, passed⟩ := Option.bind_eq_some_iff.mp passed
  cases conflicts with
  | true => simp at passed
  | false =>
      obtain ⟨available, isAvailable, passed⟩ := Option.bind_eq_some_iff.mp passed
      cases available with
      | false => simp at passed
      | true =>
          obtain ⟨pvSc, readPvClass, passed⟩ := Option.bind_eq_some_iff.mp passed
          split at passed
          · simp at passed
          · next sameClass =>
              obtain ⟨fits, modesFit, passed⟩ := Option.bind_eq_some_iff.mp passed
              cases fits with
              | false => simp at passed
              | true =>
                  simp only [Bool.not_true, Bool.false_eq_true, if_false] at passed
                  refine ⟨free, isAvailable, ?_, ?_, ?_⟩
                  · rw [readClass, readPvClass]
                    exact (className_eq_iff sc pvSc).mp sameClass
                  · exact modes_of_modesMatch readModes modesFit
                  · exact volumeMode_of_volumeModeMatch readMode passed

/-- A volume that passes the tests suits the claim if it has what they do not see to. -/
theorem suitable_of_tested
    (tested : Tested controller pvc pv)
    (fits : AvailableFits pvc pv) : Suitable controller pvc pv := by
  refine ⟨⟨?_, ?_, fits.capacity⟩, ?_, phaseText_of_pvIsAvailable tested.available,
    tested.storageClass⟩
  · by_cases lists : listedModes pv = []
    · rw [fits.modes lists]
      exact fun mode member => absurd member List.not_mem_nil
    · exact tested.modes lists
  · by_cases stated : StatesMode pvc
    · by_cases pvStated : StatesMode pv
      · exact tested.volumeMode stated pvStated
      · rw [fits.claimMode pvStated, volumeModeOf_of_not_statesMode pvStated]
    · rw [fits.volumeMode stated, volumeModeOf_of_not_statesMode stated]
  · rcases matches_or_unclaimed tested.free with named | unclaimed
    · exact .inr ((pvClaimRefMatches_iff pv pvc).mp named)
    · exact .inl unclaimed

end Tests

/-! ## The condition -/

/-- The volumes that the claim is bound to by matching suit it exactly if the first volume
that refers to it fits, or where there is none the first one that passes the tests. -/
theorem bindsSuitable_iff
    (controller : StorageController) (outside : Outside) (pvc : K8sObject) (world : World) :
    BindsSuitable controller outside pvc world ↔ FirstFits controller outside pvc world := by
  constructor
  · intro suitable reaches pv bindable
    have suits := fun matched =>
      suitable pv ⟨reaches, (runAlone_matchPvForPvc reaches.unnamed).mpr matched, bindable⟩
    constructor
    · intro first
      have suit := suits (.inl first)
      exact ⟨suit.toFits, suit.phase, suit.storageClass⟩
    · intro noPrebound first
      have suit := suits (.inr ⟨noPrebound, first⟩)
      refine ⟨?_, ?_, ?_, suit.capacity⟩
      · intro listsNone
        apply List.eq_nil_iff_forall_not_mem.mpr
        intro mode member
        have listed := suit.modes mode member
        rw [listsNone] at listed
        exact List.not_mem_nil listed
      · intro unstated
        rw [suit.volumeMode]
        exact volumeModeOf_of_not_statesMode unstated
      · intro unstated
        rw [← suit.volumeMode]
        exact volumeModeOf_of_not_statesMode unstated
  · intro fits pv binds
    obtain ⟨prebound, available⟩ := fits binds.toReachesMatching pv binds.bindable
    rcases (runAlone_matchPvForPvc binds.unnamed).mp binds.matched with first | ⟨noPrebound, first⟩
    · obtain ⟨fit, phase, storageClass⟩ := prebound first
      obtain ⟨before, after, -, -, named⟩ := first
      exact ⟨fit, .inr ((pvClaimRefMatches_iff pv pvc).mp named), phase, storageClass⟩
    · have fit := available noPrebound first
      obtain ⟨before, after, -, -, passed⟩ := first
      exact suitable_of_tested (tested_of_isAvailableFor passed) fit

def gibibyteClaim : K8sObject where
  gvr := pvcResource
  ns := some "default"
  name := "data"
  metadata := .dict [("name", .str "data"), ("namespace", .str "default"), ("uid", .str "uid-2")]
  spec := .dict [("accessModes", .list [.str "ReadWriteOnce"]), ("resources",
    .dict [("requests", .dict [("storage", .str "1Gi")])])]
  status := .dict [("phase", .str "Pending")]
  resourceVersion := 2

/-- A volume that refers to a claim by its name, and was released by an earlier claim of
this name. -/
def releasedVolume : ObjectStore :=
  (ObjectStore.empty.upsert pvResource none "pv1" (.dict [("name", .str "pv1")])
    (.dict [("capacity", .dict [("storage", .str "1Gi")]),
      ("accessModes", .list [.str "ReadWriteOnce"]),
      ("claimRef", .dict [("name", .str "data"), ("namespace", .str "default")])])
    (.dict [("phase", .str "Released")])).2

/-- The released volume is bound to the new claim of the name. -/
theorem not_bindsSuitable_releasedVolume :
    ¬ BindsSuitable plainController plainOutside gibibyteClaim ⟨releasedVolume, []⟩ := by
  intro suitable
  have found : releasedVolume.listAll pvResource =
      [⟨pvResource, some "", "pv1", .dict [("name", .str "pv1")],
        .dict [("capacity", .dict [("storage", .str "1Gi")]),
          ("accessModes", .list [.str "ReadWriteOnce"]),
          ("claimRef", .dict [("name", .str "data"), ("namespace", .str "default")])],
        .dict [("phase", .str "Released")], 1⟩] := by decide +kernel
  have suits := suitable _ ⟨⟨⟨.null, rfl, rfl⟩, ⟨.str "Pending", rfl, by decide⟩, rfl⟩,
    (runAlone_matchPvForPvc ⟨.null, rfl, rfl⟩).mpr (.inl ⟨[], [], found, by simp, by decide +kernel⟩),
    by decide +kernel, by decide +kernel⟩
  exact suits.phase.1 (by decide +kernel)

end Storage
end K1s
