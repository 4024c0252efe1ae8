import K1s.Storage.BindingInvariant

/-!
# Concurrent reconciliation of claims

The watches of claims and volumes and the periodic pass call `_reconcile_pvc`
from threads of their own.  The module interleaves the store operations of any
number of such calls, on any copies of any claims, and shows that bindings are
exclusive along every run whose writes of volumes are current.
-/

namespace K1s
namespace Storage

open Py ApiShim Program

section Safety

variable {outside : Outside} {world : World}

/-- A copy of a volume: whoever it says the volume is claimed by, still claims
it. -/
def Held (store : ObjectStore) (pv : K8sObject) : Prop :=
  ∀ pvc, pvClaimRefMatches pv pvc = some true → Claimed store pv.name pvc

variable {α : Type}

/-- A quiet program keeps facts that survive kept references. -/
theorem safe_quiet
    {program : StorageProgram α} (fact : ObjectStore → Prop) (quiet : program.Uses Quiet)
    (stable : ∀ first second, ClaimsKept first second → fact first → fact second)
    (initial : fact world.store) :
    Safe (binding outside) (fun _ reached => fact reached.store) program world :=
  quiet.safe (fun operation allowed reached coherent current =>
      execute_quiet outside operation allowed reached coherent current)
    (fun first second => stable first.store second.store) initial

/-- A quiet program in front, when nothing is known yet. -/
theorem safe_quiet_andThen
    {α β : Type} {program : StorageProgram α} {next : α → StorageProgram β}
    {post : β → World → Prop} (quiet : program.Uses Quiet)
    (continued : ∀ value reached, Safe (binding outside) post (next value) reached) :
    Safe (binding outside) post (program.andThen next) world :=
  Safe.andThen (safe_quiet (fun _ => True) quiet (fun _ _ _ _ => trivial) trivial)
    fun value reached _ => continued value reached

/-! ## Reading volumes -/

theorem held_of_row
    {store : ObjectStore} {name : String} {row : ObjectRow}
    (stored : store.row? (pvKey name) = some row) : Held store (row.object (pvKey name)) :=
  fun _ named => ⟨row, stored, named⟩

theorem safe_getVolume (name : String) :
    Safe (binding outside) (fun found reached => ∀ pv, found = some pv →
        pv.name = name ∧ Held reached.store pv)
      (storeGet pvResource none name) world := by
  intro reached _ coherent _
  refine ⟨.refl _, coherent, fun pv found => ?_⟩
  obtain ⟨row, stored, rfl⟩ := Option.map_eq_some_iff.mp found
  exact ⟨rfl, held_of_row stored⟩

theorem safe_getVolumeNamed (name : Json) :
    Safe (binding outside) (fun found reached => ∀ pv, found = some pv →
        name.sqlText = some (some pv.name) ∧ Held reached.store pv)
      (storeGetNamed pvResource none name) world := by
  unfold storeGetNamed
  split
  · trivial
  · intro pv found
    cases found
  · rename_i text same
    refine (safe_getVolume text).weaken fun found reached read pv present => ?_
    obtain ⟨sameName, held⟩ := read pv present
    exact ⟨by rw [same, sameName], held⟩

theorem safe_listVolumes :
    Safe (binding outside) (fun found reached => ∀ pv ∈ found, Held reached.store pv)
      (storeListAll pvResource) world := by
  intro reached _ coherent _
  refine ⟨.refl _, coherent, fun pv member => ?_⟩
  obtain ⟨key, row, stored, kind, rfl⟩ :=
    (ObjectStore.mem_listAll _ _ _).mp member
  have cluster : key.ns = "" :=
    coherent.clusterScoped key kind (by simp [stored])
  obtain ⟨gvr, ns, name⟩ := key
  simp only at kind cluster
  subst kind cluster
  exact held_of_row stored

/-! ## Finding a volume for a claim -/

/-- A copy of a volume that the claim may be bound to. -/
structure Ready (store : ObjectStore) (pvc pv : K8sObject) : Prop where
  free : pvClaimRefConflicts pv pvc = some false
  held : Held store pv

/-- What the searches for a volume promise. -/
def Found (pvc : K8sObject) (found : Option K8sObject) (reached : World) : Prop :=
  ∀ pv, found = some pv → Ready reached.store pvc pv

theorem found_none (pvc : K8sObject) (reached : World) : Found pvc none reached :=
  fun _ found => nomatch found

theorem safe_findPreboundPv (pvc : K8sObject) :
    Safe (binding outside) (Found pvc) (findPreboundPv pvc) world := by
  refine Safe.andThen safe_listVolumes fun pvs reached held => ?_
  refine Safe.ofOption fun found first pv present => ?_
  subst present
  have chosen := (firstWith_eq_some_iff _ _ _).mp first
  exact ⟨conflicts_of_matches chosen.passes, held pv chosen.mem⟩

variable {pv pvc : K8sObject} {modes : List Json}

/-- A volume that passes the tests is not claimed by another claim. -/
theorem free_of_availableFor
    {sc : Option String} {vm : Json} (available : availableFor sc modes vm pvc pv = some true) :
    pvClaimRefConflicts pv pvc = some false := by
  obtain ⟨conflicts, tested, rest⟩ := Option.bind_eq_some_iff.mp available
  cases conflicts with
  | true => simp at rest
  | false => exact tested

theorem safe_findAvailablePv (controller : StorageController) (pvc : K8sObject) :
    Safe (binding outside) (Found pvc) (findAvailablePv controller pvc) world := by
  refine Safe.ofOption_andThen fun sc _ => Safe.ofOption_andThen fun modes _ =>
    Safe.ofOption_andThen fun vm _ => Safe.andThen safe_listVolumes
      fun pvs reached held => Safe.ofOption fun found first pv present => ?_
  subst present
  have chosen := (firstWith_eq_some_iff _ _ _).mp first
  exact ⟨free_of_availableFor chosen.passes, held pv chosen.mem⟩

theorem safe_matchPvForPvc (controller : StorageController) (pvc : K8sObject) :
    Safe (binding outside) (Found pvc) (matchPvForPvc controller pvc) world := by
  refine Safe.ofOption_andThen fun volumeName _ => Safe.ite (fun _ => ?_) fun _ => ?_
  · refine Safe.andThen (safe_getVolumeNamed volumeName) ?_
    rintro (_ | pv) reached read
    · exact found_none pvc reached
    · refine Safe.ofOption_andThen fun conflicts tested other chosen => ?_
      cases conflicts with
      | true => cases chosen
      | false =>
          obtain rfl := Option.some.inj chosen
          exact ⟨tested, (read _ rfl).2⟩
  · refine Safe.andThen (safe_findPreboundPv pvc) ?_
    rintro (_ | pv) reached ready
    · exact safe_findAvailablePv controller pvc
    · exact ready

/-! ## Provisioning -/

theorem safe_giveUp (pvc claim : K8sObject) (reason message : String) :
    Safe (binding outside) (Found claim) (giveUp pvc reason message none) world :=
  safe_quiet_andThen (quiet_recordPvcEvent pvc reason message)
    fun _ reached => found_none claim reached

variable {spec : Dict}

theorem newVolumeSpec_claimRef
    {pvc sc : K8sObject} {mode : Json} {defaultPolicy : String} {source : String × Json}
    (made : newVolumeSpec pvc sc modes mode defaultPolicy source = some spec) :
    ∃ claim, Dict.find? spec "claimRef" = some (.dict claim) ∧ Names claim pvc := by
  obtain ⟨policy, _, afterPolicy⟩ := Option.bind_eq_some_iff.mp made
  obtain ⟨options, _, afterOptions⟩ := Option.bind_eq_some_iff.mp afterPolicy
  obtain ⟨mountOptions, _, afterMount⟩ := Option.bind_eq_some_iff.mp afterOptions
  obtain ⟨claim, refers, rfl⟩ := Option.map_eq_some_iff.mp afterMount
  exact ⟨claim, by simp [Dict.find?_cons], names_claimRefFor refers⟩

theorem withNodeAffinity_claimRef
    {selected : Option String} {value : Json}
    (present : Dict.find? spec "claimRef" = some value) :
    Dict.find? (withNodeAffinity selected spec) "claimRef" = some value := by
  cases selected with
  | none => exact present
  | some node => simp [withNodeAffinity, Dict.find?_append, present]

theorem safe_createVolume
    (pvc : K8sObject) (uid : String) (entries spec : Dict)
    (refers : ∃ claim, Dict.find? spec "claimRef" = some (.dict claim) ∧ Names claim pvc) :
    Safe (binding outside) (Found pvc) (createVolume uid entries spec) world := by
  obtain ⟨claim, present, names⟩ := refers
  intro reached _ coherent current
  obtain ⟨kept, after⟩ := execute_quiet outside
    (.store (.upsert none pvResource none ("pvc-" ++ uid)
      (.dict [("name", .str ("pvc-" ++ uid)), ("annotations", .dict entries)])
      (.dict spec) (.dict [("phase", .str "Available")])))
    ⟨by simp [pvResource, pvcResource], fun _ => ⟨rfl, rfl⟩⟩ reached coherent current
  refine ⟨kept, after, fun pv made => ?_⟩
  obtain rfl := Option.some.inj made
  have found : (Json.dict spec).item "claimRef" = .dict claim := by
    simp [Dict.get, present]
  refine ⟨conflicts_of_matches ?_, fun other named => ?_⟩
  · exact (pvClaimRefMatches_iff _ _).mpr ⟨claim, found, names⟩
  · refine ⟨_, (ObjectStore.row?_upsert ..).trans (if_pos rfl), ?_⟩
    exact matches_congr _ _ _ rfl named

theorem safe_existingOr
    (pvc : K8sObject) (make : String → StorageProgram (Option K8sObject))
    (made : ∀ uid reached, Safe (binding outside) (Found pvc) (make uid) reached) :
    Safe (binding outside) (Found pvc) (existingOr pvc make) world := by
  unfold existingOr
  split
  · exact safe_giveUp ..
  · exact safe_giveUp ..
  · refine Safe.andThen (safe_getVolume _) ?_
    rintro (_ | existing) reached read
    · exact made _ reached
    · refine Safe.ofOption_andThen fun conflicts tested =>
        Safe.ite (fun _ => safe_giveUp ..) fun free pv present => ?_
      obtain rfl := Option.some.inj present
      exact ⟨by simpa [free] using tested, (read _ rfl).2⟩

/-- The last part of a provisioner: the spec is made and stored. -/
theorem safe_newVolume
    (pvc sc : K8sObject) (modes : List Json) (mode : Json) (defaultPolicy uid : String)
    (source : String × Json) (entries : Dict) (place : Dict → Dict)
    (keeps : ∀ spec value, Dict.find? spec "claimRef" = some value →
      Dict.find? (place spec) "claimRef" = some value) :
    Safe (binding outside) (Found pvc)
      ((ofOption (newVolumeSpec pvc sc modes mode defaultPolicy source)).andThen
        fun spec => createVolume uid entries (place spec)) world := by
  refine Safe.ofOption_andThen fun spec made => safe_createVolume pvc uid _ _ ?_
  obtain ⟨claim, present, names⟩ := newVolumeSpec_claimRef made
  exact ⟨claim, keeps spec _ present, names⟩

theorem safe_provisionNfs
    (controller : StorageController) (pvc sc : K8sObject) (sourceInfo : Option SourceInfo) :
    Safe (binding outside) (Found pvc) (provisionNfs controller pvc sc sourceInfo) world := by
  refine Safe.ofOption_andThen fun volumeMode _ =>
    Safe.ite (fun _ => safe_giveUp ..) fun _ =>
      safe_existingOr pvc _ fun uid reached =>
        Safe.ite (fun _ => safe_giveUp ..) fun _ =>
          Safe.ite (fun _ => ?_) fun _ => ?_
  · refine Safe.ofOption_andThen fun hostRoot _ =>
      safe_quiet_andThen (quiet_call _) fun _ _ =>
        Safe.ite (fun _ => safe_giveUp ..) fun _ =>
          safe_quiet_andThen (quiet_call _) fun _ reached =>
            Safe.ite (fun _ => trivial) fun _ => ?_
    cases sourceInfo with
    | none =>
        exact Safe.ofOption_andThen fun modes _ =>
          safe_newVolume pvc sc modes _ _ uid _ _ id fun _ _ => id
    | some info =>
        exact safe_quiet_andThen (quiet_restoreInto ..) fun _ reached =>
          Safe.ite (fun _ => Safe.ofOption_andThen fun modes _ =>
              safe_newVolume pvc sc modes _ _ uid _ _ id fun _ _ => id)
            fun _ => found_none pvc reached
  · cases sourceInfo with
    | none =>
        exact Safe.ofOption_andThen fun modes _ =>
          safe_newVolume pvc sc modes _ _ uid _ _ id fun _ _ => id
    | some info =>
        exact safe_quiet_andThen (quiet_recordPvcEvent ..) fun _ reached =>
          Safe.ofOption_andThen fun modes _ =>
            safe_newVolume pvc sc modes _ _ uid _ _ id fun _ _ => id

theorem safe_provisionLocalPath
    (controller : StorageController) (pvc sc : K8sObject) (selected : Option String)
    (sourceInfo : Option SourceInfo) :
    Safe (binding outside) (Found pvc)
      (provisionLocalPath controller pvc sc selected sourceInfo) world := by
  refine Safe.ofOption_andThen fun bindingMode _ =>
    Safe.ite (fun _ => found_none pvc world) fun _ =>
      Safe.ofOption_andThen fun rawMode _ =>
        Safe.ite (fun _ => safe_giveUp ..) fun _ =>
          safe_existingOr pvc _ fun uid reached =>
            Safe.ofOption_andThen fun hostRoot _ =>
              safe_quiet_andThen (quiet_call _) fun _ _ =>
                Safe.ite (fun _ => safe_giveUp ..) fun _ =>
                  safe_quiet_andThen (quiet_prepareLocalPath ..) ?_
  rintro (_ | message) reached
  · cases sourceInfo with
    | none =>
        exact Safe.ofOption_andThen fun modes _ =>
          safe_newVolume pvc sc modes _ _ uid _ _ (withNodeAffinity selected)
            fun _ _ => withNodeAffinity_claimRef
    | some info =>
        exact Safe.ite (fun _ => safe_giveUp ..) fun _ =>
          safe_quiet_andThen (quiet_restoreInto ..) fun _ reached =>
            Safe.ite (fun _ => Safe.ofOption_andThen fun modes _ =>
                safe_newVolume pvc sc modes _ _ uid _ _ (withNodeAffinity selected)
                  fun _ _ => withNodeAffinity_claimRef)
              fun _ => found_none pvc reached
  · exact safe_giveUp ..

theorem safe_provisionCsi
    (controller : StorageController) (pvc sc : K8sObject) (entry : StorageProvisionerConfig)
    (sourceInfo : Option SourceInfo) :
    Safe (binding outside) (Found pvc)
      (provisionCsi controller pvc sc entry sourceInfo) world := by
  cases sourceInfo with
  | some info =>
      exact Safe.ite (fun _ => safe_giveUp ..) fun _ => safe_giveUp ..
  | none =>
      refine safe_existingOr pvc _ fun uid reached =>
        Safe.ofOption_andThen fun asked _ =>
          Safe.ofOption_andThen fun rawMode _ =>
            Safe.ite (fun _ => safe_giveUp ..) fun _ =>
              Safe.ite (fun _ => safe_giveUp ..) fun _ =>
                safe_quiet_andThen (quiet_csiSecretFromParams ..) ?_
      rintro ⟨reference, secret⟩ reached
      refine Safe.ite (fun _ => safe_giveUp ..) fun _ =>
        safe_quiet_andThen (quiet_call _) fun created reached => ?_
      rcases created with code | _ | volume
      · exact Safe.ite (fun _ => safe_giveUp ..) fun _ => safe_giveUp ..
      · exact safe_giveUp ..
      · refine Safe.ite (fun _ => safe_giveUp ..) fun _ =>
          safe_quiet_andThen (quiet_csiVolumeSecrets _) ?_
        rintro (key | references) reached
        · exact safe_giveUp ..
        · exact safe_newVolume pvc sc _ _ _ uid _ _ id fun _ _ => id

theorem safe_maybeProvision (controller : StorageController) (pvc : K8sObject) :
    Safe (binding outside) (Found pvc) (maybeProvision controller pvc) world := by
  refine Safe.ofOption_andThen fun sc _ => ?_
  split
  · exact found_none pvc world
  · exact found_none pvc world
  · refine safe_quiet_andThen (quiet_storeGet ..) ?_
    rintro (_ | sc) reached
    · exact found_none pvc reached
    · refine safe_quiet_andThen (quiet_restoreSourceForPvc ..) ?_
      rintro ⟨sourceInfo, blocked⟩ reached
      refine Safe.ite (fun _ => found_none pvc reached) fun _ =>
        Safe.ofOption_andThen fun bindingMode _ =>
          Safe.ite (fun _ => safe_giveUp ..) fun _ =>
            Safe.ofOption_andThen fun rawProvisioner _ =>
              Safe.ite (fun _ => safe_provisionNfs ..) fun _ =>
                Safe.ite (fun _ => safe_provisionLocalPath ..) fun _ => ?_
      dsimp only
      split
      · exact Safe.ite (fun _ => safe_giveUp ..) fun _ => safe_provisionCsi ..
      · exact Safe.ite (fun _ => safe_giveUp ..) fun _ => found_none pvc reached

theorem safe_matchOrProvision (controller : StorageController) (pvc : K8sObject) :
    Safe (binding outside) (Found pvc) (matchOrProvision controller pvc) world := by
  refine Safe.andThen (safe_matchPvForPvc controller pvc) ?_
  rintro (_ | pv) reached ready
  · exact safe_maybeProvision controller pvc
  · exact ready

/-! ## Binding -/

theorem names_setClaimRef
    {uid : Json} (claim : Dict) (readUid : pvc.metadata.lookup "uid" = some uid) :
    Names (setClaimRef claim pvc uid) pvc := by
  by_cases given : uid.truthy = true
  · refine ⟨?_, ?_, uid, readUid, ?_⟩ <;>
      simp [setClaimRef, given, Dict.get_set, uidsDiffer]
  · refine ⟨?_, ?_, uid, readUid, ?_⟩ <;>
      simp [setClaimRef, given, Dict.get_set, uidsDiffer]

variable {changed : Bool} {volume : Content}

/-- The reference of a volume that `_bind` writes: it stays as it is when it
names the claim, and otherwise it is set. -/
theorem boundVolume_claimRef (target : boundVolume pvc pv = some (volume, changed)) :
    (pvClaimRefMatches pv pvc = some true ∧
        Dict.get volume.spec "claimRef" = pv.spec.item "claimRef") ∨
      (pvClaimRefMatches pv pvc = some false ∧
        ∃ claim, Dict.get volume.spec "claimRef" = .dict claim ∧ Names claim pvc) := by
  obtain ⟨spec, readSpec, afterSpec⟩ := Option.bind_eq_some_iff.mp target
  obtain ⟨status, _, afterStatus⟩ := Option.bind_eq_some_iff.mp afterSpec
  obtain ⟨⟨metadata, added⟩, _, afterMeta⟩ := Option.bind_eq_some_iff.mp afterStatus
  obtain ⟨claim, _, afterClaim⟩ := Option.bind_eq_some_iff.mp afterMeta
  obtain ⟨named, tested, afterTest⟩ := Option.bind_eq_some_iff.mp afterClaim
  obtain ⟨uid, readUid, equal⟩ := Option.map_eq_some_iff.mp afterTest
  simp only [Prod.mk.injEq] at equal
  obtain ⟨rfl, rfl⟩ := equal
  cases named with
  | true => exact .inl ⟨tested, Json.get_of_asDict readSpec "claimRef"⟩
  | false =>
      exact .inr ⟨tested, setClaimRef claim pvc uid, Dict.get_set_self _ _ _,
        names_setClaimRef claim readUid⟩

/-- The reference that `_bind` writes names the claim. -/
theorem boundVolume_names (target : boundVolume pvc pv = some (volume, changed)) :
    ∃ claim, Dict.get volume.spec "claimRef" = .dict claim ∧ Names claim pvc := by
  rcases boundVolume_claimRef target with ⟨named, same⟩ | ⟨_, set⟩
  · rw [same]
    exact (pvClaimRefMatches_iff pv pvc).mp named
  · exact set

/-- `_bind` keeps a reference that is set. -/
theorem boundVolume_kept
    (free : pvClaimRefConflicts pv pvc = some false)
    (target : boundVolume pvc pv = some (volume, changed))
    (present : (pv.spec.item "claimRef").truthy = true) :
    Dict.get volume.spec "claimRef" = pv.spec.item "claimRef" := by
  rcases boundVolume_claimRef target with ⟨_, same⟩ | ⟨differs, _⟩
  · exact same
  · rcases matches_or_unclaimed free with named | unclaimed
    · simp [named] at differs
    · simp [present] at unclaimed

/-- The current write of a volume, whose reference stays or was not set. -/
theorem safe_writePv
    (pv : K8sObject) (metadata spec status : Json)
    (same : (pv.spec.item "claimRef").truthy = true →
      spec.item "claimRef" = pv.spec.item "claimRef") :
    Safe (binding outside) (fun _ reached => ∀ pvc, (∃ claim, spec.item "claimRef" = .dict claim ∧
        Names claim pvc) → Claimed reached.store pv.name pvc)
      (writePv pv metadata spec status) world := by
  intro reached _ coherent current
  have unchanged := current rfl
  have kept := write_volume pv.name metadata spec status coherent (by
    intro row stored present
    simp only [pvKey] at stored
    simp only [stored, Unchanged] at unchanged
    rw [unchanged.2.1] at present ⊢
    exact same present)
  refine ⟨kept.1, kept.2, ?_⟩
  rintro pvc ⟨claim, found, names⟩
  exact ⟨_, (ObjectStore.row?_upsert ..).trans (if_pos rfl),
    (pvClaimRefMatches_iff _ _).mpr ⟨claim, found, names⟩⟩

variable {metadata status : Json}

/-- The write of a claim, as bound to a volume that it claims. -/
theorem safe_writePvc
    {metadata spec status : Json} (sameUid : metadata.lookup "uid" = pvc.metadata.lookup "uid")
    (bound : (status.or (.dict [])).item "phase" = .str "Bound" →
      (spec.item "volumeName").truthy = true →
      ∃ name, (spec.item "volumeName").sqlText = some (some name) ∧ Claimed world.store name pvc) :
    Safe (binding outside) (fun _ _ => True) (writePvc pvc metadata spec status) world := by
  intro reached later coherent _
  have kept := write_claim pvc metadata spec status coherent sameUid (by
    intro phase present
    obtain ⟨name, text, claimed⟩ := bound phase present
    exact ⟨name, text, claimed.kept later⟩)
  exact ⟨kept.1, kept.2, trivial⟩

/-- Adding a finalizer does not touch the uid. -/
theorem ensureFinalizer_uid
    {finalizer : String} {entries : Dict}
    (ensured : ensureFinalizer metadata finalizer = some (entries, changed)) :
    (Json.dict entries).lookup "uid" = metadata.lookup "uid" := by
  obtain ⟨old, read, afterRead⟩ := Option.bind_eq_some_iff.mp ensured
  obtain ⟨finalizers, _, equal⟩ := Option.map_eq_some_iff.mp afterRead
  rw [Json.lookup_of_asDict read, Json.lookup_dict]
  split at equal <;> simp only [Prod.mk.injEq] at equal <;> obtain ⟨rfl, rfl⟩ := equal
  · rfl
  · rw [Dict.get_set_of_ne _ _ (by decide)]

variable {controller : StorageController}

/-- The claim that `_bind` writes has its uid and the name of the volume. -/
theorem boundClaim_spec
    {claim : Content} (target : boundClaim controller pvc pv = some (claim, changed)) :
    (Json.dict claim.metadata).lookup "uid" = pvc.metadata.lookup "uid" ∧
      Dict.get claim.spec "volumeName" = .str pv.name := by
  obtain ⟨spec, _, afterSpec⟩ := Option.bind_eq_some_iff.mp target
  obtain ⟨status, _, afterStatus⟩ := Option.bind_eq_some_iff.mp afterSpec
  obtain ⟨pvSpec, _, afterPv⟩ := Option.bind_eq_some_iff.mp afterStatus
  obtain ⟨⟨metadata, added⟩, ensured, equal⟩ := Option.map_eq_some_iff.mp afterPv
  simp only [Prod.mk.injEq] at equal
  obtain ⟨rfl, rfl⟩ := equal
  refine ⟨ensureFinalizer_uid ensured, ?_⟩
  dsimp only
  split
  · split
    · simp
    · rw [Dict.get_set_of_ne _ _ (by decide)]
      simp
  · simp

theorem safe_bindVolume
    (ready : Ready world.store pvc pv) (target : boundVolume pvc pv = some (volume, changed)) :
    Safe (binding outside) (fun _ reached => Claimed reached.store pv.name pvc)
      (bindVolume pv volume changed) world := by
  refine Safe.ite (fun _ => ?_) fun upToDate => ?_
  · exact (safe_writePv pv _ (.dict volume.spec) _ fun present =>
      boundVolume_kept ready.free target present).weaken
        fun _ _ claims => claims pvc (boundVolume_names target)
  · -- Nothing is written: the copy had the reference, and so has the store.
    simp only [Bool.or_eq_true, Bool.not_eq_eq_eq_not, Bool.not_true, not_or,
      Bool.not_eq_false, bindingUpToDate, decide_eq_true_eq] at upToDate
    obtain ⟨claim, found, names⟩ := boundVolume_names target
    refine ready.held pvc ((pvClaimRefMatches_iff pv pvc).mpr ⟨claim, ?_, names⟩)
    rw [upToDate.1.2.1]
    exact found

theorem safe_bind (ready : Ready world.store pvc pv) :
    Safe (binding outside) (fun _ reached => Claimed reached.store pv.name pvc)
      (bind controller pvc pv) world := by
  refine Safe.ofOption_andThen fun ⟨claim, claimChanged⟩ claimTarget =>
    Safe.ofOption_andThen fun ⟨volume, volumeChanged⟩ volumeTarget =>
      Safe.andThen (safe_bindVolume ready volumeTarget) fun _ reached claimed => ?_
  refine Safe.ite (fun _ => ?_) fun _ => claimed
  obtain ⟨sameUid, volumeName⟩ := boundClaim_spec claimTarget
  refine ((safe_writePvc sameUid fun _ _ => ⟨pv.name, ?_, claimed⟩).frame claimed
    fun _ _ kept before => before.kept kept).weaken fun _ _ post => post.2
  simp [volumeName, Json.sqlText]

/-! ## Phases and expansion -/

theorem safe_ensurePending (pvc : K8sObject) :
    Safe (binding outside) (fun _ _ => True) (ensurePvcPhase pvc "Pending")
      world := by
  refine Safe.ofOption_andThen fun status _ =>
    Safe.ite (fun _ => trivial) fun _ => safe_writePvc rfl fun phase => ?_
  simp at phase

/-- A claim names the volume, or none at all. -/
def Aims (pvc pv : K8sObject) : Prop :=
  (pvc.spec.item "volumeName").truthy = true →
    (pvc.spec.item "volumeName").sqlText = some (some pv.name)

theorem safe_writeAiming
    (aims : Aims pvc pv) (readSpec : pvc.spec.asDict = some spec)
    (claimed : Claimed world.store pv.name pvc) :
    Safe (binding outside) (fun _ _ => True)
      (writePvc pvc pvc.metadata (.dict spec) status) world := by
  refine safe_writePvc rfl fun _ present => ⟨pv.name, ?_, claimed⟩
  simp only [Json.item_dict, Json.get_of_asDict readSpec] at present ⊢
  exact aims present

variable {conditions : List Json}

theorem safe_refuseExpansion
    {spec status : Dict} {reason message : String} (aims : Aims pvc pv)
    (readSpec : pvc.spec.asDict = some spec) (claimed : Claimed world.store pv.name pvc) :
    Safe (binding outside) (fun _ _ => True)
      (refuseExpansion pvc spec status conditions reason message) world := by
  refine Safe.andThen (safe_quiet (fun store => Claimed store pv.name pvc)
    (quiet_recordPvcEvent ..) (fun _ _ kept before => before.kept kept) claimed)
      fun _ _ claimed => ?_
  refine Safe.andThen (safe_quiet (fun store => Claimed store pv.name pvc)
    (quiet_call _) (fun _ _ kept before => before.kept kept) claimed)
      fun _ _ claimed => ?_
  exact safe_writeAiming aims readSpec claimed

-- Its programs are long: the steps are matched without unfolding them.
attribute [local irreducible] Safe in
theorem safe_expandVolume
    {pvcSpec pvcStatus pvSpec capacity : Dict} {requested : String} (aims : Aims pvc pv)
    (readSpec : pvc.spec.asDict = some pvcSpec) (readPvSpec : pv.spec.asDict = some pvSpec)
    (claimed : Claimed world.store pv.name pvc) :
    Safe (binding outside) (fun _ _ => True)
      (expandVolume controller pvc pv pvcSpec pvcStatus pvSpec capacity conditions
        requested) world := by
  have keeps : ∀ first second, ClaimsKept first second →
      Claimed first pv.name pvc → Claimed second pv.name pvc :=
    fun _ _ kept before => before.kept kept
  refine Safe.andThen (safe_quiet (fun store => Claimed store pv.name pvc)
    (quiet_call _) keeps claimed) fun _ _ claimed => ?_
  refine Safe.ofOption_andThen fun pvStatus _ => ?_
  refine Safe.andThen ((safe_writePv pv _ _ _ fun _ => ?_).frame claimed
    fun _ _ => keeps _ _) fun _ _ post => ?_
  · rw [Json.item_dict, Dict.get_set_of_ne _ _ (by decide),
      Json.get_of_asDict readPvSpec]
  refine Safe.andThen (safe_quiet (fun store => Claimed store pv.name pvc)
    (quiet_call _) keeps post.2) fun _ _ claimed => ?_
  refine Safe.andThen (safe_quiet (fun store => Claimed store pv.name pvc)
    (quiet_fsResizeConditions ..) keeps claimed) fun _ _ claimed => ?_
  refine Safe.andThen (safe_writeAiming aims readSpec claimed) fun _ _ _ => ?_
  exact safe_quiet (fun _ => True) (quiet_recordPvcEvent ..) (fun _ _ _ _ => trivial) trivial

theorem safe_maybeExpandBoundVolume
    (aims : Aims pvc pv) (claimed : Claimed world.store pv.name pvc) :
    Safe (binding outside) (fun _ _ => True) (maybeExpandBoundVolume controller pvc pv) world := by
  have keeps : ∀ first second, ClaimsKept first second →
      Claimed first pv.name pvc → Claimed second pv.name pvc :=
    fun _ _ kept before => before.kept kept
  unfold maybeExpandBoundVolume
  split
  · trivial
  · refine Safe.ofOption_andThen fun pvSpec readPvSpec => ?_
    dsimp only
    split
    · refine Safe.ite (fun _ => trivial) fun _ =>
        Safe.ofOption_andThen fun pvcSpec readSpec =>
          Safe.ofOption_andThen fun pvcStatus _ =>
            Safe.ofOption_andThen fun conditions _ => ?_
      refine Safe.andThen (safe_quiet (fun store => Claimed store pv.name pvc)
        (quiet_quotaAllowsExpansion ..) keeps claimed) fun _ _ claimed => ?_
      refine Safe.ite (fun _ => safe_refuseExpansion aims readSpec claimed)
        fun _ => ?_
      refine Safe.andThen (safe_quiet (fun store => Claimed store pv.name pvc)
        (quiet_storageClassAllowsExpansion ..) keeps claimed) fun _ _ claimed => ?_
      exact Safe.ite (fun _ => safe_refuseExpansion aims readSpec claimed)
        fun _ => safe_expandVolume aims readSpec readPvSpec claimed
    · trivial

/-! ## Whole calls -/

theorem safe_reconcileNamedVolume
    (controller : StorageController) (pvc : K8sObject) (pvName : Json)
    (read : pvc.spec.lookup "volumeName" = some pvName) :
    Safe (binding outside) (fun _ _ => True)
      (reconcileNamedVolume controller pvc pvName) world := by
  have report : ∀ reason message reached, Safe (binding outside) (fun _ _ => True)
      ((ensurePvcPhase pvc "Pending").andThen fun _ =>
        recordPvcEvent pvc reason message) reached := fun reason message reached =>
    Safe.andThen (safe_ensurePending pvc) fun _ _ _ =>
      safe_quiet (fun _ => True) (quiet_recordPvcEvent ..) (fun _ _ _ _ => trivial) trivial
  refine Safe.andThen (safe_getVolumeNamed pvName) ?_
  rintro (_ | pv) reached volume
  · exact report ..
  · obtain ⟨text, held⟩ := volume pv rfl
    refine Safe.ofOption_andThen ?_
    rintro (_ | phase) _
    · refine Safe.ofOption_andThen fun conflicts tested =>
        Safe.ite (fun _ => report ..) fun free => ?_
      have ready : Ready reached.store pvc pv :=
        ⟨by simpa [free] using tested, held⟩
      refine Safe.andThen (safe_bind ready) fun _ _ claimed => ?_
      refine Safe.andThen (safe_quiet (fun store => Claimed store pv.name pvc)
        (quiet_reconcileCsiAttachment ..)
        (fun _ _ kept before => before.kept kept) claimed) fun _ _ claimed => ?_
      refine safe_maybeExpandBoundVolume (fun _ => ?_) claimed
      rw [Json.item_of_lookup read, text]
    · exact report ..

theorem quiet_pvcIsBound (pvc : K8sObject) : (pvcIsBound pvc).Uses Quiet := by
  refine Uses.andThen (Uses.ofOption _) fun _ => Uses.ite trivial
    (Uses.andThen (Uses.ofOption _) fun _ => Uses.ite trivial
      (Uses.andThen (quiet_storeGetNamed ..) ?_))
  rintro (_ | pv)
  · trivial
  · exact Uses.andThen (Uses.ofOption _) fun _ => Uses.ite trivial
      (Uses.andThen (Uses.ofOption _) fun _ => trivial)

theorem safe_reconcilePvc (controller : StorageController) (pvc : K8sObject) :
    Safe (binding outside) (fun _ _ => True) (reconcilePvc controller pvc)
      world := by
  refine Safe.ofOption_andThen fun pvName read =>
    Safe.ite (fun _ => safe_reconcileNamedVolume controller pvc pvName read)
      fun unnamed => safe_quiet_andThen (quiet_pvcIsBound pvc) fun bound reached =>
        Safe.ite (fun _ => trivial) fun _ =>
          safe_quiet_andThen (quiet_quotaAllowsPvc controller pvc) fun _ reached =>
            Safe.ite (fun _ => safe_ensurePending pvc) fun _ =>
              Safe.andThen (safe_matchOrProvision controller pvc) ?_
  rintro (_ | pv) reached ready
  · exact safe_ensurePending pvc
  · refine Safe.andThen (safe_bind (ready pv rfl)) fun _ _ claimed => ?_
    refine safe_maybeExpandBoundVolume (fun present => ?_) claimed
    rw [Json.item_of_lookup read] at present
    exact absurd present unnamed

end Safety

/-! ## Runs -/

/-- Any number of calls of `_reconcile_pvc`, each on the copy of a claim. -/
def reconcileStep (controller : StorageController) (outside : Outside) :
    Pool World StorageOp StorageOp.Reply Unit → PoolAction K8sObject →
      Option (Pool World StorageOp StorageOp.Reply Unit) :=
  Pool.step (StorageOp.execute outside) (reconcilePvc controller)

/-- The thread that goes on does not write a volume from an outdated copy. -/
def CurrentStep (pool : Pool World StorageOp StorageOp.Reply Unit) :
    PoolAction K8sObject → Prop
  | .start _ _ => True
  | .advance thread =>
      ∀ operation, pool.pending thread = some operation → CurrentVolume pool.state operation

instance
    (pool : Pool World StorageOp StorageOp.Reply Unit) (action : PoolAction K8sObject) :
    Decidable (CurrentStep pool action) :=
  match action with
  | .start _ _ => inferInstanceAs (Decidable True)
  | .advance thread =>
      match waiting : pool.pending thread with
      | none => isTrue (by simp [CurrentStep, waiting])
      | some operation =>
          decidable_of_iff (CurrentVolume pool.state operation) (by simp [CurrentStep, waiting])

/-- Bindings stay exclusive along every run in which no volume is written from
an outdated copy. -/
theorem exclusive_of_currentStep
    (controller : StorageController) (outside : Outside) (world : World)
    (actions : List (PoolAction K8sObject)) (reached : Pool World StorageOp StorageOp.Reply Unit)
    (clusterScoped : VolumesClusterScoped world.store) (initial : Exclusive world.store)
    (current : Machine.Along (reconcileStep controller outside) CurrentStep
      (Pool.idle world) actions)
    (ran : Machine.run (reconcileStep controller outside) (Pool.idle world)
      actions = some reached) :
    Exclusive reached.state.store := by
  have permitted : Machine.Along (reconcileStep controller outside)
      (Pool.Permitted (binding outside)) (Pool.idle world) actions :=
    current.weaken fun pool action holds => by
      cases action with
      | start thread call => trivial
      | advance thread => exact holds
  have coherent : Coherent reached.state.store :=
    Pool.invariant_of_run (fun pvc _ _ => safe_reconcilePvc controller pvc)
      ⟨clusterScoped, initial.claimed⟩ permitted ran
  exact coherent.exclusive

/-! ## Two claims and one volume -/

theorem exclusive_of_unbound
    (store : ObjectStore) (unbound : ∀ entry ∈ store.rows.toList, boundTo entry.2 = none) :
    Exclusive store := by
  have none_bound : ∀ key row volume, store.row? key = some row → boundTo row ≠ some volume := by
    intro key row volume stored bound
    have listed := unbound (key, row) (Std.TreeMap.mem_toList_iff_getElem?_eq_some.mpr stored)
    simp [bound] at listed
  constructor
  · intro first second firstRow secondRow volume _ _ stored _ bound
    exact absurd bound (none_bound first firstRow volume stored)
  · intro key row volume _ stored bound
    exact absurd bound (none_bound key row volume stored)

theorem volumesClusterScoped_of_rows
    (store : ObjectStore)
    (rows : ∀ entry ∈ store.rows.toList, entry.1.gvr = pvResource → entry.1.ns = "") :
    VolumesClusterScoped store := by
  intro key kind present
  obtain ⟨row, stored⟩ := Option.isSome_iff_exists.mp present
  exact rows (key, row) (Std.TreeMap.mem_toList_iff_getElem?_eq_some.mpr stored) kind

def freshClaim (name uid : String) (version : Nat) : K8sObject where
  gvr := pvcResource
  ns := some "default"
  name := name
  metadata := .dict [("name", .str name), ("uid", .str uid)]
  spec := .dict []
  status := .dict []
  resourceVersion := version

/-- The store after a volume and two claims were created. -/
def oneVolume : ObjectStore :=
  let store := (ObjectStore.empty.upsert pvResource none "pv1"
    (.dict [("name", .str "pv1")]) (.dict []) (.dict [])).2
  let store := (store.upsert pvcResource (some "default") "a"
    (freshClaim "a" "uid-a" 2).metadata (.dict []) (.dict [])).2
  (store.upsert pvcResource (some "default") "b"
    (freshClaim "b" "uid-b" 3).metadata (.dict []) (.dict [])).2

/-- One claim is reconciled after the other. -/
def inTurn : List (PoolAction K8sObject) :=
  [.start 0 (freshClaim "a" "uid-a" 2), .advance 0, .advance 0, .advance 0,
    .advance 0, .start 1 (freshClaim "b" "uid-b" 3), .advance 1, .advance 1,
    .advance 1]

theorem exclusive_inTurn :
    ∃ reached, Machine.run (reconcileStep plainController plainOutside)
        (Pool.idle ⟨oneVolume, []⟩) inTurn = some reached ∧
      Exclusive reached.state.store := by
  have finished : (Machine.run (reconcileStep plainController plainOutside)
      (Pool.idle ⟨oneVolume, []⟩) inTurn).isSome := by decide +kernel
  obtain ⟨reached, ran⟩ := Option.isSome_iff_exists.mp finished
  exact ⟨reached, ran, exclusive_of_currentStep plainController plainOutside
    ⟨oneVolume, []⟩ inTurn reached
    (volumesClusterScoped_of_rows oneVolume (by decide +kernel))
    (exclusive_of_unbound oneVolume (by decide +kernel)) (by decide +kernel) ran⟩

def promisedVolume : ObjectStore :=
  (oneVolume.upsert pvResource none "pv1" (.dict [("name", .str "pv1")])
    (.dict [("claimRef", .dict ((claimRefFor (freshClaim "a" "uid-a" 2)).getD []))])
    (.dict [])).2

/-- Along such a run a volume that is promised to a claim stays promised to it. -/
theorem claims_kept_of_currentStep
    (controller : StorageController) (outside : Outside) (world : World)
    (actions : List (PoolAction K8sObject)) (reached : Pool World StorageOp StorageOp.Reply Unit)
    (clusterScoped : VolumesClusterScoped world.store) (initial : Exclusive world.store)
    (current : Machine.Along (reconcileStep controller outside) CurrentStep
      (Pool.idle world) actions)
    (ran : Machine.run (reconcileStep controller outside) (Pool.idle world)
      actions = some reached) (volume : String) (pvc : K8sObject)
    (claimed : Claimed world.store volume pvc) : Claimed reached.state.store volume pvc := by
  have permitted : Machine.Along (reconcileStep controller outside)
      (Pool.Permitted (binding outside)) (Pool.idle world) actions :=
    current.weaken fun pool action holds => by
      cases action with
      | start thread call => trivial
      | advance thread => exact holds
  exact claimed.kept (Pool.later_of_run (fun pvc _ _ => safe_reconcilePvc controller pvc)
    ⟨clusterScoped, initial.claimed⟩ permitted ran)

/-- The volume is promised to the first claim, and the second one is reconciled. -/
theorem claims_kept_promised :
    ∃ reached, Machine.run (reconcileStep plainController plainOutside)
        (Pool.idle ⟨promisedVolume, []⟩) (.start 0 (freshClaim "b" "uid-b" 3) ::
          [.advance 0, .advance 0, .advance 0]) = some reached ∧
      Claimed reached.state.store "pv1" (freshClaim "a" "uid-a" 2) := by
  have finished : (Machine.run (reconcileStep plainController plainOutside)
      (Pool.idle ⟨promisedVolume, []⟩) (.start 0 (freshClaim "b" "uid-b" 3) ::
        [.advance 0, .advance 0, .advance 0])).isSome := by decide +kernel
  have claimed : Claimed promisedVolume "pv1" (freshClaim "a" "uid-a" 2) :=
    Option.map_eq_some_iff.mp (show (promisedVolume.row? (pvKey "pv1")).map (fun row =>
      pvClaimRefMatches (row.object (pvKey "pv1")) (freshClaim "a" "uid-a" 2)) =
        some (some true) by decide +kernel)
  obtain ⟨reached, ran⟩ := Option.isSome_iff_exists.mp finished
  exact ⟨reached, ran, claims_kept_of_currentStep plainController plainOutside
    ⟨promisedVolume, []⟩ _ reached
    (volumesClusterScoped_of_rows promisedVolume (by decide +kernel))
    (exclusive_of_unbound promisedVolume (by decide +kernel)) (by decide +kernel) ran _ _ claimed⟩

/-- Both claims look for a volume before either is bound. -/
def atOnce : List (PoolAction K8sObject) :=
  [.start 0 (freshClaim "a" "uid-a" 2), .start 1 (freshClaim "b" "uid-b" 3),
    .advance 0, .advance 0, .advance 1, .advance 1, .advance 0, .advance 0,
    .advance 1, .advance 1]

/-- Both claims end up bound to the volume. -/
theorem atOnce_not_exclusive :
    Exclusive oneVolume ∧ ¬ ∀ reached, Machine.run (reconcileStep plainController plainOutside)
          (Pool.idle ⟨oneVolume, []⟩) atOnce = some reached →
        Exclusive reached.state.store := by
  refine ⟨exclusive_of_unbound oneVolume (by decide +kernel), fun exclusive => ?_⟩
  have bindings : (Machine.run (reconcileStep plainController plainOutside)
      (Pool.idle ⟨oneVolume, []⟩) atOnce).map (fun pool =>
        ((pool.state.store.row? (pvcResource.key (some "default") "a")).map boundTo,
          (pool.state.store.row? (pvcResource.key (some "default") "b")).map boundTo)) =
      some (some (some (.str "pv1")), some (some (.str "pv1"))) := by decide +kernel
  obtain ⟨reached, ran, bound⟩ := Option.map_eq_some_iff.mp bindings
  obtain ⟨boundA, boundB⟩ := Prod.mk.inj bound
  obtain ⟨rowA, storedA, toA⟩ := Option.map_eq_some_iff.mp boundA
  obtain ⟨rowB, storedB, toB⟩ := Option.map_eq_some_iff.mp boundB
  have same := (exclusive reached ran).distinct _ _ rowA rowB (.str "pv1") rfl rfl
    storedA storedB toA toB
  exact absurd same (by decide)

end Storage
end K1s
