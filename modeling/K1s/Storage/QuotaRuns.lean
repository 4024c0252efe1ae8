import K1s.Storage.Quota

/-!
# Reconciliation within the quota

The reconciliation of a claim writes no other claim, and writes its own with the
size of the copy.  So the bound claims ask for what the others asked for at the
start of the call and for the size of this one, and the two checks against the
quota, where they are made, compare just this with the quota.
-/

namespace K1s
namespace Storage

open Py ApiShim Program

/-! ## Matching and provisioning -/

theorem quiet_findPreboundPv (pvc : K8sObject) : (findPreboundPv pvc).Uses Quiet :=
  Uses.andThen (quiet_storeListAll _) fun _ => Uses.ofOption _

theorem quiet_findAvailablePv (controller : StorageController) (pvc : K8sObject) :
    (findAvailablePv controller pvc).Uses Quiet :=
  Uses.andThen (Uses.ofOption _) fun _ => Uses.andThen (Uses.ofOption _) fun _ =>
    Uses.andThen (Uses.ofOption _) fun _ =>
      Uses.andThen (quiet_storeListAll _) fun _ => Uses.ofOption _

theorem quiet_matchPvForPvc (controller : StorageController) (pvc : K8sObject) :
    (matchPvForPvc controller pvc).Uses Quiet := by
  refine Uses.andThen (Uses.ofOption _) fun _ => Uses.ite
    (Uses.andThen (quiet_storeGetNamed ..) ?_) (Uses.andThen (quiet_findPreboundPv pvc) ?_)
  · rintro (_ | pv)
    · trivial
    · exact Uses.andThen (Uses.ofOption _) fun _ => trivial
  · rintro (_ | pv)
    · exact quiet_findAvailablePv controller pvc
    · trivial

theorem quiet_createVolume (uid : String) (entries spec : Dict) :
    (createVolume uid entries spec).Uses Quiet :=
  ⟨⟨by simp [pvResource, pvcResource], fun _ => ⟨rfl, rfl⟩⟩, fun _ => trivial⟩

theorem quiet_existingOr
    (pvc : K8sObject) (make : String → StorageProgram (Option K8sObject))
    (made : ∀ uid, (make uid).Uses Quiet) : (existingOr pvc make).Uses Quiet := by
  unfold existingOr
  split
  · exact quiet_giveUp ..
  · exact quiet_giveUp ..
  · refine Uses.andThen (quiet_storeGet ..) ?_
    rintro (_ | existing)
    · exact made _
    · exact Uses.andThen (Uses.ofOption _) fun _ => Uses.ite (quiet_giveUp ..) trivial

/-- The last part of a provisioner. -/
theorem quiet_newVolume
    (spec : Option Dict) (uid : String) (entries : Dict) (place : Dict → Dict) :
    ((ofOption spec).andThen fun spec =>
      createVolume uid entries (place spec)).Uses Quiet :=
  Uses.andThen (Uses.ofOption _) fun _ => quiet_createVolume ..

theorem quiet_provisionNfs
    (controller : StorageController) (pvc sc : K8sObject) (sourceInfo : Option SourceInfo) :
    (provisionNfs controller pvc sc sourceInfo).Uses Quiet := by
  refine Uses.andThen (Uses.ofOption _) fun _ => Uses.ite (quiet_giveUp ..)
    (quiet_existingOr pvc _ fun uid => Uses.ite (quiet_giveUp ..) (Uses.ite ?_ ?_))
  · refine Uses.andThen (Uses.ofOption _) fun hostRoot => Uses.andThen (quiet_call _) fun _ =>
      Uses.ite (quiet_giveUp ..) (Uses.andThen (quiet_call _) fun _ => Uses.ite trivial ?_)
    cases sourceInfo with
    | none => exact Uses.andThen (Uses.ofOption _) fun _ => quiet_newVolume _ uid _ id
    | some info =>
        exact Uses.andThen (quiet_restoreInto ..) fun _ => Uses.ite
          (Uses.andThen (Uses.ofOption _) fun _ => quiet_newVolume _ uid _ id) trivial
  · cases sourceInfo with
    | none => exact Uses.andThen (Uses.ofOption _) fun _ => quiet_newVolume _ uid _ id
    | some info =>
        exact Uses.andThen (quiet_recordPvcEvent ..) fun _ =>
          Uses.andThen (Uses.ofOption _) fun _ => quiet_newVolume _ uid _ id

theorem quiet_provisionLocalPath
    (controller : StorageController) (pvc sc : K8sObject) (selected : Option String)
    (sourceInfo : Option SourceInfo) :
    (provisionLocalPath controller pvc sc selected sourceInfo).Uses Quiet := by
  refine Uses.andThen (Uses.ofOption _) fun _ => Uses.ite trivial
    (Uses.andThen (Uses.ofOption _) fun _ => Uses.ite (quiet_giveUp ..)
      (quiet_existingOr pvc _ fun uid => Uses.andThen (Uses.ofOption _) fun hostRoot =>
        Uses.andThen (quiet_call _) fun _ => Uses.ite (quiet_giveUp ..)
          (Uses.andThen (quiet_prepareLocalPath ..) ?_)))
  rintro (_ | message)
  · cases sourceInfo with
    | none =>
        exact Uses.andThen (Uses.ofOption _) fun _ =>
          quiet_newVolume _ uid _ (withNodeAffinity selected)
    | some info =>
        exact Uses.ite (quiet_giveUp ..) (Uses.andThen (quiet_restoreInto ..) fun _ => Uses.ite
          (Uses.andThen (Uses.ofOption _) fun _ =>
            quiet_newVolume _ uid _ (withNodeAffinity selected)) trivial)
  · exact quiet_giveUp ..

theorem quiet_provisionCsi
    (controller : StorageController) (pvc sc : K8sObject) (entry : StorageProvisionerConfig)
    (sourceInfo : Option SourceInfo) :
    (provisionCsi controller pvc sc entry sourceInfo).Uses Quiet := by
  cases sourceInfo with
  | some info => exact Uses.ite (quiet_giveUp ..) (quiet_giveUp ..)
  | none =>
      refine quiet_existingOr pvc _ fun uid => Uses.andThen (Uses.ofOption _) fun asked =>
        Uses.andThen (Uses.ofOption _) fun _ => Uses.ite (quiet_giveUp ..)
          (Uses.ite (quiet_giveUp ..) (Uses.andThen (quiet_csiSecretFromParams ..) ?_))
      rintro ⟨reference, secret⟩
      refine Uses.ite (quiet_giveUp ..) (Uses.andThen (quiet_call _) fun created => ?_)
      rcases created with code | _ | volume
      · exact Uses.ite (quiet_giveUp ..) (quiet_giveUp ..)
      · exact quiet_giveUp ..
      · refine Uses.ite (quiet_giveUp ..) (Uses.andThen (quiet_csiVolumeSecrets _) ?_)
        rintro (key | references)
        · exact quiet_giveUp ..
        · exact quiet_newVolume _ uid _ id

theorem quiet_maybeProvision (controller : StorageController) (pvc : K8sObject) :
    (maybeProvision controller pvc).Uses Quiet := by
  refine Uses.andThen (Uses.ofOption _) fun sc => ?_
  split
  · trivial
  · trivial
  · refine Uses.andThen (quiet_storeGet ..) ?_
    rintro (_ | sc)
    · trivial
    · refine Uses.andThen (quiet_restoreSourceForPvc ..) ?_
      rintro ⟨sourceInfo, blocked⟩
      refine Uses.ite trivial (Uses.andThen (Uses.ofOption _) fun _ =>
        Uses.ite (quiet_giveUp ..) (Uses.andThen (Uses.ofOption _) fun _ =>
          Uses.ite (quiet_provisionNfs ..) (Uses.ite (quiet_provisionLocalPath ..) ?_)))
      dsimp only
      split
      · exact Uses.ite (quiet_giveUp ..) (quiet_provisionCsi ..)
      · exact Uses.ite (quiet_giveUp ..) trivial

theorem quiet_matchOrProvision (controller : StorageController) (pvc : K8sObject) :
    (matchOrProvision controller pvc).Uses Quiet := by
  refine Uses.andThen (quiet_matchPvForPvc controller pvc) ?_
  rintro (_ | pv)
  · exact quiet_maybeProvision controller pvc
  · trivial

/-! ## The course of one call -/

/-- What the claim takes of the quota when it is bound. -/
def ownSize (pvc : K8sObject) (ns : String) : ℚ :=
  if pvc.ns = some ns then kubeSize pvc else 0

def SameOthers (start store : ObjectStore) (pvc : K8sObject) : Prop :=
  ∀ key, key.gvr = pvcResource → key ≠ pvcKey pvc → store.row? key = start.row? key

def SameClaims (start store : ObjectStore) : Prop :=
  ∀ key, key.gvr = pvcResource → store.row? key = start.row? key

/-- The other claims are as at the start, and the claim itself is as at the
start or takes its size. -/
structure Settled (start : ObjectStore) (pvc : K8sObject) (ns : String) (world : World) :
    Prop where
  others : SameOthers start world.store pvc
  own : storedTakes world.store pvc ns = storedTakes start pvc ns ∨
    storedTakes world.store pvc ns = ownSize pvc ns

/-- What the other claims take, with the size of this one. -/
def total (start : ObjectStore) (pvc : K8sObject) (ns : String) : ℚ :=
  ((otherClaims start (pvcKey pvc)).map (takes ns)).sum + ownSize pvc ns

/-- There is room for the claim. -/
def HasRoom (start : ObjectStore) (pvc : K8sObject) (ns : String) (quota : ℚ) : Prop :=
  ownSize pvc ns ≤ storedTakes start pvc ns ∨ total start pvc ns ≤ quota

variable {world : World}

theorem SameClaims.settled
    {start : ObjectStore} (same : SameClaims start world.store) (pvc : K8sObject)
    (ns : String) : Settled start pvc ns world := by
  refine ⟨fun key kind _ => same key kind, .inl ?_⟩
  rw [storedTakes, storedTakes, same (pvcKey pvc) rfl]

variable {store : ObjectStore}

theorem SameOthers.sum_eq
    {start store : ObjectStore} {pvc : K8sObject} (same : SameOthers start store pvc)
    (ns : String) :
    ((otherClaims store (pvcKey pvc)).map (takes ns)).sum =
      ((otherClaims start (pvcKey pvc)).map (takes ns)).sum :=
  ((otherClaims_perm same).map (takes ns)).sum_eq

theorem SameOthers.counted
    {start store : ObjectStore} {pvc : K8sObject} {ns : String}
    (same : SameOthers start store pvc)
    (counted : OthersCounted start pvc ns) : OthersCounted store pvc ns :=
  fun other member => counted other ((otherClaims_perm same).mem_iff.mp member)

/-- The bound claims ask for no more than the total, unless the stored row of
the claim asks for more than the copy. -/
theorem Settled.boundRequests_le
    {start : ObjectStore} {pvc : K8sObject} {ns : String} (settled : Settled start pvc ns world)
    (current : storedTakes start pvc ns ≤ ownSize pvc ns) :
    boundRequests world.store ns ≤ total start pvc ns := by
  rw [boundRequests_eq world.store pvc ns, settled.others.sum_eq ns, total]
  rcases settled.own with own | own
  · rw [own]
    linarith
  · rw [own]

/-! ## One operation -/

section Operations

variable {outside : Outside} {start : ObjectStore} {pvc : K8sObject} {ns : String} {quota : ℚ}

variable {operation : StorageOp}

/-- A quiet operation leaves the claims alone. -/
theorem row?_execute_quiet
    (quiet : Quiet operation) (world : World) (key : ObjectKey) (kind : key.gvr = pvcResource) :
    (operation.execute outside world).2.store.row? key = world.store.row? key := by
  cases operation with
  | call request => rfl
  | store operation =>
      cases operation with
      | get | list | listAll => rfl
      | upsert basis gvr ns name metadata spec status =>
          rw [execute_store_store, StoreOp.execute, ObjectStore.row?_upsert, if_neg]
          rintro rfl
          exact quiet.1 kind
      | delete gvr ns name =>
          rw [execute_store_store, StoreOp.execute, ObjectStore.row?_delete, if_neg]
          rintro rfl
          exact quiet.1 kind

theorem not_expands_of_quiet {operation : StorageOp} (quiet : Quiet operation) :
    ¬ operation.Expands := by
  intro expands
  cases operation with
  | call request => exact expands
  | store operation =>
      cases operation with
      | get | list | listAll => exact expands
      | delete gvr ns name => exact expands
      | upsert basis gvr ns name metadata spec status =>
          cases basis with
          | none => exact expands
          | some pv =>
              have absent := (quiet.2 expands.1).1
              cases absent

theorem SameClaims.boundRequests_eq
    {first second : ObjectStore} (same : SameClaims first second)
    (ns : String) : boundRequests second ns = boundRequests first ns := by
  have listed : (second.listAll pvcResource).Perm (first.listAll pvcResource) := by
    refine (List.perm_ext_iff_of_nodup (nodup_listAll second pvcResource)
      (nodup_listAll first pvcResource)).mpr fun pvc => ?_
    rw [ObjectStore.mem_listAll, ObjectStore.mem_listAll]
    constructor
    · rintro ⟨key, row, stored, kind, rfl⟩
      exact ⟨key, row, same key kind ▸ stored, kind, rfl⟩
    · rintro ⟨key, row, stored, kind, rfl⟩
      exact ⟨key, row, (same key kind).symm ▸ stored, kind, rfl⟩
  exact (listed.map (takes ns)).sum_eq

/-- An operation that leaves all claims alone and expands nothing respects
every quota. -/
theorem respectsQuota_of_sameClaims
    (same : SameClaims world.store (operation.execute outside world).2.store)
    (keeps : ¬ operation.Expands) : RespectsQuota outside pvc ns quota world operation := by
  refine ⟨fun rises => absurd rises ?_, fun expands => absurd expands keeps⟩
  rw [same.boundRequests_eq ns]
  exact lt_irrefl _

variable {α : Type}

/-- Quiet programs before anything is written. -/
theorem checked_quiet_same
    {program : StorageProgram α} (uses : program.Uses Quiet)
    (same : SameClaims start world.store) :
    program.Checked (StorageOp.execute outside) (RespectsQuota outside pvc ns quota)
      (fun _ reached => SameClaims start reached.store) world := by
  refine uses.checked (fun operation quiet reached before => ⟨?_, ?_⟩) same
  · exact respectsQuota_of_sameClaims (row?_execute_quiet quiet reached)
      (not_expands_of_quiet quiet)
  · intro key kind
    rw [row?_execute_quiet quiet reached key kind]
    exact before key kind

theorem Settled.of_sameClaims
    {world after : World} (settled : Settled start pvc ns world)
    (same : SameClaims world.store after.store) : Settled start pvc ns after := by
  refine ⟨fun key kind different => ?_, ?_⟩
  · rw [same key kind]
    exact settled.others key kind different
  · rw [storedTakes, same (pvcKey pvc) rfl]
    exact settled.own

theorem checked_quiet
    {program : StorageProgram α} (uses : program.Uses Quiet)
    (settled : Settled start pvc ns world) :
    program.Checked (StorageOp.execute outside) (RespectsQuota outside pvc ns quota)
      (fun _ => Settled start pvc ns) world := by
  refine uses.checked (fun operation quiet reached before => ⟨?_, ?_⟩) settled
  · exact respectsQuota_of_sameClaims (row?_execute_quiet quiet reached)
      (not_expands_of_quiet quiet)
  · exact before.of_sameClaims (row?_execute_quiet quiet reached)

/-- A spec that asks for the same storage as the copy of the claim. -/
def SameRequest (pvc : K8sObject) (spec : Json) : Prop :=
  (spec.or (.dict [])).item "resources" = (pvc.spec.or (.dict [])).item "resources"

/-- The claim as it is written takes its size if its phase is `Bound`. -/
theorem takes_written
    (nonempty : ns ≠ "") {row : ObjectRow} (same : SameRequest pvc row.spec) :
    takes ns (row.object (pvcKey pvc)) =
      if hasBoundPhase (row.object (pvcKey pvc)) then ownSize pvc ns else 0 := by
  have size : kubeSize (row.object (pvcKey pvc)) = kubeSize pvc := by
    have requested : pvcRequestedStorage (row.object (pvcKey pvc)) = pvcRequestedStorage pvc := by
      unfold pvcRequestedStorage
      rw [← same]
      rfl
    rw [kubeSize, requested, kubeSize]
  have place : (row.object (pvcKey pvc)).ns = some ns ↔ pvc.ns = some ns := by
    cases named : pvc.ns with
    | none => simp [ObjectRow.object, pvcKey, Gvr.key, named, Ne.symm nonempty]
    | some given => simp [ObjectRow.object, pvcKey, Gvr.key, named]
  unfold takes ownSize
  rw [size]
  simp only [place]
  by_cases bound : hasBoundPhase (row.object (pvcKey pvc)) = true <;> simp [bound]

theorem row?_writeClaim
    (store : ObjectStore) (pvc : K8sObject) (metadata spec status : Json) (key : ObjectKey) :
    (store.upsert pvcResource pvc.ns pvc.name metadata spec status).2.row? key =
      if pvcKey pvc = key then some ⟨metadata, spec, status.or (.dict []), store.nextRv⟩
      else store.row? key :=
  ObjectStore.row?_upsert ..

variable {metadata spec status : Json}

/-- What a write of the claim leaves. -/
theorem storedTakes_write (nonempty : ns ≠ "") (same : SameRequest pvc spec) :
    storedTakes (store.upsert pvcResource pvc.ns pvc.name metadata spec status).2 pvc ns =
      if (status.or (.dict [])).item "phase" = .str "Bound" then ownSize pvc ns else 0 := by
  rw [storedTakes, row?_writeClaim, if_pos rfl, Option.map_some, Option.getD_some, takes_written nonempty same]
  by_cases bound : (status.or (.dict [])).item "phase" = .str "Bound" <;>
    simp [hasBoundPhase, ObjectRow.object, bound]

theorem SameOthers.write (same : SameOthers start store pvc) (metadata spec status : Json) :
    SameOthers start (store.upsert pvcResource pvc.ns pvc.name metadata spec status).2 pvc := by
  intro key kind different
  rw [row?_writeClaim, if_neg (Ne.symm different)]
  exact same key kind different

/-- A write of the claim with the storage of the copy respects the quota when
there is room for the claim, or its phase is another than `Bound`. -/
theorem respectsQuota_write
    {basis : Option K8sObject} (nonempty : ns ≠ "") (settled : Settled start pvc ns world)
    (room : (status.or (.dict [])).item "phase" = .str "Bound" → HasRoom start pvc ns quota)
    (same : SameRequest pvc spec) :
    RespectsQuota outside pvc ns quota world
      (.store (.upsert basis pvcResource pvc.ns pvc.name metadata spec status)) := by
  refine ⟨fun rises => ?_, fun expands => ?_⟩
  · have others := settled.others.write metadata spec status
    have before := boundRequests_eq world.store pvc ns
    have after := boundRequests_eq
      (world.store.upsert pvcResource pvc.ns pvc.name metadata spec status).2 pvc ns
    rw [settled.others.sum_eq ns] at before
    rw [others.sum_eq ns, storedTakes_write nonempty same] at after
    rw [execute_store_store, StoreOp.execute] at rises ⊢
    rw [after] at rises ⊢
    rw [before] at rises
    have some_ := storedTakes_nonneg world.store pvc ns
    split at rises
    · next bound =>
        rw [if_pos bound]
        rcases room bound with covered | fits
        · rcases settled.own with own | own <;> rw [own] at rises <;> linarith
        · exact fits
    · linarith
  · cases basis with
    | none => exact expands.elim
    | some copy => exact absurd expands.1 (by decide)

/-! ## The parts of a call -/

theorem checked_writePvc
    (nonempty : ns ≠ "") (settled : Settled start pvc ns world)
    (room : (status.or (.dict [])).item "phase" = .str "Bound" → HasRoom start pvc ns quota)
    (same : SameRequest pvc spec) :
    (writePvc pvc metadata spec status).Checked (StorageOp.execute outside)
      (RespectsQuota outside pvc ns quota)
      (fun _ reached => SameOthers start reached.store pvc ∧ storedTakes reached.store pvc ns =
          if (status.or (.dict [])).item "phase" = .str "Bound" then ownSize pvc ns else 0)
      world :=
  ⟨respectsQuota_write nonempty settled room same,
    settled.others.write metadata spec status, storedTakes_write nonempty same⟩

theorem sameRequest_self : SameRequest pvc pvc.spec := rfl

variable {entries : Dict}

/-- The copy's own spec, as a dictionary. -/
theorem sameRequest_of_asDict
    (read : pvc.spec.asDict = some entries) : SameRequest pvc (.dict entries) := by
  unfold Json.asDict at read
  split at read
  · next equal =>
      cases read
      unfold SameRequest
      rw [Json.or_dict_nil, equal]
  · cases read

variable {value : Json} {key : String}

theorem SameRequest.set
    (same : SameRequest pvc (.dict entries)) (different : key ≠ "resources") :
    SameRequest pvc (.dict (Dict.set entries key value)) := by
  unfold SameRequest at same ⊢
  rw [Json.or_dict_nil, Json.item_dict] at same ⊢
  rw [Dict.get_set_of_ne _ _ different.symm]
  exact same

/-- A quiet program after which nothing matters. -/
theorem checked_quiet_end {program : StorageProgram α} (uses : program.Uses Quiet) :
    program.Checked (StorageOp.execute outside) (RespectsQuota outside pvc ns quota)
      (fun _ reached => SameClaims world.store reached.store) world :=
  checked_quiet_same uses fun _ _ => rfl

theorem checked_ensurePending (nonempty : ns ≠ "") (settled : Settled start pvc ns world) :
    (ensurePvcPhase pvc "Pending").Checked (StorageOp.execute outside)
      (RespectsQuota outside pvc ns quota) (fun _ _ => True) world := by
  refine Checked.ofOption_andThen fun status _ => Checked.ite (fun _ => trivial) fun _ => ?_
  refine (checked_writePvc nonempty settled (fun bound => ?_) sameRequest_self).weaken
    fun _ _ _ => trivial
  simp at bound

variable {pv : K8sObject}

theorem checked_writePv
    (settled : Settled start pvc ns world)
    (expands : volumeCapacity spec ≠ volumeCapacity pv.spec → pvc.ns = some ns →
      boundRequests world.store ns ≤ quota) :
    (writePv pv metadata spec status).Checked (StorageOp.execute outside)
      (RespectsQuota outside pvc ns quota) (fun _ => Settled start pvc ns) world := by
  have claims : SameClaims world.store
      (world.store.upsert pvResource none pv.name metadata spec status).2 := by
    intro key kind
    rw [ObjectStore.row?_upsert, if_neg]
    rintro rfl
    exact absurd kind (by simp [Gvr.key, pvResource, pvcResource])
  refine ⟨⟨fun rises => absurd rises ?_, fun expanded placed => expands expanded.2 placed⟩,
    settled.of_sameClaims claims⟩
  rw [execute_store_store, StoreOp.execute, claims.boundRequests_eq ns]
  exact lt_irrefl _

theorem volumeCapacity_of_asDict (read : spec.asDict = some entries) :
    volumeCapacity spec = Dict.get entries "capacity" := by
  unfold Json.asDict at read
  split at read
  · next equal =>
      cases read
      rw [volumeCapacity, equal, Json.item_dict]
  · cases read

variable {changed : Bool} {volume : Content}

/-- `_bind` keeps the capacity of the volume. -/
theorem boundVolume_capacity (target : boundVolume pvc pv = some (volume, changed)) :
    volumeCapacity (.dict volume.spec) = volumeCapacity pv.spec := by
  obtain ⟨spec, readSpec, afterSpec⟩ := Option.bind_eq_some_iff.mp target
  obtain ⟨status, _, afterStatus⟩ := Option.bind_eq_some_iff.mp afterSpec
  obtain ⟨⟨metadata, added⟩, _, afterMeta⟩ := Option.bind_eq_some_iff.mp afterStatus
  obtain ⟨claim, _, afterClaim⟩ := Option.bind_eq_some_iff.mp afterMeta
  obtain ⟨named, tested, afterTest⟩ := Option.bind_eq_some_iff.mp afterClaim
  obtain ⟨uid, readUid, equal⟩ := Option.map_eq_some_iff.mp afterTest
  simp only [Prod.mk.injEq] at equal
  obtain ⟨rfl, rfl⟩ := equal
  rw [volumeCapacity_of_asDict readSpec, volumeCapacity_of_asDict (Json.asDict_dict _)]
  dsimp only
  split
  · rfl
  · exact Dict.get_set_of_ne _ _ (by decide)

theorem phase_ite_set (test : Bool) (different : key ≠ "phase") :
    Dict.get (if test then Dict.set entries key value else entries) "phase" =
      Dict.get entries "phase" := by
  split
  · exact Dict.get_set_of_ne _ _ different.symm
  · rfl

variable {controller : StorageController}

/-- The claim that `_bind` writes asks for the storage of the copy, and its
phase is `Bound`. -/
theorem boundClaim_request
    {claim : Content} (target : boundClaim controller pvc pv = some (claim, changed)) :
    SameRequest pvc (.dict claim.spec) ∧ Dict.get claim.status "phase" = .str "Bound" := by
  obtain ⟨spec, readSpec, afterSpec⟩ := Option.bind_eq_some_iff.mp target
  obtain ⟨status, _, afterStatus⟩ := Option.bind_eq_some_iff.mp afterSpec
  obtain ⟨pvSpec, _, afterPv⟩ := Option.bind_eq_some_iff.mp afterStatus
  obtain ⟨⟨metadata, added⟩, ensured, equal⟩ := Option.map_eq_some_iff.mp afterPv
  simp only [Prod.mk.injEq] at equal
  obtain ⟨rfl, rfl⟩ := equal
  have named : SameRequest pvc (.dict (Dict.set spec "volumeName" (.str pv.name))) :=
    (sameRequest_of_asDict readSpec).set (by decide)
  constructor
  · dsimp only
    split
    · split
      · exact named
      · exact named.set (by decide)
    · exact named
  · dsimp only
    rw [phase_ite_set _ (by decide), phase_ite_set _ (by decide), Dict.get_set_self]

theorem checked_bindVolume
    (settled : Settled start pvc ns world)
    (target : boundVolume pvc pv = some (volume, changed)) :
    (bindVolume pv volume changed).Checked (StorageOp.execute outside)
      (RespectsQuota outside pvc ns quota) (fun _ => Settled start pvc ns) world :=
  Checked.ite (fun _ => checked_writePv settled fun differs =>
      absurd (boundVolume_capacity target) differs)
    fun _ => settled

theorem checked_bind
    (nonempty : ns ≠ "") (settled : Settled start pvc ns world)
    (room : HasRoom start pvc ns quota) :
    (bind controller pvc pv).Checked (StorageOp.execute outside)
      (RespectsQuota outside pvc ns quota) (fun _ => Settled start pvc ns) world := by
  refine Checked.ofOption_andThen fun ⟨claim, claimChanged⟩ claimTarget =>
    Checked.ofOption_andThen fun ⟨volume, volumeChanged⟩ volumeTarget =>
      Checked.andThen (checked_bindVolume settled volumeTarget) fun _ reached after => ?_
  obtain ⟨request, bound⟩ := boundClaim_request claimTarget
  refine Checked.ite (fun _ => ?_) fun _ => after
  refine (checked_writePvc nonempty after (fun _ => room) request).weaken fun _ _ post => ?_
  refine ⟨post.1, .inr ?_⟩
  rw [post.2, Json.or_dict_nil, Json.item_dict, if_pos bound]

variable {conditions : List Json} {message reason : String}

theorem checked_refuseExpansion
    {spec status : Dict} (nonempty : ns ≠ "") (settled : Settled start pvc ns world)
    (room : HasRoom start pvc ns quota) (read : pvc.spec.asDict = some spec) :
    (refuseExpansion pvc spec status conditions reason message).Checked
      (StorageOp.execute outside) (RespectsQuota outside pvc ns quota) (fun _ _ => True)
      world := by
  refine Checked.andThen (checked_quiet (quiet_recordPvcEvent ..) settled) fun _ _ settled => ?_
  refine Checked.andThen (checked_quiet (quiet_call _) settled) fun _ _ settled => ?_
  exact (checked_writePvc nonempty settled (fun _ => room) (sameRequest_of_asDict read)).weaken
    fun _ _ _ => trivial

theorem checked_expandVolume
    {pvcSpec pvcStatus pvSpec capacity : Dict} {requested : String} (nonempty : ns ≠ "")
    (settled : Settled start pvc ns world) (room : HasRoom start pvc ns quota)
    (read : pvc.spec.asDict = some pvcSpec)
    (fits : pvc.ns = some ns →
      storedTakes start pvc ns ≤ ownSize pvc ns ∧ total start pvc ns ≤ quota) :
    (expandVolume controller pvc pv pvcSpec pvcStatus pvSpec capacity conditions
      requested).Checked (StorageOp.execute outside) (RespectsQuota outside pvc ns quota)
        (fun _ _ => True) world := by
  refine Checked.andThen (checked_quiet (quiet_call _) settled) fun _ _ settled => ?_
  refine Checked.ofOption_andThen fun pvStatus _ => ?_
  refine Checked.andThen (checked_writePv settled fun _ placed => ?_) fun _ _ settled => ?_
  · obtain ⟨current, below⟩ := fits placed
    exact (settled.boundRequests_le current).trans below
  refine Checked.andThen (checked_quiet (quiet_call _) settled) fun _ _ settled => ?_
  refine Checked.andThen (checked_quiet (quiet_fsResizeConditions ..) settled)
    fun _ _ settled => ?_
  refine Checked.andThen (checked_writePvc nonempty settled (fun _ => room) (sameRequest_of_asDict read))
    fun _ _ _ => ?_
  exact (checked_quiet_end (quiet_recordPvcEvent ..)).weaken fun _ _ _ => trivial

/-- What the controller compares with the limit covers the total. -/
theorem FitsQuota.total_le
    {limit : Nat} (fits : FitsQuota controller pvc ns quota start limit)
    (placed : pvc.ns = some ns) (same : SameOthers start store pvc)
    (checked : storageUsage (store.listAll pvcResource) ns pvc.name (pvc.metadata.item "uid") +
      codeSize pvc ≤ limit) :
    total start pvc ns ≤ quota := by
  have usage := others_le_storageUsage (pvc.metadata.item "uid") placed (same.counted fits.counted)
  have own := fits.countedOwn
  have below : (storageUsage (store.listAll pvcResource) ns pvc.name
      (pvc.metadata.item "uid") : ℚ) + codeSize pvc ≤ limit := by exact_mod_cast checked
  rw [same.sum_eq ns] at usage
  rw [total, ownSize, if_pos placed]
  linarith [fits.read.2]

/-- An expansion is allowed only when there is room for the claim. -/
theorem checked_quotaAllowsExpansion
    {requested : Nat} (settled : Settled start pvc ns world)
    (fits : pvc.ns = some ns → ∃ limit, FitsQuota controller pvc ns quota start limit)
    (size : codeSize pvc = requested) :
    (quotaAllowsExpansion controller pvc requested).Checked (StorageOp.execute outside)
      (RespectsQuota outside pvc ns quota)
      (fun allowed reached => Settled start pvc ns reached ∧ (allowed = true → pvc.ns = some ns →
          storedTakes start pvc ns ≤ ownSize pvc ns ∧ total start pvc ns ≤ quota)) world := by
  unfold quotaAllowsExpansion
  split
  · next unlimited =>
      refine ⟨settled, fun _ placed => ?_⟩
      obtain ⟨limit, fits⟩ := fits placed
      rw [placed, fits.read.1] at unlimited
      cases unlimited
  · next limit limited =>
      have quiet : Quiet (.store (.listAll pvcResource)) := trivial
      refine ⟨respectsQuota_of_sameClaims (row?_execute_quiet quiet world)
        (not_expands_of_quiet quiet), settled, fun allowed placed => ?_⟩
      obtain ⟨known, fits⟩ := fits placed
      rw [placed, fits.read.1] at limited
      obtain rfl := Option.some.inj limited
      have current := fits.current
      refine ⟨?_, fits.total_le placed settled.others ?_⟩
      · rw [ownSize, if_pos placed]
        exact current
      · rw [size]
        have below := of_decide_eq_true allowed
        rw [placed] at below
        exact below

theorem checked_maybeExpandBoundVolume
    (nonempty : ns ≠ "") (settled : Settled start pvc ns world)
    (room : HasRoom start pvc ns quota)
    (fits : pvc.ns = some ns → ∃ limit, FitsQuota controller pvc ns quota start limit) :
    (maybeExpandBoundVolume controller pvc pv).Checked (StorageOp.execute outside)
      (RespectsQuota outside pvc ns quota) (fun _ _ => True) world := by
  unfold maybeExpandBoundVolume
  split
  · trivial
  · next raw asked =>
      refine Checked.ofOption_andThen fun pvSpec _ => ?_
      dsimp only
      split
      · next requested current _ parsed _ =>
          refine Checked.ite (fun _ => trivial) fun _ =>
            Checked.ofOption_andThen fun pvcSpec readSpec =>
              Checked.ofOption_andThen fun pvcStatus _ =>
                Checked.ofOption_andThen fun conditions _ => ?_
          have size : codeSize pvc = requested := by
            rw [codeSize, asked, Option.bind_some, parsed, Option.getD_some]
          refine Checked.andThen (checked_quotaAllowsExpansion settled fits size)
            fun allowed reached found => ?_
          obtain ⟨settled, within⟩ := found
          refine Checked.ite (fun _ => checked_refuseExpansion nonempty settled room readSpec)
            fun permitted => ?_
          refine Checked.andThen (checked_quiet (quiet_storageClassAllowsExpansion ..) settled)
            fun _ _ settled => ?_
          exact Checked.ite (fun _ => checked_refuseExpansion nonempty settled room readSpec)
            fun _ => checked_expandVolume nonempty settled room readSpec
              (within (by simpa using permitted))
      · trivial

/-! ## Whole calls -/

/-- Report that a volume cannot be bound. -/
theorem checked_report (nonempty : ns ≠ "") (settled : Settled start pvc ns world) :
    ((ensurePvcPhase pvc "Pending").andThen fun _ => recordPvcEvent pvc reason message).Checked
      (StorageOp.execute outside) (RespectsQuota outside pvc ns quota) (fun _ _ => True)
      world :=
  Checked.andThen (checked_ensurePending nonempty settled) fun _ _ _ =>
    (checked_quiet_end (quiet_recordPvcEvent ..)).weaken fun _ _ _ => trivial

theorem checked_reconcileNamedVolume
    {pvName : Json} (nonempty : ns ≠ "") (settled : Settled start pvc ns world)
    (room : HasRoom start pvc ns quota)
    (fits : pvc.ns = some ns → ∃ limit, FitsQuota controller pvc ns quota start limit) :
    (reconcileNamedVolume controller pvc pvName).Checked (StorageOp.execute outside)
      (RespectsQuota outside pvc ns quota) (fun _ _ => True) world := by
  refine Checked.andThen (checked_quiet (quiet_storeGetNamed ..) settled) ?_
  rintro (_ | pv) reached settled
  · exact checked_report nonempty settled
  · refine Checked.ofOption_andThen ?_
    rintro (_ | phase) _
    · refine Checked.ofOption_andThen fun conflicts _ =>
        Checked.ite (fun _ => checked_report nonempty settled) fun _ => ?_
      refine Checked.andThen (checked_bind nonempty settled room) fun _ _ settled => ?_
      refine Checked.andThen (checked_quiet (quiet_reconcileCsiAttachment ..) settled)
        fun _ _ settled => ?_
      exact checked_maybeExpandBoundVolume nonempty settled room fits
    · exact checked_report nonempty settled

/-- A claim of another namespace takes nothing. -/
theorem hasRoom_elsewhere (elsewhere : pvc.ns ≠ some ns) : HasRoom start pvc ns quota := by
  refine .inl ?_
  rw [ownSize, if_neg elsewhere]
  exact storedTakes_nonneg ..

/-- A claim that the controller reads as asking for nothing takes nothing. -/
theorem hasRoom_of_codeSize
    (counted : kubeSize pvc ≤ codeSize pvc)
    (zero : codeSize pvc = 0) : HasRoom start pvc ns quota := by
  refine .inl (le_trans ?_ (storedTakes_nonneg ..))
  rw [zero, Nat.cast_zero] at counted
  unfold ownSize
  split
  · exact counted
  · exact le_rfl

/-- A claim is allowed only when there is room for it. -/
theorem checked_quotaAllowsPvc
    (same : SameClaims start world.store)
    (fits : pvc.ns = some ns → ∃ limit, FitsQuota controller pvc ns quota start limit) :
    (quotaAllowsPvc controller pvc).Checked (StorageOp.execute outside)
      (RespectsQuota outside pvc ns quota)
      (fun allowed reached => SameClaims start reached.store ∧
        (allowed = true → HasRoom start pvc ns quota)) world := by
  by_cases placed : pvc.ns = some ns
  · obtain ⟨limit, fits⟩ := fits placed
    have limited := fits.read.1
    unfold quotaAllowsPvc
    rw [placed, limited]
    cases asked : pvcRequestedStorage pvc with
    | none =>
        refine ⟨same, fun _ => hasRoom_of_codeSize fits.countedOwn ?_⟩
        rw [codeSize, asked, Option.bind_none, Option.getD_none]
    | some raw =>
        dsimp only
        cases parsed : quantityBytes raw with
        | none =>
            refine ⟨same, fun _ => hasRoom_of_codeSize fits.countedOwn ?_⟩
            rw [codeSize, asked, Option.bind_some, parsed, Option.getD_none]
        | some requested =>
            have quiet : Quiet (.store (.listAll pvcResource)) := trivial
            refine ⟨respectsQuota_of_sameClaims (row?_execute_quiet quiet world)
              (not_expands_of_quiet quiet), ?_⟩
            refine Checked.ite (fun _ => ?_) fun within => ⟨same, fun _ => .inr ?_⟩
            · refine Checked.andThen (checked_quiet_same (quiet_recordPvcEvent ..) same)
                fun _ _ same => ?_
              exact ⟨same, fun contradiction => by cases contradiction⟩
            · refine fits.total_le placed (fun key kind _ => same key kind) ?_
              rw [codeSize, asked, Option.bind_some, parsed, Option.getD_some]
              rw [placed] at within
              exact not_lt.mp within
  · exact (checked_quiet_same (quiet_quotaAllowsPvc controller pvc) same).weaken
      fun _ _ same => ⟨same, fun _ => hasRoom_elsewhere placed⟩

theorem checked_reconcilePvc
    (nonempty : ns ≠ "") (same : SameClaims start world.store)
    (fits : pvc.ns = some ns → ∃ limit, FitsQuota controller pvc ns quota start limit) :
    (reconcilePvc controller pvc).Checked (StorageOp.execute outside)
      (RespectsQuota outside pvc ns quota) (fun _ _ => True) world := by
  refine Checked.ofOption_andThen fun pvName read => Checked.ite (fun named => ?_) fun _ => ?_
  · refine checked_reconcileNamedVolume nonempty (same.settled pvc ns) ?_ fits
    by_cases placed : pvc.ns = some ns
    · obtain ⟨limit, fits⟩ := fits placed
      rw [← Json.item_of_lookup read] at named
      rcases fits.named named with bound | checked
      · exact .inl (by simpa only [ownSize, placed, if_true] using bound)
      · exact .inr (fits.total_le placed (fun _ _ _ => rfl) checked)
    · exact hasRoom_elsewhere placed
  · refine Checked.andThen (checked_quiet_same (quiet_pvcIsBound pvc) same)
      fun bound reached same => Checked.ite (fun _ => trivial) fun _ =>
        Checked.andThen (checked_quotaAllowsPvc same fits)
          fun allowed reached ⟨same, room⟩ => Checked.ite (fun _ => ?_) fun permitted => ?_
    · exact checked_ensurePending nonempty (same.settled pvc ns)
    · have room := room (by simpa using permitted)
      refine Checked.andThen (checked_quiet_same (quiet_matchOrProvision controller pvc) same) ?_
      rintro (_ | pv) reached same
      · exact checked_ensurePending nonempty (same.settled pvc ns)
      · refine Checked.andThen (checked_bind nonempty (same.settled pvc ns) room)
          fun _ _ settled => ?_
        exact checked_maybeExpandBoundVolume nonempty settled room fits

end Operations

/-! ## Runs -/

theorem boundRequests_le_of_respected
    {program : StorageProgram Unit} {outside : Outside} {pvc : K8sObject} {ns : String}
    {quota : ℚ}
    (respected : program.Along (StorageOp.execute outside)
      (RespectsQuota outside pvc ns quota) world)
    (within : boundRequests world.store ns ≤ quota) :
    boundRequests (runAlone (StorageOp.execute outside) program world).2.store ns ≤
      quota := by
  have preserved : ∀ (reached : World) (operation : StorageOp),
      boundRequests reached.store ns ≤ quota →
      RespectsQuota outside pvc ns quota reached operation →
      boundRequests (operation.execute outside reached).2.store ns ≤ quota := by
    intro reached operation below respects
    by_contra above
    exact above (respects.1 (below.trans_lt (not_le.mp above)))
  have kept := invariant_of_runAlone (fun reached : World => boundRequests reached.store ns ≤ quota)
    preserved within respected
  exact kept

/-! ## Two claims -/

def quotaController : StorageController :=
  { plainController with storageQuotas := [⟨"default", "1Gi"⟩] }

def sizedClaim (size : String) (named : Dict) : K8sObject where
  gvr := pvcResource
  ns := some "default"
  name := "data"
  metadata := .dict [("name", .str "data"), ("uid", .str "uid-data")]
  spec := .dict (("resources", .dict [("requests", .dict [("storage", .str size)])]) :: named)
  status := .dict []
  resourceVersion := 2

def storeWithClaim (pvc : K8sObject) : ObjectStore :=
  let store := (ObjectStore.empty.upsert pvResource none "pv1"
    (.dict [("name", .str "pv1")]) (.dict []) (.dict [])).2
  (store.upsert pvcResource pvc.ns pvc.name pvc.metadata pvc.spec pvc.status).2

theorem eq_of_hasQuota
    {ns : String} {quota : ℚ}
    (given : HasQuota quotaController ns quota) : ns = "default" ∧ quota = 2 ^ 30 := by
  obtain ⟨-, entry, found, read⟩ := given
  have member := List.mem_of_find?_eq_some found
  simp only [quotaController, List.mem_singleton] at member
  subst member
  have place := List.find?_some found
  have value : kubeQuantity "1Gi" = some (2 ^ 30) := by decide +kernel
  dsimp only at read
  rw [value] at read
  exact ⟨(of_decide_eq_true place).symm, (Option.some.inj read).symm⟩

/-- A claim of half the quota is bound to the volume. -/
def halfClaim : K8sObject := sizedClaim "512Mi" []

theorem halfClaim_alone : OthersCounted (storeWithClaim halfClaim) halfClaim "default" := by
  have none_ : otherClaims (storeWithClaim halfClaim) (pvcKey halfClaim) = [] := by
    decide +kernel
  intro other member
  rw [none_] at member
  cases member

/-- A claim of five times the quota that names its volume. -/
def namedClaim : K8sObject := sizedClaim "5Gi" [("volumeName", .str "pv1")]

end Storage
end K1s
