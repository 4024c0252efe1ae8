import K1s.Storage.Binding

/-!
# What reconciliation keeps

A claim reference is never replaced once it is set, as long as every write of a
volume finds the volume in the store from which it was computed.  This module
states that discipline, shows which writes of claims and volumes keep to it,
and that all other operations of the controller do.
-/

namespace K1s
namespace Storage

open Py ApiShim Program

/-! ## Exclusive bindings -/

/-- The key of a volume.  Volumes have no namespace. -/
def pvKey (name : String) : ObjectKey := pvResource.key none name

/-- The volume that a stored claim is bound to. -/
def boundTo (row : ObjectRow) : Option Json :=
  if row.status.item "phase" = .str "Bound" ∧ (row.spec.item "volumeName").truthy = true then
    some (row.spec.item "volumeName")
  else none

/-- The stored volume carries a reference that names the claim. -/
def Claimed (store : ObjectStore) (volume : String) (pvc : K8sObject) : Prop :=
  ∃ row, store.row? (pvKey volume) = some row ∧
    pvClaimRefMatches (row.object (pvKey volume)) pvc = some true

/-- No two claims are bound to one volume, and the volume of a bound claim
carries a reference that names the claim. -/
structure Exclusive (store : ObjectStore) : Prop where
  distinct : ∀ first second firstRow secondRow volume,
    first.gvr = pvcResource → second.gvr = pvcResource →
    store.row? first = some firstRow → store.row? second = some secondRow →
    boundTo firstRow = some volume → boundTo secondRow = some volume →
    first = second
  claimed : ∀ key row volume, key.gvr = pvcResource →
    store.row? key = some row → boundTo row = some volume →
    ∃ name, volume.sqlText = some (some name) ∧ Claimed store name (row.object key)

/-- Volumes are stored without a namespace. -/
def VolumesClusterScoped (store : ObjectStore) : Prop :=
  ∀ key, key.gvr = pvResource → (store.row? key).isSome → key.ns = ""

/-- What the interleavings keep. -/
structure Coherent (store : ObjectStore) : Prop where
  clusterScoped : VolumesClusterScoped store
  claimed : ∀ key row volume, key.gvr = pvcResource →
    store.row? key = some row → boundTo row = some volume →
    ∃ name, volume.sqlText = some (some name) ∧ Claimed store name (row.object key)

/-- A reference names one claim only. -/
theorem Coherent.exclusive {store : ObjectStore} (coherent : Coherent store) :
    Exclusive store where
  distinct := by
    intro first second firstRow secondRow volume firstKind secondKind
      firstStored secondStored firstBound secondBound
    obtain ⟨name, text, firstClaimed⟩ :=
      coherent.claimed first firstRow volume firstKind firstStored firstBound
    obtain ⟨other, otherText, secondClaimed⟩ :=
      coherent.claimed second secondRow volume secondKind secondStored secondBound
    obtain rfl : name = other := by simpa [text] using otherText
    obtain ⟨row, stored, firstNamed⟩ := firstClaimed
    obtain ⟨again, storedAgain, secondNamed⟩ := secondClaimed
    obtain rfl : row = again := by simpa [stored] using storedAgain
    obtain ⟨claim, found, namesFirst⟩ := (pvClaimRefMatches_iff _ _).mp firstNamed
    obtain ⟨otherClaim, otherFound, namesSecond⟩ :=
      (pvClaimRefMatches_iff _ _).mp secondNamed
    obtain rfl : claim = otherClaim := by simpa [found] using otherFound
    obtain ⟨sameName, sameNs⟩ := namesFirst.unique namesSecond
    obtain ⟨firstGvr, firstNs, firstName⟩ := first
    obtain ⟨secondGvr, secondNs, secondName⟩ := second
    simp only [ObjectRow.object, Option.getD_some] at sameName sameNs
    simp_all
  claimed := coherent.claimed

/-! ## Claim references are kept -/

/-- References that are set in the first store are the same in the second. -/
def ClaimsKept (first second : ObjectStore) : Prop :=
  ∀ volume row, first.row? (pvKey volume) = some row → (row.spec.item "claimRef").truthy = true →
    ∃ later, second.row? (pvKey volume) = some later ∧
      later.spec.item "claimRef" = row.spec.item "claimRef"

theorem ClaimsKept.refl (store : ObjectStore) : ClaimsKept store store :=
  fun _ row stored _ => ⟨row, stored, rfl⟩

theorem ClaimsKept.trans
    {first second third : ObjectStore} (earlier : ClaimsKept first second)
    (later : ClaimsKept second third) : ClaimsKept first third := by
  intro volume row stored present
  obtain ⟨middle, middleStored, same⟩ := earlier volume row stored present
  obtain ⟨last, lastStored, sameAgain⟩ :=
    later volume middle middleStored (same ▸ present)
  exact ⟨last, lastStored, sameAgain.trans same⟩

/-- The test looks at the reference and the claim only. -/
theorem matches_congr
    (pv other pvc : K8sObject) (same : other.spec.item "claimRef" = pv.spec.item "claimRef")
    (named : pvClaimRefMatches pv pvc = some true) :
    pvClaimRefMatches other pvc = some true := by
  rw [pvClaimRefMatches_iff] at named ⊢
  rw [same]
  exact named

theorem Claimed.kept
    {first second : ObjectStore} {volume : String} {pvc : K8sObject}
    (claimed : Claimed first volume pvc) (kept : ClaimsKept first second) :
    Claimed second volume pvc := by
  obtain ⟨row, stored, named⟩ := claimed
  obtain ⟨claim, found, names⟩ := (pvClaimRefMatches_iff _ _).mp named
  have present : (row.spec.item "claimRef").truthy = true := by
    have same : row.spec.item "claimRef" = .dict claim := found
    rw [same]
    exact names.truthy
  obtain ⟨later, laterStored, same⟩ := kept volume row stored present
  exact ⟨later, laterStored, matches_congr (row.object (pvKey volume)) _ _ same named⟩

/-- A claim with the same key and uid is named by the same references. -/
theorem Claimed.congr
    {store : ObjectStore} {volume : String} {pvc other : K8sObject}
    (claimed : Claimed store volume pvc) (sameName : other.name = pvc.name)
    (sameNs : other.ns.getD "" = pvc.ns.getD "")
    (sameUid : other.metadata.lookup "uid" = pvc.metadata.lookup "uid") :
    Claimed store volume other := by
  obtain ⟨row, stored, named⟩ := claimed
  obtain ⟨claim, found, names⟩ := (pvClaimRefMatches_iff _ _).mp named
  obtain ⟨uid, readUid, agree⟩ := names.uid
  refine ⟨row, stored, (pvClaimRefMatches_iff _ _).mpr ⟨claim, found, ?_⟩⟩
  exact ⟨by rw [names.name, sameName], by rw [names.ns, sameNs],
    uid, by rw [sameUid, readUid], agree⟩

/-! ## Current writes -/

/-- The stored object is the given one, or there is none and none was given. -/
def Unchanged (stored : Option ObjectRow) (basis : Option K8sObject) : Prop :=
  match stored, basis with
  | none, none => True
  | some row, some object =>
      row.metadata = object.metadata ∧ row.spec = object.spec ∧ row.status = object.status
  | _, _ => False

instance (stored : Option ObjectRow) (basis : Option K8sObject) :
    Decidable (Unchanged stored basis) :=
  match stored, basis with
  | none, none => inferInstanceAs (Decidable True)
  | some row, some object =>
      inferInstanceAs (Decidable (row.metadata = object.metadata ∧
        row.spec = object.spec ∧ row.status = object.status))
  | some _, none => inferInstanceAs (Decidable False)
  | none, some _ => inferInstanceAs (Decidable False)

/-- A write of a volume finds the volume in the store from which it was
computed, or none if the volume was taken to be new. -/
def CurrentVolume (world : World) : StorageOp → Prop
  | .store (.upsert basis gvr ns name _ _ _) =>
      gvr = pvResource → Unchanged (world.store.row? (gvr.key ns name)) basis
  | _ => True

instance (world : World) (operation : StorageOp) :
    Decidable (CurrentVolume world operation) :=
  match operation with
  | .store (.upsert basis gvr ns name _ _ _) =>
      inferInstanceAs (Decidable (gvr = pvResource →
        Unchanged (world.store.row? (gvr.key ns name)) basis))
  | .store (.get _ _ _) => inferInstanceAs (Decidable True)
  | .store (.list _ _) => inferInstanceAs (Decidable True)
  | .store (.listAll _) => inferInstanceAs (Decidable True)
  | .store (.delete _ _ _) => inferInstanceAs (Decidable True)
  | .call _ => inferInstanceAs (Decidable True)

def binding (outside : Outside) : Discipline World StorageOp StorageOp.Reply where
  execute := StorageOp.execute outside
  permitted := CurrentVolume
  invariant := fun world => Coherent world.store
  later := fun first second => ClaimsKept first.store second.store
  later_refl := fun world => .refl world.store
  later_trans := fun _ _ _ earlier later => earlier.trans later

/-! ## Writes -/

/-- A change that leaves the claims alone and keeps the references. -/
theorem Coherent.of_claimsKept
    {first second : ObjectStore} (coherent : Coherent first) (kept : ClaimsKept first second)
    (claims : ∀ key, key.gvr = pvcResource → second.row? key = first.row? key)
    (clusterScoped : VolumesClusterScoped second) : Coherent second := by
  refine ⟨clusterScoped, fun key row volume kind stored bound => ?_⟩
  rw [claims key kind] at stored
  obtain ⟨name, text, claimed⟩ := coherent.claimed key row volume kind stored bound
  exact ⟨name, text, claimed.kept kept⟩

theorem VolumesClusterScoped.upsert
    {store : ObjectStore} (clusterScoped : VolumesClusterScoped store) (gvr : Gvr)
    (ns : Option String) (name : String) (metadata spec status : Json)
    (volume : gvr = pvResource → ns.getD "" = "") :
    VolumesClusterScoped (store.upsert gvr ns name metadata spec status).2 := by
  intro key kind stored
  rw [ObjectStore.row?_upsert] at stored
  split at stored
  · rename_i same
    subst same
    exact volume kind
  · exact clusterScoped key kind stored

/-- A volume may be written when its reference stays as it is, or was not
set. -/
theorem write_volume
    {store : ObjectStore} (name : String) (metadata spec status : Json)
    (coherent : Coherent store)
    (same : ∀ row, store.row? (pvKey name) = some row → (row.spec.item "claimRef").truthy = true →
      spec.item "claimRef" = row.spec.item "claimRef") :
    ClaimsKept store (store.upsert pvResource none name metadata spec status).2 ∧
      Coherent (store.upsert pvResource none name metadata spec status).2 := by
  have kept :
      ClaimsKept store (store.upsert pvResource none name metadata spec status).2 := by
    intro volume row stored present
    by_cases equal : name = volume
    · subst equal
      refine ⟨_, by rw [ObjectStore.row?_upsert, if_pos (by rfl)], ?_⟩
      exact same row stored present
    · refine ⟨row, ?_, rfl⟩
      rw [ObjectStore.row?_upsert, if_neg ?_, stored]
      simpa [pvKey, Gvr.key] using equal
  refine ⟨kept, coherent.of_claimsKept kept ?_ ?_⟩
  · intro key kind
    rw [ObjectStore.row?_upsert, if_neg ?_]
    rintro rfl
    simp [Gvr.key, pvResource, pvcResource] at kind
  · exact coherent.clusterScoped.upsert _ _ _ _ _ _ fun _ => rfl

variable (pvc : K8sObject) (gvr : Gvr) (ns : Option String) (reason message : String)
  (controller : StorageController)

/-- A claim may be written as bound to a volume that it claims. -/
theorem write_claim
    {store : ObjectStore} (metadata spec status : Json) (coherent : Coherent store)
    (sameUid : metadata.lookup "uid" = pvc.metadata.lookup "uid")
    (bound : (status.or (.dict [])).item "phase" = .str "Bound" →
      (spec.item "volumeName").truthy = true →
      ∃ name, (spec.item "volumeName").sqlText = some (some name) ∧ Claimed store name pvc) :
    ClaimsKept store (store.upsert pvcResource pvc.ns pvc.name metadata spec status).2 ∧ Coherent
        (store.upsert pvcResource pvc.ns pvc.name metadata spec status).2 := by
  have kept : ClaimsKept store
      (store.upsert pvcResource pvc.ns pvc.name metadata spec status).2 := by
    intro volume row stored present
    refine ⟨row, ?_, rfl⟩
    rw [ObjectStore.row?_upsert, if_neg ?_, stored]
    simp [pvKey, Gvr.key, pvResource, pvcResource]
  refine ⟨kept, coherent.clusterScoped.upsert _ _ _ _ _ _ ?_, ?_⟩
  · simp [pvResource, pvcResource]
  · intro key row volume kind stored rowBound
    rw [ObjectStore.row?_upsert] at stored
    split at stored
    · rename_i same
      subst same
      obtain rfl := Option.some.inj stored
      unfold boundTo at rowBound
      split at rowBound
      · rename_i holds
        obtain rfl := Option.some.inj rowBound
        obtain ⟨name, text, claimed⟩ := bound holds.1 holds.2
        refine ⟨name, text, (claimed.kept kept).congr rfl ?_ sameUid⟩
        simp [ObjectRow.object, Gvr.key]
      · simp at rowBound
    · obtain ⟨name, text, claimed⟩ :=
        coherent.claimed key row volume kind stored rowBound
      exact ⟨name, text, claimed.kept kept⟩

/-- Operations that leave claims alone and do not change an existing volume. -/
def Quiet : StorageOp → Prop
  | .store (.upsert basis gvr ns _ _ _ _) =>
      gvr ≠ pvcResource ∧ (gvr = pvResource → basis = none ∧ ns = none)
  | .store (.delete gvr _ _) => gvr ≠ pvcResource ∧ gvr ≠ pvResource
  | _ => True

theorem execute_quiet
    (outside : Outside) (operation : StorageOp) (quiet : Quiet operation) (world : World)
    (coherent : Coherent world.store) (current : CurrentVolume world operation) :
    ClaimsKept world.store (operation.execute outside world).2.store ∧
      Coherent (operation.execute outside world).2.store := by
  cases operation with
  | call request => exact ⟨.refl _, coherent⟩
  | store operation =>
      cases operation with
      | get | list | listAll => exact ⟨.refl _, coherent⟩
      | upsert basis gvr ns name metadata spec status =>
          obtain ⟨notClaim, volume⟩ := quiet
          by_cases isVolume : gvr = pvResource
          · obtain ⟨rfl, rfl⟩ := volume isVolume
            subst isVolume
            have absent : world.store.row? (pvKey name) = none := by
              have unchanged := current rfl
              unfold Unchanged at unchanged
              split at unchanged <;> simp_all [pvKey]
            exact write_volume _ _ _ _ coherent (by simp [absent])
          · have kept : ClaimsKept world.store
                (world.store.upsert gvr ns name metadata spec status).2 := by
              intro volume row stored present
              refine ⟨row, ?_, rfl⟩
              rw [ObjectStore.row?_upsert, if_neg ?_, stored]
              simp [pvKey, Gvr.key, isVolume]
            refine ⟨kept, coherent.of_claimsKept kept ?_ ?_⟩
            · intro key kind
              rw [execute_store_store, StoreOp.execute, ObjectStore.row?_upsert, if_neg ?_]
              rintro rfl
              exact notClaim kind
            · exact coherent.clusterScoped.upsert _ _ _ _ _ _ fun equal =>
                absurd equal isVolume
      | delete gvr ns name =>
          obtain ⟨notClaim, notVolume⟩ := quiet
          have kept : ClaimsKept world.store (world.store.delete gvr ns name).2 := by
            intro volume row stored present
            refine ⟨row, ?_, rfl⟩
            rw [ObjectStore.row?_delete, if_neg ?_, stored]
            simp [pvKey, Gvr.key, notVolume]
          refine ⟨kept, coherent.of_claimsKept kept ?_ ?_⟩
          · intro key kind
            rw [execute_store_store, StoreOp.execute, ObjectStore.row?_delete, if_neg ?_]
            rintro rfl
            exact notClaim kind
          · intro key kind stored
            rw [execute_store_store, StoreOp.execute, ObjectStore.row?_delete]
              at stored
            split at stored
            · simp at stored
            · exact coherent.clusterScoped key kind stored

/-! ## Programs that only look and report -/

/-- Operations that read, that leave the process, or that write an event. -/
def Looking : StorageOp → Prop
  | .store (.upsert _ gvr _ _ _ _ _) => gvr = eventResource
  | .store (.delete _ _ _) => False
  | _ => True

theorem quiet_of_looking (operation : StorageOp) (looking : Looking operation) :
    Quiet operation := by
  cases operation with
  | call request => trivial
  | store operation =>
      cases operation with
      | get | list | listAll => trivial
      | delete gvr ns name => exact looking.elim
      | upsert basis gvr ns name metadata spec status =>
          obtain rfl : gvr = eventResource := looking
          simp [Quiet, eventResource, pvcResource, pvResource]

theorem looking_call (request : ExternalCall) : (call request).Uses Looking :=
  ⟨trivial, fun _ => trivial⟩

theorem looking_storeGet (name : String) : (storeGet gvr ns name).Uses Looking :=
  ⟨trivial, fun _ => trivial⟩

theorem looking_storeListAll : (storeListAll gvr).Uses Looking :=
  ⟨trivial, fun _ => trivial⟩

theorem looking_storeGetNamed (name : Json) : (storeGetNamed gvr ns name).Uses Looking := by
  unfold storeGetNamed
  split
  · trivial
  · trivial
  · exact looking_storeGet gvr ns _

theorem looking_recordPvcEvent : (recordPvcEvent pvc reason message).Uses Looking := by
  unfold recordPvcEvent
  split
  · trivial
  · refine Uses.andThen (looking_call _) fun _ => Uses.andThen (looking_call _)
      fun _ => Uses.andThen (Uses.ofOption _) fun _ => ⟨?_, fun _ => trivial⟩
    simp [Looking]

theorem looking_giveUp {α : Type} (answer : α) :
    (giveUp pvc reason message answer).Uses Looking :=
  Uses.andThen (looking_recordPvcEvent pvc reason message) fun _ => trivial

theorem looking_secretPresent (ns name : String) :
    (secretPresent ns name).Uses Looking := by
  refine .ite trivial (.andThen (looking_storeGet ..) ?_)
  rintro (_ | secret) <;> trivial

theorem looking_csiSecretFromParams (scSpec : Json) (key : String) :
    (csiSecretFromParams scSpec key).Uses Looking :=
  .ite trivial (.andThen (looking_secretPresent ..) fun _ => trivial)

theorem looking_volumeAttachmentsForPv (pvName : String) :
    (volumeAttachmentsForPv pvName).Uses Looking :=
  .andThen (looking_storeListAll _) fun _ => trivial

theorem looking_csiDriverAttachRequired (driver : String) :
    (csiDriverAttachRequired controller driver).Uses Looking := by
  refine .ite trivial (.ite trivial (.andThen (looking_storeGet ..) ?_))
  rintro (_ | object) <;> trivial

theorem looking_publishVolume
    (pvc : K8sObject) (pvSpec : Json) (driver handle node : String) :
    (publishVolume controller pvc pvSpec driver handle node).Uses Looking := by
  refine .andThen (.ite (looking_storeGetNamed ..) trivial) fun sc => ?_
  split
  · generalize legacyMarkerAttachAllowed controller sc = allowed
    exact Uses.ite (looking_giveUp ..) trivial
  · refine .andThen (looking_csiSecretFromParams ..) ?_
    rintro ⟨reference, secret⟩
    refine Uses.ite trivial (Uses.ite trivial (Uses.ite trivial
      (Uses.andThen (looking_call _) fun published => ?_)))
    cases published <;> trivial

theorem looking_publishedContext
    (pvc : K8sObject) (pvSpec : Json) (driver handle node : String)
    (existing : Option K8sObject) :
    (publishedContext controller pvc pvSpec driver handle node existing).Uses
      Looking := by
  unfold publishedContext
  split
  · trivial
  · exact looking_publishVolume ..

theorem looking_attachError (published : Except String (List (String × String))) :
    (attachError pvc published).Uses Looking := by
  unfold attachError
  split
  · trivial
  · exact .andThen (looking_call _) fun _ =>
      .andThen (looking_recordPvcEvent ..) fun _ => trivial

/-! ## Quiet programs -/

theorem quiet_call (request : ExternalCall) : (call request).Uses Quiet :=
  (looking_call ..).mono quiet_of_looking

theorem quiet_storeGet (name : String) : (storeGet gvr ns name).Uses Quiet :=
  (looking_storeGet ..).mono quiet_of_looking

theorem quiet_storeListAll : (storeListAll gvr).Uses Quiet :=
  (looking_storeListAll ..).mono quiet_of_looking

theorem quiet_storeGetNamed (name : Json) : (storeGetNamed gvr ns name).Uses Quiet :=
  (looking_storeGetNamed ..).mono quiet_of_looking

theorem quiet_deleteAttachment (name : String) :
    (storeDelete vaResource none name).Uses Quiet :=
  ⟨by simp [Quiet, vaResource, pvcResource, pvResource], fun _ => trivial⟩

theorem quiet_recordPvcEvent : (recordPvcEvent pvc reason message).Uses Quiet :=
  (looking_recordPvcEvent ..).mono quiet_of_looking

theorem quiet_giveUp {α : Type} (answer : α) :
    (giveUp pvc reason message answer).Uses Quiet :=
  (looking_giveUp ..).mono quiet_of_looking

theorem quiet_hostBacking (root path : Json) :
    (hostBacking controller root path).Uses Quiet := by
  unfold hostBacking
  split
  · trivial
  · exact Uses.andThen (quiet_call _) fun _ => trivial

theorem quiet_pvHostBacking (pv : K8sObject) :
    (pvHostBacking controller pv).Uses Quiet := by
  unfold pvHostBacking
  split
  · trivial
  · exact quiet_hostBacking ..

theorem quiet_cloneSourceForPvc (pvc : K8sObject) (source : Dict) :
    (cloneSourceForPvc controller pvc source).Uses Quiet := by
  refine .ite (quiet_giveUp ..) (.andThen (.ofOption _) fun _ =>
    .andThen (.ofOption _) fun _ => .ite (quiet_giveUp ..) (.andThen (quiet_storeGet ..) ?_))
  rintro (_ | srcPvc)
  · exact quiet_giveUp ..
  refine .andThen (.ofOption _) fun _ => .ite (quiet_giveUp ..)
    (.andThen (.ofOption _) fun _ => .ite (quiet_giveUp ..)
      (.andThen (.ofOption _) fun _ => .ite (quiet_giveUp ..)
        (.andThen (quiet_storeGetNamed ..) ?_)))
  rintro (_ | srcPv)
  · exact quiet_giveUp ..
  refine .andThen (.ofOption _) fun _ => .ite (quiet_giveUp ..)
    (.andThen (quiet_pvHostBacking ..) ?_)
  rintro (_ | ⟨hostRoot, hostPath⟩)
  · exact quiet_giveUp ..
  exact .andThen (quiet_call _) fun _ => .ite (quiet_giveUp ..) trivial

theorem quiet_snapshotContentBacking (content : K8sObject) :
    (snapshotContentBacking controller content).Uses Quiet := by
  unfold snapshotContentBacking
  split
  · trivial
  · exact quiet_hostBacking ..

theorem quiet_snapshotSourceForPvc (pvc : K8sObject) (source : Dict) :
    (snapshotSourceForPvc controller pvc source).Uses Quiet := by
  refine .ite (quiet_giveUp ..) (.andThen (quiet_storeGet ..) ?_)
  rintro (_ | snapshot)
  · exact quiet_giveUp ..
  refine .andThen (.ofOption _) fun _ => .ite (quiet_giveUp ..)
    (.andThen (.ofOption _) fun _ => .ite (quiet_giveUp ..) (.andThen (quiet_storeGetNamed ..) ?_))
  rintro (_ | content)
  · exact quiet_giveUp ..
  refine .andThen (quiet_snapshotContentBacking ..) ?_
  rintro (_ | ⟨hostRoot, hostPath⟩)
  · exact quiet_giveUp ..
  exact .andThen (quiet_call _) fun _ => .ite (quiet_giveUp ..) trivial

theorem quiet_restoreSourceForPvc (pvc : K8sObject) :
    (restoreSourceForPvc controller pvc).Uses Quiet := by
  unfold restoreSourceForPvc
  dsimp only
  split
  · exact .ite (.ite (quiet_giveUp ..) (quiet_cloneSourceForPvc ..))
      (.ite trivial (.ite (quiet_giveUp ..) (.ite trivial (quiet_snapshotSourceForPvc ..))))
  · trivial

theorem quiet_restoreInto (targetRoot targetPath : String) (info : SourceInfo) :
    (restoreInto pvc targetRoot targetPath info).Uses Quiet := by
  refine .andThen (quiet_call _) fun _ => .ite (quiet_giveUp ..)
    (.andThen (quiet_call _) fun _ => .ite (quiet_giveUp ..)
      (.andThen (quiet_call _) fun _ => .ite (quiet_giveUp ..) ?_))
  refine .andThen (.ite trivial (quiet_call _)) fun _ => .ite (quiet_giveUp ..)
    (.andThen (.andThen (quiet_call _) fun _ => .ite (quiet_call _) trivial) fun _ =>
      .ite (quiet_giveUp ..) (.andThen (quiet_call _) fun _ =>
        .ite (quiet_giveUp ..) (quiet_giveUp ..)))

theorem quiet_prepareLocalPath (block : Option Nat) (hostPath : String) :
    (prepareLocalPath block hostPath).Uses Quiet := by
  unfold prepareLocalPath
  split
  · exact .andThen (quiet_call _) fun _ => .ite trivial
      (.andThen (.andThen (quiet_call _) fun _ => .ite (quiet_call _) trivial)
        fun _ => .ite trivial (.andThen (quiet_call _) fun _ => trivial))
  · exact .andThen (quiet_call _) fun _ => .ite trivial trivial

theorem quiet_csiSecretFromParams (scSpec : Json) (key : String) :
    (csiSecretFromParams scSpec key).Uses Quiet :=
  (looking_csiSecretFromParams ..).mono quiet_of_looking

theorem quiet_csiVolumeSecrets (scSpec : Json) : (csiVolumeSecrets scSpec).Uses Quiet :=
  .andThen (quiet_csiSecretFromParams ..) fun _ =>
    .andThen (quiet_csiSecretFromParams ..) fun _ =>
      .andThen (quiet_csiSecretFromParams ..) fun _ =>
        .ite trivial (.ite trivial (.ite trivial trivial))

theorem quiet_namespaceStorageUsage : (namespaceStorageUsage pvc).Uses Quiet :=
  .andThen (quiet_storeListAll _) fun _ => trivial

theorem quiet_quotaAllowsPvc (pvc : K8sObject) :
    (quotaAllowsPvc controller pvc).Uses Quiet := by
  unfold quotaAllowsPvc
  split
  · split
    · trivial
    · exact .andThen (quiet_namespaceStorageUsage _) fun _ =>
        .ite (quiet_giveUp ..) trivial
  · trivial

theorem quiet_quotaAllowsExpansion (pvc : K8sObject) (requested : Nat) :
    (quotaAllowsExpansion controller pvc requested).Uses Quiet := by
  unfold quotaAllowsExpansion
  split
  · trivial
  · exact .andThen (quiet_namespaceStorageUsage _) fun _ => trivial

theorem quiet_storageClassAllowsExpansion (pvc pv : K8sObject) :
    (storageClassAllowsExpansion controller pvc pv).Uses Quiet := by
  refine .andThen (.ofOption _) fun _ => .andThen (.ofOption _) fun _ => ?_
  split
  · trivial
  · refine .andThen (quiet_storeGet ..) ?_
    rintro (_ | sc) <;> trivial

theorem quiet_fsResizeConditions (mode : String) (conditions : List Json) :
    (fsResizeConditions controller mode conditions).Uses Quiet :=
  .ite trivial (.ite trivial (.andThen (quiet_call _) fun _ => trivial))

theorem quiet_volumeAttachmentsForPv (pvName : String) :
    (volumeAttachmentsForPv pvName).Uses Quiet :=
  (looking_volumeAttachmentsForPv ..).mono quiet_of_looking

theorem quiet_csiDriverAttachRequired (driver : String) :
    (csiDriverAttachRequired controller driver).Uses Quiet :=
  (looking_csiDriverAttachRequired ..).mono quiet_of_looking

theorem quiet_publishedContext
    (pvc : K8sObject) (pvSpec : Json) (driver handle node : String)
    (existing : Option K8sObject) :
    (publishedContext controller pvc pvSpec driver handle node existing).Uses
      Quiet :=
  (looking_publishedContext ..).mono quiet_of_looking

theorem quiet_attachError (published : Except String (List (String × String))) :
    (attachError pvc published).Uses Quiet :=
  (looking_attachError ..).mono quiet_of_looking

theorem quiet_recordAttachment
    (pvName driver handle node name : String) (attachments : List K8sObject)
    (singleWriter : Bool) (published : Except String (List (String × String))) :
    (recordAttachment pvc pvName driver handle node name attachments singleWriter
      published).Uses Quiet := by
  refine .andThen (quiet_attachError ..) fun _ => .andThen ⟨?_, fun _ => trivial⟩
    fun _ => .ite (.forEach fun att _ => ?_) trivial
  · simp [Quiet, vaResource, pvcResource, pvResource]
  · split
    · trivial
    · exact .ite trivial (.andThen (quiet_deleteAttachment _) fun _ => trivial)

theorem quiet_reconcileCsiAttachment (pvc pv : K8sObject) :
    (reconcileCsiAttachment controller pvc pv).Uses Quiet := by
  unfold reconcileCsiAttachment
  dsimp only
  split
  · refine .ite (quiet_recordPvcEvent ..)
      (.andThen (quiet_csiDriverAttachRequired ..) fun _ =>
        .andThen (quiet_volumeAttachmentsForPv _) fun _ => .ite (.forEach fun _ _ =>
            .andThen (quiet_deleteAttachment _) fun _ => trivial)
          (.andThen (.ofOption _) fun _ => .ite (quiet_recordPvcEvent ..)
            (.andThen (quiet_storeGet ..) fun existing =>
              .andThen (quiet_publishedContext ..) fun _ =>
                quiet_recordAttachment ..)))
  · trivial

end Storage
end K1s
