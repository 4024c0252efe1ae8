import K1s.Storage.DeletionOutcome

/-!
# What the deletion of a claim does to the volumes of others

`_handle_pvc_deleted` goes by the volume name in the deleted claim and does not
look at the volume's claim reference.  The module gives the exact condition
under which the volumes that are claimed by others are left alone.
-/

namespace K1s
namespace Storage

open Py ApiShim Program

/-! ## Volumes that are claimed by others -/

/-- A path goes with a directory that is removed. -/
def isBelow (path directory : String) : Prop :=
  path = directory ∨ ((directory.toList.reverse.dropWhile (· == '/')).reverse ++ ['/']) <+:
      path.toList

/-- A call that takes hold of a volume: its data is removed, or its driver is
asked to delete or detach it. -/
def ExternalCall.Harms
    (controller : StorageController)
    (volume : K8sObject) : ExternalCall → Prop
  | .remove removed =>
      ∃ root path, backingOf controller volume = some (root, path) ∧ isBelow path removed
  | .deleteVolume driver handle | .controllerUnpublish driver handle _ =>
      csiVolume volume = some (driver, handle)
  | _ => False

/-- A volume is stored as it was, has its attachments, and was not taken hold
of. -/
structure Untouched
    (controller : StorageController) (store : ObjectStore) (key : ObjectKey) (row : ObjectRow)
    (world : World) : Prop where
  stored : world.store.row? key = some row
  attached : ∀ att ∈ attachmentsOf store key.name, att ∈ attachmentsOf world.store key.name
  unharmed : ∀ request ∈ world.calls, ¬ request.Harms controller (row.object key)

/-- Handling the deletion of a claim leaves the volumes alone that are claimed
by others. -/
def DeletionSafe
    (controller : StorageController) (store : ObjectStore)
    (pvc : K8sObject) : Prop :=
  ∀ (outside : Outside) (key : ObjectKey) (row : ObjectRow),
    key.gvr = pvResource → store.row? key = some row →
    pvClaimRefConflicts (row.object key) pvc = some true →
    Untouched controller store key row
      (runAlone (StorageOp.execute outside) (handlePvcDeleted controller pvc) ⟨store, []⟩).2

def namedVolume (store : ObjectStore) (pvc : K8sObject) : Option K8sObject :=
  (pvc.spec.lookup "volumeName").bind fun name =>
    if name.truthy then
      name.sqlText.join.bind fun text => store.get pvResource none text
    else none

/-- The driver of a volume is asked to detach it or to delete it. -/
def DriverAsked
    (controller : StorageController) (store : ObjectStore) (pv : K8sObject)
    (driver : String) : Prop :=
  controller.enableCsi = true ∧ controller.grpc = true ∧
    classUnreadable pv = false ∧ csiClient controller pv driver = true ∧
    (pvReclaimPolicy pv = some "Delete" ∨ attachRequired controller store driver = true ∧
        ∃ att ∈ attachmentsOf store pv.name, (attachmentNode att).isSome)

/-- What the volume `pv` of a deleted claim must not have in common with another
volume: the object, an attachment, the data on the host, the CSI volume. -/
structure Spared
    (controller : StorageController) (store : ObjectStore) (pv : K8sObject) (key : ObjectKey)
    (row : ObjectRow) : Prop where
  object : pvResource.key none pv.name = key →
    ¬ Reclaimable controller pv ∧ ¬ Releasable controller store pv
  attachments : controller.enableCsi = true → detachFails controller store pv = false →
    ∀ att ∈ attachmentsOf store pv.name, ∀ other ∈ attachmentsOf store key.name,
      other.key ≠ vaResource.key none att.name
  data : Reclaimable controller pv →
    ∀ root path otherRoot otherPath, backingOf controller pv = some (root, path) →
      backingOf controller (row.object key) = some (otherRoot, otherPath) →
      ¬ isBelow otherPath path
  csi : ∀ driver handle, csiVolume pv = some (driver, handle) →
    csiVolume (row.object key) = some (driver, handle) →
    ¬ DriverAsked controller store pv driver

section Spared

variable {outside : Outside} {controller : StorageController} {pv : K8sObject}
variable {store : ObjectStore} {key : ObjectKey} {row : ObjectRow} {world : World}

theorem mem_unpublishCalls (request : ExternalCall) :
    request ∈ unpublishCalls controller store pv ↔
      ∃ driver handle node, csiVolume pv = some (driver, handle) ∧
        request = .controllerUnpublish driver handle node ∧
        attachRequired controller store driver = true ∧ controller.grpc = true ∧
        csiClient controller pv driver = true ∧
        ∃ att ∈ attachmentsOf store pv.name, attachmentNode att = some node := by
  unfold unpublishCalls
  cases csiVolume pv with
  | none => simp
  | some volume =>
      obtain ⟨driver, handle⟩ := volume
      constructor
      · intro member
        dsimp only at member
        split at member
        · rename_i asked
          simp only [Bool.and_eq_true] at asked
          obtain ⟨node, listed, rfl⟩ := List.mem_map.mp member
          obtain ⟨att, attached, found⟩ := List.mem_filterMap.mp listed
          exact ⟨driver, handle, node, rfl, rfl, asked.1.1, asked.1.2, asked.2, att,
            attached, found⟩
        · simp at member
      · rintro ⟨_, _, node, ⟨⟩, rfl, required, installed, client, att, attached, found⟩
        simp only [required, installed, client, Bool.and_self, if_true]
        exact List.mem_map_of_mem (List.mem_filterMap.mpr ⟨att, attached, found⟩)

theorem mem_deleteCalls (request : ExternalCall) :
    request ∈ deleteCalls controller pv ↔ ∃ driver handle, csiVolume pv = some (driver, handle) ∧
        request = .deleteVolume driver handle ∧ controller.enableCsi = true ∧
        controller.grpc = true ∧ csiClient controller pv driver = true := by
  unfold deleteCalls
  cases csiVolume pv with
  | none => simp
  | some volume =>
      obtain ⟨driver, handle⟩ := volume
      constructor
      · intro member
        dsimp only at member
        split at member
        · rename_i asked
          simp only [Bool.and_eq_true] at asked
          exact ⟨driver, handle, rfl, by simpa using member, asked.1.1, asked.1.2, asked.2⟩
        · simp at member
      · rintro ⟨_, _, ⟨⟩, rfl, enabled, installed, client⟩
        simp [enabled, installed, client]

/-- The condition is enough. -/
theorem Outcome.untouched
    (outcome : Outcome outside controller store pv world) (kind : key.gvr = pvResource)
    (stored : store.row? key = some row) (spared : Spared controller store pv key row) :
    Untouched controller store key row world where
  stored := by
    rw [outcome.rows key spared.object, if_neg, stored]
    intro dropped
    unfold detachedKeys at dropped
    split at dropped
    · obtain ⟨att, _, same⟩ := List.mem_map.mp dropped
      rw [← same] at kind
      exact absurd kind (by decide : vaResource ≠ pvResource)
    · simp at dropped
  attached := by
    intro att member
    obtain ⟨listed, named⟩ := List.mem_filter.mp member
    obtain ⟨attKey, attRow, attStored, attKind, rfl⟩ :=
      (ObjectStore.mem_listAll _ _ _).mp listed
    refine List.mem_filter.mpr ⟨(ObjectStore.mem_listAll _ _ _).mpr
      ⟨attKey, attRow, ?_, attKind, rfl⟩, named⟩
    rw [outcome.rows attKey, if_neg, attStored]
    · intro dropped
      unfold detachedKeys at dropped
      split at dropped
      · rename_i detaches
        simp only [Bool.and_eq_true, Bool.not_eq_eq_eq_not, Bool.not_true] at detaches
        obtain ⟨own, attached, same⟩ := List.mem_map.mp dropped
        exact spared.attachments detaches.1 detaches.2 own attached _ member same.symm
      · simp at dropped
    · rintro rfl
      exact absurd attKind (by decide : pvResource ≠ vaResource)
  unharmed := by
    intro request made harms
    rcases outcome.calls request made with ⟨succeeds, asked⟩ | ⟨reclaimable, asked⟩ |
      ⟨reclaimable, root, path, backing, cleans⟩
    · obtain ⟨driver, handle, node, volume, rfl, required, installed, client, att,
        attached, found⟩ := (mem_unpublishCalls request).mp asked
      have readable : classUnreadable pv = false := by
        simpa [detachFails, volume, required, installed] using succeeds
      exact spared.csi driver handle volume harms
        ⟨enabled_of_attachRequired required, installed, readable, client,
          .inr ⟨required, att, attached, by simp [found]⟩⟩
    · obtain ⟨driver, handle, volume, rfl, enabled, installed, client⟩ :=
        (mem_deleteCalls request).mp asked
      have readable : classUnreadable pv = false := by
        simpa [csiDeleteFails, volume, enabled, installed] using reclaimable.2
      exact spared.csi driver handle volume harms
        ⟨enabled, installed, readable, client, .inl reclaimable.1⟩
    · cases request with
      | remove removed =>
          obtain ⟨otherRoot, otherPath, otherBacking, below⟩ := harms
          rw [show removed = path from cleans] at below
          exact spared.data reclaimable root path otherRoot otherPath backing otherBacking below
      | _ => first | exact harms | exact cleans

/-- The condition is needed. -/
theorem Outcome.spared
    (outcome : Outcome plainOutside controller store pv world)
    (named : store.row? (pvResource.key none pv.name) =
      some ⟨pv.metadata, pv.spec, pv.status, pv.resourceVersion⟩)
    (stored : store.row? key = some row)
    (untouched : Untouched controller store key row world) :
    Spared controller store pv key row where
  object := by
    rintro rfl
    constructor
    · intro reclaimable
      have gone := outcome.deleted reclaimable
      simp [untouched.stored] at gone
    · intro releasable
      obtain ⟨other, left, changed⟩ := outcome.released releasable
      simp only [untouched.stored, Option.some.injEq] at left
      simp only [stored, Option.some.injEq] at named
      exact changed (by rw [← left, named])
  attachments := by
    intro enabled succeeds att attached other otherAttached same
    have kept := untouched.attached other otherAttached
    obtain ⟨listed, _⟩ := List.mem_filter.mp kept
    obtain ⟨otherKey, otherRow, otherStored, otherKind, rfl⟩ :=
      (ObjectStore.mem_listAll _ _ _).mp listed
    have sameKey : otherKey = vaResource.key none att.name := same
    have dropped : otherKey ∈ detachedKeys controller store pv := by
      simp only [detachedKeys, enabled, succeeds, Bool.not_false, Bool.and_self, if_true]
      exact List.mem_map.mpr ⟨att, attached, sameKey.symm⟩
    rw [outcome.rows otherKey, if_pos dropped] at otherStored
    · simp at otherStored
    · rintro rfl
      exact absurd otherKind (by decide : pvResource ≠ vaResource)
  data := by
    intro reclaimable root path otherRoot otherPath backing otherBacking below
    exact untouched.unharmed (.remove path) (outcome.wiped rfl reclaimable root path backing)
      ⟨otherRoot, otherPath, otherBacking, below⟩
  csi := by
    rintro driver handle volume otherVolume
      ⟨enabled, installed, readable, client, delete | ⟨required, att, attached, found⟩⟩
    · refine untouched.unharmed (.deleteVolume driver handle)
        (outcome.driverDeleted ⟨delete, ?_⟩ _ ?_) otherVolume
      · simp [csiDeleteFails, readable]
      · exact (mem_deleteCalls _).mpr
          ⟨driver, handle, volume, rfl, enabled, installed, client⟩
    · obtain ⟨node, found⟩ := Option.isSome_iff_exists.mp found
      refine untouched.unharmed (.controllerUnpublish driver handle node)
        (outcome.unpublished ?_ _ ?_) otherVolume
      · simp [detachFails, volume, readable]
      · exact (mem_unpublishCalls _).mpr ⟨driver, handle, node, volume, rfl, required,
          installed, client, att, attached, found⟩

end Spared

/-- The handler goes on with the volume that the claim names. -/
theorem runAlone_handlePvcDeleted
    (outside : Outside) (controller : StorageController) (store : ObjectStore) (pvc : K8sObject) :
    (runAlone (StorageOp.execute outside) (handlePvcDeleted controller pvc) ⟨store, []⟩).2 =
      match namedVolume store pvc with
      | none => ⟨store, []⟩
      | some pv => (runAlone (StorageOp.execute outside)
          (reclaimVolume controller pv) ⟨store, []⟩).2 := by
  unfold handlePvcDeleted namedVolume
  cases pvc.spec.lookup "volumeName" with
  | none => rfl
  | some name =>
      simp only [ofOption, bind_eq, done_andThen, Option.bind_some]
      by_cases given : name.truthy = true
      · simp only [given, Bool.not_true, Bool.false_eq_true, if_false, if_true,
          storeGetNamed]
        rcases name.sqlText with _ | _ | text
        · rfl
        · rfl
        · simp only [Option.join_some, Option.bind_some, runAlone_storeGet_andThen]
          cases store.get pvResource none text <;> rfl
      · simp [given]

theorem row?_of_namedVolume
    {store : ObjectStore} {pvc pv : K8sObject} (named : namedVolume store pvc = some pv) :
    store.row? (pvResource.key none pv.name) =
      some ⟨pv.metadata, pv.spec, pv.status, pv.resourceVersion⟩ := by
  unfold namedVolume at named
  obtain ⟨name, _, read⟩ := Option.bind_eq_some_iff.mp named
  split at read
  · obtain ⟨text, _, found⟩ := Option.bind_eq_some_iff.mp read
    obtain ⟨row, stored, rfl⟩ := Option.map_eq_some_iff.mp found
    exact stored
  · simp at read

/-- Deleting a claim leaves the volumes of others alone exactly when the volume
that it names is none of them, has no attachment, data or CSI volume in common
with them, or is not acted on. -/
theorem deletionSafe_iff
    (controller : StorageController) (store : ObjectStore) (pvc : K8sObject) :
    DeletionSafe controller store pvc ↔ ∀ pv, namedVolume store pvc = some pv →
        ∀ key row, key.gvr = pvResource → store.row? key = some row →
          pvClaimRefConflicts (row.object key) pvc = some true →
          Spared controller store pv key row := by
  constructor
  · intro safe pv named key row kind stored conflicts
    have untouched := safe plainOutside key row kind stored conflicts
    rw [runAlone_handlePvcDeleted, named] at untouched
    exact outcome_reclaimVolume.spared (row?_of_namedVolume named) stored untouched
  · intro spared outside key row kind stored conflicts
    rw [runAlone_handlePvcDeleted]
    cases named : namedVolume store pvc with
    | none => exact ⟨stored, fun _ member => member, by simp⟩
    | some pv =>
        exact outcome_reclaimVolume.untouched kind stored
          (spared pv named key row kind stored conflicts)

/-! ## A claim whose binding was refused -/

/-- A claim that names the volume `pv1`. -/
def claimOfPv1 (name uid : String) (version : Nat) : K8sObject where
  gvr := pvcResource
  ns := some "default"
  name := name
  metadata := .dict [("name", .str name), ("uid", .str uid)]
  spec := .dict [("volumeName", .str "pv1")]
  status := .dict []
  resourceVersion := version

/-- The store after two claims for one volume have been created and then
reconciled, one after the other. -/
def refusedBinding : ObjectStore :=
  let store := (ObjectStore.empty.upsert pvResource none "pv1"
    (.dict [("name", .str "pv1")])
    (.dict [("persistentVolumeReclaimPolicy", .str "Delete")]) (.dict [])).2
  let store := (store.upsert pvcResource (some "default") "a"
    (claimOfPv1 "a" "uid-a" 2).metadata (claimOfPv1 "a" "uid-a" 2).spec (.dict [])).2
  let store := (store.upsert pvcResource (some "default") "b"
    (claimOfPv1 "b" "uid-b" 3).metadata (claimOfPv1 "b" "uid-b" 3).spec (.dict [])).2
  let first := (runAlone (StorageOp.execute plainOutside)
    (reconcilePvc plainController (claimOfPv1 "a" "uid-a" 2)) ⟨store, []⟩).2
  (runAlone (StorageOp.execute plainOutside)
    (reconcilePvc plainController (claimOfPv1 "b" "uid-b" 3)) first).2.store

/-- Deleting the claim that was refused deletes the volume of the other. -/
theorem refusedBinding_not_deletionSafe :
    ¬ DeletionSafe plainController refusedBinding (claimOfPv1 "b" "uid-b" 3) := by
  intro safe
  have claimed : (refusedBinding.row? (pvResource.key none "pv1")).map (fun row =>
      pvClaimRefConflicts (row.object (pvResource.key none "pv1"))
        (claimOfPv1 "b" "uid-b" 3)) = some (some true) := by decide
  obtain ⟨row, stored, conflicts⟩ := Option.map_eq_some_iff.mp claimed
  have untouched := safe plainOutside _ row rfl stored conflicts
  have gone : ((runAlone (StorageOp.execute plainOutside)
      (handlePvcDeleted plainController (claimOfPv1 "b" "uid-b" 3))
      ⟨refusedBinding, []⟩).2.store.row? (pvResource.key none "pv1")).isNone := by
    decide
  simp [untouched.stored] at gone

end Storage
end K1s
