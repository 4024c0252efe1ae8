import K1s.Storage.Deletion

/-!
# What the deletion of a claim does to the volume it names

The module computes what `_handle_pvc_deleted` does when it runs alone: which
attachments are removed, what becomes of the volume, which calls are made.
-/

namespace K1s
namespace Storage

open Py ApiShim Program

/-! ## What the parts of the handler compute -/

def attachmentsOf (store : ObjectStore) (pvName : String) : List K8sObject :=
  (store.listAll vaResource).filter fun att =>
    decide (((att.spec.or (.dict [])).item "source").item "persistentVolumeName" = .str pvName)

/-- Whether the volumes of a driver have to be attached to nodes. -/
def attachRequired
    (controller : StorageController) (store : ObjectStore)
    (driver : String) : Bool :=
  if !controller.enableCsi then false
  else if driver = "" then true
  else
    match store.get csiDriverResource none driver with
    | none => true
    | some object =>
        let spec := object.spec.or (.dict [])
        let raw := spec.item "attachRequired"
        !spec.isDict || raw = .null || raw.truthy

/-- The class that the volume names cannot be looked up, because its name is a
container. -/
def classUnreadable (pv : K8sObject) : Bool :=
  (volumeClass pv).truthy && (volumeClass pv).sqlText.isNone

def csiClient
    (controller : StorageController) (pv : K8sObject)
    (driver : String) : Bool :=
  csiControllerClient controller driver
    (if (volumeClass pv).truthy then some (volumeClass pv).toStr else none)

/-- Detaching the volume raises an exception. -/
def detachFails
    (controller : StorageController) (store : ObjectStore)
    (pv : K8sObject) : Bool :=
  match csiVolume pv with
  | none => false
  | some (driver, _) =>
      attachRequired controller store driver && controller.grpc && classUnreadable pv

/-- Deleting the volume on its driver raises an exception. -/
def csiDeleteFails (controller : StorageController) (pv : K8sObject) : Bool :=
  (csiVolume pv).isSome && controller.enableCsi && controller.grpc && classUnreadable pv

/-- The driver of a CSI volume is asked to detach it from nodes. -/
def unpublishCalls
    (controller : StorageController) (store : ObjectStore)
    (pv : K8sObject) : List ExternalCall :=
  match csiVolume pv with
  | none => []
  | some (driver, handle) =>
      if attachRequired controller store driver && controller.grpc &&
          csiClient controller pv driver then
        ((attachmentsOf store pv.name).filterMap attachmentNode).map
          (.controllerUnpublish driver handle)
      else []

/-- The store without the objects of a kind that have the given names. -/
def dropAll (gvr : Gvr) (names : List String) (store : ObjectStore) : ObjectStore :=
  names.foldl (fun store name => (store.delete gvr none name).2) store

theorem row?_dropAll
    (gvr : Gvr) (names : List String) (store : ObjectStore) (key : ObjectKey) :
    (dropAll gvr names store).row? key =
      if key ∈ names.map (gvr.key none) then none else store.row? key := by
  induction names generalizing store with
  | nil => simp [dropAll]
  | cons name rest ih =>
      have unfolded : dropAll gvr (name :: rest) store =
          dropAll gvr rest (store.delete gvr none name).2 := rfl
      rw [unfolded, ih, ObjectStore.row?_delete]
      by_cases dropped : key ∈ rest.map (gvr.key none)
      · simp [dropped]
      · simp only [dropped, if_false, List.map_cons, List.mem_cons, or_false]
        by_cases same : gvr.key none name = key
        · simp [same]
        · simp [same, Ne.symm same]

section Parts

variable (outside : Outside) (controller : StorageController) (pv : K8sObject)
variable (world : World)

theorem runAlone_forEach_unpublish (driver handle : String) (nodes : List String) :
    runAlone (StorageOp.execute outside) (Program.forEach nodes fun node => do
          let _ : Unit ← call (.controllerUnpublish driver handle node)) world =
      (some (), { world with
        calls := (nodes.map (.controllerUnpublish driver handle)).reverse ++ world.calls }) := by
  induction nodes generalizing world with
  | nil => rfl
  | cons node rest ih =>
      have continued := ih { world with
        calls := .controllerUnpublish driver handle node :: world.calls }
      simp only [List.map_cons, List.reverse_cons, List.append_assoc, List.singleton_append]
      exact continued

theorem runAlone_forEach_storeDelete (gvr : Gvr) (objects : List K8sObject) :
    runAlone (StorageOp.execute outside) (Program.forEach objects fun object => do
          let _ ← storeDelete gvr none object.name) world =
      (some (), { world with
        store := dropAll gvr (objects.map K8sObject.name) world.store }) := by
  induction objects generalizing world with
  | nil => rfl
  | cons object rest ih =>
      exact ih
        { world with store := (world.store.delete gvr none object.name).2 }

@[simp] theorem runAlone_storeGet_andThen
    {α : Type} (gvr : Gvr) (ns : Option String) (name : String)
    (next : Option K8sObject → StorageProgram α) :
    runAlone (StorageOp.execute outside) ((storeGet gvr ns name).andThen next) world =
      runAlone (StorageOp.execute outside) (next (world.store.get gvr ns name))
        world := rfl

theorem runAlone_storeDelete (gvr : Gvr) (ns : Option String) (name : String) :
    runAlone (StorageOp.execute outside) (storeDelete gvr ns name) world =
      (some (world.store.delete gvr ns name).1,
        { world with store := (world.store.delete gvr ns name).2 }) := rfl

theorem runAlone_csiDriverAttachRequired (driver : String) :
    runAlone (StorageOp.execute outside) (csiDriverAttachRequired controller driver) world =
      (some (attachRequired controller world.store driver), world) := by
  unfold csiDriverAttachRequired attachRequired
  split
  · rfl
  split
  · rfl
  rw [bind_eq, runAlone_storeGet_andThen]
  cases world.store.get csiDriverResource none driver <;> rfl

theorem runAlone_secretPresent (ns name : String) :
    ∃ answer, runAlone (StorageOp.execute outside) (secretPresent ns name) world =
      (some answer, world) := by
  unfold secretPresent
  split
  · exact ⟨_, rfl⟩
  rw [bind_eq, runAlone_storeGet_andThen]
  cases world.store.get secretsResource (some ns) name <;> exact ⟨_, rfl⟩

theorem runAlone_csiSecretFromParams (scSpec : Json) (secretKey : String) :
    ∃ answer, runAlone (StorageOp.execute outside)
      (csiSecretFromParams scSpec secretKey) world = (some answer, world) := by
  unfold csiSecretFromParams
  dsimp only
  split
  · exact ⟨_, rfl⟩
  obtain ⟨answer, read⟩ := runAlone_secretPresent outside world ((scSpec.item "parameters").item
      ("csi.storage.k8s.io/" ++ secretKey ++ "-secret-namespace")).toStr
    ((scSpec.item "parameters").item ("csi.storage.k8s.io/" ++ secretKey ++ "-secret-name")).toStr
  rw [bind_eq, runAlone_andThen, read]
  exact ⟨_, rfl⟩

theorem runAlone_classNamed :
    ∃ sc, runAlone (StorageOp.execute outside) (classNamed (volumeClass pv)) world =
      (if classUnreadable pv then none else some sc, world) := by
  unfold classNamed classUnreadable storeGetNamed
  cases (volumeClass pv).truthy with
  | false => exact ⟨none, rfl⟩
  | true =>
      cases (volumeClass pv).sqlText with
      | none => exact ⟨none, rfl⟩
      | some text =>
          cases text with
          | none => exact ⟨none, rfl⟩
          | some text => exact ⟨world.store.get scResource none text, rfl⟩

theorem runAlone_csiClientFor (driver secretKey : String) :
    runAlone (StorageOp.execute outside) (csiClientFor controller pv driver secretKey) world =
      (if classUnreadable pv then none else some (csiClient controller pv driver), world) := by
  obtain ⟨sc, named⟩ := runAlone_classNamed outside pv world
  unfold csiClientFor
  rw [bind_eq, runAlone_andThen, named]
  cases classUnreadable pv with
  | true => rfl
  | false =>
      obtain ⟨answer, read⟩ :=
        runAlone_csiSecretFromParams outside world (classSpec sc) secretKey
      simp only [Bool.false_eq_true, if_false, bind_eq, runAlone_andThen, read]
      rfl

/-- Detaching asks the driver first. -/
theorem runAlone_unpublishAttachments :
    runAlone (StorageOp.execute outside)
        (unpublishAttachments controller pv (attachmentsOf world.store pv.name))
        world =
      if detachFails controller world.store pv then (none, world)
      else (some (), { world with
        calls := (unpublishCalls controller world.store pv).reverse ++ world.calls }) := by
  unfold unpublishAttachments detachFails unpublishCalls
  cases csiVolume pv with
  | none => rfl
  | some volume =>
      obtain ⟨driver, handle⟩ := volume
      simp only [bind_eq, runAlone_andThen, runAlone_csiDriverAttachRequired]
      rcases required : attachRequired controller world.store driver with _ | _
      · simp
      rcases installed : controller.grpc with _ | _
      · simp
      simp only [Bool.not_true, Bool.or_self, Bool.false_eq_true, if_false,
        runAlone_andThen, runAlone_csiClientFor]
      rcases unreadable : classUnreadable pv with _ | _
      · rcases client : csiClient controller pv driver with _ | _
        · simp
        · simp only [Bool.not_true, Bool.false_eq_true, if_false,
            runAlone_forEach_unpublish]
          simp
      · simp

/-- The world after a volume has been detached. -/
def detach
    (controller : StorageController) (pv : K8sObject)
    (world : World) : World :=
  if controller.enableCsi then
    ⟨dropAll vaResource ((attachmentsOf world.store pv.name).map K8sObject.name) world.store,
      (unpublishCalls controller world.store pv).reverse ++ world.calls⟩
  else world

theorem detachFails_of_disabled
    (disabled : controller.enableCsi = false) (store : ObjectStore) :
    detachFails controller store pv = false := by
  unfold detachFails
  split
  · rfl
  · simp [attachRequired, disabled]

theorem runAlone_deleteVolumeAttachments :
    runAlone (StorageOp.execute outside) (deleteVolumeAttachments controller pv) world =
      if detachFails controller world.store pv then (none, world)
      else (some (), detach controller pv world) := by
  unfold deleteVolumeAttachments detach
  rcases enabled : controller.enableCsi with _ | _
  · rw [detachFails_of_disabled controller pv enabled]
    rfl
  have listed : runAlone (StorageOp.execute outside) (volumeAttachmentsForPv pv.name)
      world = (some (attachmentsOf world.store pv.name), world) := rfl
  simp only [Bool.not_true, Bool.false_eq_true, if_false, if_true, bind_eq,
    runAlone_andThen, listed, runAlone_unpublishAttachments]
  rcases detachFails controller world.store pv with _ | _
  · exact runAlone_forEach_storeDelete outside _ vaResource _
  · rfl

/-- The driver of a CSI volume is asked to delete it. -/
def deleteCalls (controller : StorageController) (pv : K8sObject) : List ExternalCall :=
  match csiVolume pv with
  | none => []
  | some (driver, handle) =>
      if controller.enableCsi && controller.grpc &&
          csiClient controller pv driver then
        [.deleteVolume driver handle]
      else []

theorem runAlone_csiDeleteVolume :
    runAlone (StorageOp.execute outside) (csiDeleteVolume controller pv) world =
      if csiDeleteFails controller pv then (none, world)
      else (some (), { world with
        calls := deleteCalls controller pv ++ world.calls }) := by
  unfold csiDeleteVolume csiDeleteFails deleteCalls
  cases csiVolume pv with
  | none => rfl
  | some volume =>
      obtain ⟨driver, handle⟩ := volume
      rcases enabled : controller.enableCsi with _ | _
      · simp
      rcases installed : controller.grpc with _ | _
      · simp
      simp only [Bool.not_true, Bool.or_self, Bool.false_eq_true, if_false, bind_eq,
        runAlone_andThen, runAlone_csiClientFor]
      rcases unreadable : classUnreadable pv with _ | _
      · rcases client : csiClient controller pv driver with _ | _
        · simp
        · rfl
      · simp

/-- A call of the clean-up: it only looks, or removes the path of the volume. -/
def CleansUp (path : String) : ExternalCall → Prop
  | .withinRoot _ _ | .pathExists _ | .isFileOrSymlink _ | .isDir _ => True
  | .remove removed => removed = path
  | _ => False

/-- The program makes calls of the clean-up only, and comes to its end. -/
def CleanUp (path : String) (program : StorageProgram Unit) : Prop :=
  ∀ world : World, ∃ calls, runAlone (StorageOp.execute outside) program world =
      (some (), { world with calls := calls ++ world.calls }) ∧
    ∀ call ∈ calls, CleansUp path call

variable {outside}

theorem CleanUp.nothing (path : String) : CleanUp outside path (.done ()) :=
  fun _ => ⟨[], rfl, by simp⟩

theorem CleanUp.call_andThen
    {path : String} (request : ExternalCall) {next : request.Reply → StorageProgram Unit}
    (own : CleansUp path request) (continued : ∀ reply, CleanUp outside path (next reply)) :
    CleanUp outside path ((call request).andThen next) := by
  intro world
  obtain ⟨calls, ran, rest⟩ := continued (outside world.calls request)
    { world with calls := request :: world.calls }
  refine ⟨calls ++ [request], ?_, ?_⟩
  · rw [List.append_assoc]
    exact ran
  · intro made member
    rcases List.mem_append.mp member with earlier | last
    · exact rest made earlier
    · rw [List.mem_singleton.mp last]
      exact own

theorem CleanUp.ite
    {path : String} {condition : Prop} [Decidable condition]
    {first second : StorageProgram Unit} (whenTrue : CleanUp outside path first)
    (whenFalse : CleanUp outside path second) :
    CleanUp outside path (if condition then first else second) := by
  split
  · exact whenTrue
  · exact whenFalse

variable (outside) in
theorem cleanUp_cleanupBackingPath
    {root path : String} (backing : backingOf controller pv = some (root, path)) :
    CleanUp outside path (cleanupBackingPath controller pv) := by
  have removes : CleanUp outside path ((call (.remove path)).andThen fun _ => .done ()) :=
    .call_andThen (.remove path) rfl fun _ => .nothing path
  unfold cleanupBackingPath
  rw [backing]
  refine .call_andThen (.withinRoot root path) trivial fun _ =>
    .ite (.nothing path) ?_
  refine .call_andThen (.pathExists path) trivial fun _ => .ite (.nothing path) ?_
  refine .call_andThen (.isFileOrSymlink path) trivial fun (_ : Bool) =>
    .ite removes ?_
  exact .call_andThen (.isDir path) trivial fun _ => .ite (.nothing path) removes

end Parts

/-! ## What the handler does to the volume that the claim names -/

/-- The volume is deleted with the claim. -/
def Reclaimable (controller : StorageController) (pv : K8sObject) : Prop :=
  pvReclaimPolicy pv = some "Delete" ∧ csiDeleteFails controller pv = false

/-- The volume is kept and marked as released. -/
def Releasable
    (controller : StorageController) (store : ObjectStore)
    (pv : K8sObject) : Prop :=
  detachFails controller store pv = false ∧
    (∃ policy, pvReclaimPolicy pv = some policy ∧ policy ≠ "Delete") ∧
    ∃ status, pv.status.asDict = some status ∧ Dict.get status "phase" ≠ .str "Released"

/-- The keys of the attachments that are removed with the claim. -/
def detachedKeys
    (controller : StorageController) (store : ObjectStore)
    (pv : K8sObject) : List ObjectKey :=
  if controller.enableCsi && !detachFails controller store pv then
    (attachmentsOf store pv.name).map fun att => vaResource.key none att.name
  else []

/-- The last part of the handler, for the volume that the claim names. -/
def reclaimVolume (controller : StorageController) (pv : K8sObject) :
    StorageProgram Unit := do
  deleteVolumeAttachments controller pv
  let policy ← .ofOption (pvReclaimPolicy pv)
  if policy = "Delete" then deletePvAndBacking controller pv
  else releasePv pv

theorem enabled_of_attachRequired
    {controller : StorageController} {store : ObjectStore} {driver : String}
    (required : attachRequired controller store driver = true) :
    controller.enableCsi = true := by
  by_contra disabled
  simp [attachRequired, disabled] at required

theorem detachFails_eq_false
    {controller : StorageController} {pv : K8sObject}
    (readable : csiDeleteFails controller pv = false) (store : ObjectStore) :
    detachFails controller store pv = false := by
  unfold detachFails
  unfold csiDeleteFails at readable
  split
  · rfl
  · rename_i driver handle volume
    by_contra fails
    simp only [Bool.not_eq_false, Bool.and_eq_true] at fails
    obtain ⟨⟨required, installed⟩, unreadable⟩ := fails
    have enabled := enabled_of_attachRequired required
    simp [volume, enabled, installed, unreadable] at readable

/-- Removing attachments changes neither the drivers nor the volumes. -/
theorem row?_detach
    (controller : StorageController) (pv : K8sObject) (world : World) (key : ObjectKey) :
    (detach controller pv world).store.row? key =
      if controller.enableCsi = true ∧ key ∈ (attachmentsOf world.store pv.name).map
          (fun att => vaResource.key none att.name) then none
      else world.store.row? key := by
  unfold detach
  rcases enabled : controller.enableCsi with _ | _
  · simp
  · simp only [if_true, row?_dropAll, List.map_map, true_and]
    rfl

theorem attachmentsOf_detach
    (controller : StorageController) (pv : K8sObject) (world : World) (name : String) :
    attachmentsOf (detach controller pv world).store name ⊆ attachmentsOf world.store name := by
  intro att member
  obtain ⟨listed, named⟩ := List.mem_filter.mp member
  obtain ⟨key, row, stored, kind, equal⟩ :=
    (ObjectStore.mem_listAll _ _ _).mp listed
  rw [row?_detach] at stored
  split at stored
  · simp at stored
  · exact List.mem_filter.mpr
      ⟨(ObjectStore.mem_listAll _ _ _).mpr ⟨key, row, stored, kind, equal⟩, named⟩

theorem row?_detach_of_kind
    (controller : StorageController) (pv : K8sObject) (world : World) {key : ObjectKey}
    (kind : key.gvr ≠ vaResource) :
    (detach controller pv world).store.row? key = world.store.row? key := by
  rw [row?_detach, if_neg]
  rintro ⟨_, dropped⟩
  obtain ⟨att, _, equal⟩ := List.mem_map.mp dropped
  exact kind (equal ▸ rfl)

theorem attachRequired_detach
    (controller : StorageController) (pv : K8sObject) (world : World) (driver : String) :
    attachRequired controller (detach controller pv world).store driver =
      attachRequired controller world.store driver := by
  have same : (detach controller pv world).store.get csiDriverResource none driver =
      world.store.get csiDriverResource none driver := by
    unfold ObjectStore.get
    rw [row?_detach_of_kind controller pv world (by decide : csiDriverResource ≠ vaResource)]
  unfold attachRequired
  rw [same]

theorem unpublishCalls_detach
    (controller : StorageController) (pv : K8sObject) (world : World) :
    unpublishCalls controller (detach controller pv world).store pv ⊆
      unpublishCalls controller world.store pv := by
  unfold unpublishCalls
  split
  · simp
  · rw [attachRequired_detach]
    split
    · exact List.map_subset _ (List.filterMap_subset _ (attachmentsOf_detach ..))
    · simp

/-- What is left after the volume `pv` was detached, and deleted or released. -/
structure Outcome
    (outside : Outside) (controller : StorageController) (store : ObjectStore) (pv : K8sObject)
    (world : World) : Prop where
  deleted : Reclaimable controller pv → world.store.row? (pvResource.key none pv.name) = none
  released : Releasable controller store pv →
    ∃ row, world.store.row? (pvResource.key none pv.name) = some row ∧ row.status ≠ pv.status
  rows : ∀ key, (pvResource.key none pv.name = key →
      ¬ Reclaimable controller pv ∧ ¬ Releasable controller store pv) →
    world.store.row? key =
      if key ∈ detachedKeys controller store pv then none else store.row? key
  calls : ∀ request ∈ world.calls, (detachFails controller store pv = false ∧
        request ∈ unpublishCalls controller store pv) ∨
      (Reclaimable controller pv ∧ request ∈ deleteCalls controller pv) ∨
      (Reclaimable controller pv ∧ ∃ root path,
        backingOf controller pv = some (root, path) ∧ CleansUp path request)
  unpublished : detachFails controller store pv = false →
    ∀ request ∈ unpublishCalls controller store pv, request ∈ world.calls
  driverDeleted : Reclaimable controller pv →
    ∀ request ∈ deleteCalls controller pv, request ∈ world.calls
  wiped : outside = plainOutside → Reclaimable controller pv →
    ∀ root path, backingOf controller pv = some (root, path) → .remove path ∈ world.calls

theorem unpublishCalls_of_disabled
    {controller : StorageController} (disabled : controller.enableCsi = false)
    (store : ObjectStore) (pv : K8sObject) : unpublishCalls controller store pv = [] := by
  unfold unpublishCalls
  split
  · rfl
  · simp [attachRequired, disabled]

theorem calls_detach (controller : StorageController) (pv : K8sObject) (world : World) :
    (detach controller pv world).calls =
      (unpublishCalls controller world.store pv).reverse ++ world.calls := by
  unfold detach
  rcases enabled : controller.enableCsi with _ | _
  · simp [unpublishCalls_of_disabled enabled]
  · rfl

theorem row?_detach_eq
    {controller : StorageController} {store : ObjectStore} {pv : K8sObject}
    (succeeds : detachFails controller store pv = false) (calls : List ExternalCall)
    (key : ObjectKey) :
    (detach controller pv ⟨store, calls⟩).store.row? key =
      if key ∈ detachedKeys controller store pv then none else store.row? key := by
  rw [row?_detach]
  rcases enabled : controller.enableCsi with _ | _ <;> simp [detachedKeys, enabled, succeeds]

/-- The second removal of attachments finds nothing that the first has left. -/
theorem row?_detach_detach
    (controller : StorageController) (pv : K8sObject) (world : World) (key : ObjectKey) :
    (detach controller pv (detach controller pv world)).store.row? key =
      (detach controller pv world).store.row? key := by
  rw [row?_detach, row?_detach]
  rcases enabled : controller.enableCsi with _ | _
  · simp
  · simp only [true_and]
    split
    · rename_i again
      obtain ⟨att, member, equal⟩ := List.mem_map.mp again
      rw [if_pos (List.mem_map.mpr
        ⟨att, attachmentsOf_detach controller pv world pv.name member, equal⟩)]
    · rfl

section Outcomes

variable {outside : Outside} {controller : StorageController} {pv : K8sObject}
variable {store : ObjectStore}

/-- The volume stays as it is. -/
theorem outcome_of_kept
    {world : World} (kept : ¬ Reclaimable controller pv ∧ ¬ Releasable controller store pv)
    (rows : ∀ key, world.store.row? key =
      if key ∈ detachedKeys controller store pv then none else store.row? key)
    (calls : ∀ request, request ∈ world.calls ↔ detachFails controller store pv = false ∧
        request ∈ unpublishCalls controller store pv) :
    Outcome outside controller store pv world where
  deleted reclaimable := absurd reclaimable kept.1
  released releasable := absurd releasable kept.2
  rows key _ := rows key
  calls request made := .inl ((calls request).mp made)
  unpublished succeeds request asked := (calls request).mpr ⟨succeeds, asked⟩
  driverDeleted reclaimable := absurd reclaimable kept.1
  wiped _ reclaimable := absurd reclaimable kept.1

theorem mem_calls_detach
    (succeeds : detachFails controller store pv = false) (request : ExternalCall) :
    request ∈ (detach controller pv ⟨store, []⟩).calls ↔ detachFails controller store pv = false ∧
        request ∈ unpublishCalls controller store pv := by
  simp [calls_detach, succeeds]

/-- The second time, the driver is asked nothing new. -/
theorem mem_calls_detach_detach
    (succeeds : detachFails controller store pv = false) (request : ExternalCall) :
    request ∈ (detach controller pv (detach controller pv ⟨store, []⟩)).calls ↔
      detachFails controller store pv = false ∧ request ∈ unpublishCalls controller store pv := by
  rw [calls_detach, List.mem_append, mem_calls_detach succeeds, List.mem_reverse]
  constructor
  · rintro (again | before)
    · exact ⟨succeeds, unpublishCalls_detach controller pv ⟨store, []⟩ again⟩
    · exact before
  · exact .inr

variable (outside controller pv) in
/-- The calls that clean up after a volume. -/
theorem runAlone_cleanupBackingPath (world : World) :
    ∃ calls, runAlone (StorageOp.execute outside) (cleanupBackingPath controller pv)
        world = (some (), { world with calls := calls ++ world.calls }) ∧
      (∀ request ∈ calls, ∃ root path,
        backingOf controller pv = some (root, path) ∧ CleansUp path request) ∧
      (outside = plainOutside → ∀ root path,
        backingOf controller pv = some (root, path) → .remove path ∈ calls) := by
  cases backing : backingOf controller pv with
  | none =>
      refine ⟨[], ?_, by simp, by simp⟩
      simp [cleanupBackingPath, backing]
  | some place =>
      obtain ⟨root, path⟩ := place
      obtain ⟨calls, ran, own⟩ :=
        cleanUp_cleanupBackingPath outside controller pv backing world
      refine ⟨calls, ran, fun request made => ⟨root, path, rfl, own request made⟩, ?_⟩
      rintro rfl _ _ same
      cases same
      have removed : runAlone (StorageOp.execute plainOutside)
          (cleanupBackingPath controller pv) world =
            (some (), { world with calls := [.remove path, .isDir path,
              .isFileOrSymlink path, .pathExists path, .withinRoot root path] ++
                world.calls }) := by
        unfold cleanupBackingPath
        rw [backing]
        rfl
      rw [removed] at ran
      simp only [Prod.mk.injEq, World.mk.injEq, true_and] at ran
      rw [← List.append_cancel_right ran]
      simp

theorem outcome_releasePv
    (succeeds : detachFails controller store pv = false) {policy : String}
    (read : pvReclaimPolicy pv = some policy) (keeps : policy ≠ "Delete") :
    Outcome outside controller store pv (runAlone (StorageOp.execute outside) (releasePv pv)
        (detach controller pv ⟨store, []⟩)).2 := by
  have unreclaimable : ¬ Reclaimable controller pv := by
    rintro ⟨delete, _⟩
    simp only [read, Option.some.injEq] at delete
    exact keeps delete
  unfold releasePv
  cases readStatus : pv.status.asDict with
  | none =>
      refine outcome_of_kept ⟨unreclaimable, ?_⟩ (row?_detach_eq succeeds [])
        (mem_calls_detach succeeds)
      rintro ⟨_, _, status, present, _⟩
      simp [readStatus] at present
  | some status =>
      by_cases before : Dict.get status "phase" = .str "Released"
      · simp only [ofOption, bind_eq, done_andThen, before, if_true]
        refine outcome_of_kept ⟨unreclaimable, ?_⟩ (row?_detach_eq succeeds [])
          (mem_calls_detach succeeds)
        rintro ⟨_, _, other, present, unreleased⟩
        simp only [readStatus, Option.some.injEq] at present
        exact unreleased (present ▸ before)
      · simp only [ofOption, bind_eq, done_andThen, before, if_false]
        have written : (runAlone (StorageOp.execute outside) (writePv pv pv.metadata
            pv.spec (.dict (Dict.set status "phase" (.str "Released"))))
            (detach controller pv ⟨store, []⟩)).2 =
          { detach controller pv ⟨store, []⟩ with
            store := ((detach controller pv ⟨store, []⟩).store.upsert pvResource none
              pv.name pv.metadata pv.spec
              (.dict (Dict.set status "phase" (.str "Released")))).2 } := rfl
        rw [written]
        constructor
        · exact fun reclaimable => absurd reclaimable unreclaimable
        · intro _
          rw [ObjectStore.row?_upsert, if_pos rfl]
          refine ⟨_, rfl, fun same => before ?_⟩
          simp only [Json.or_dict_nil] at same
          simp only [← same, Json.asDict_dict, Option.some.injEq] at readStatus
          rw [← readStatus, Dict.get_set_self]
        · intro key kept
          rw [ObjectStore.row?_upsert, if_neg, row?_detach_eq succeeds]
          intro same
          exact (kept same).2 ⟨succeeds, ⟨policy, read, keeps⟩, status, readStatus, before⟩
        · intro request made
          exact .inl ((mem_calls_detach succeeds request).mp made)
        · intro _ request asked
          exact (mem_calls_detach succeeds request).mpr ⟨succeeds, asked⟩
        · exact fun reclaimable => absurd reclaimable unreclaimable
        · exact fun _ reclaimable => absurd reclaimable unreclaimable

theorem outcome_deletePvAndBacking
    (succeeds : detachFails controller store pv = false)
    (read : pvReclaimPolicy pv = some "Delete") :
    Outcome outside controller store pv
      (runAlone (StorageOp.execute outside) (deletePvAndBacking controller pv)
        (detach controller pv ⟨store, []⟩)).2 := by
  have unreleasable : ¬ Releasable controller store pv := by
    rintro ⟨_, ⟨policy, other, keeps⟩, _⟩
    simp only [read, Option.some.injEq] at other
    exact keeps other.symm
  have again : detachFails controller (detach controller pv ⟨store, []⟩).store pv =
      false := by
    unfold detachFails at succeeds ⊢
    split
    · rfl
    · rename_i volume
      simpa only [volume, attachRequired_detach] using succeeds
  have rows := fun key => (row?_detach_detach controller pv ⟨store, []⟩ key).trans
    (row?_detach_eq succeeds [] key)
  unfold deletePvAndBacking
  simp only [bind_eq, runAlone_andThen, runAlone_deleteVolumeAttachments, again,
    Bool.false_eq_true, if_false, runAlone_csiDeleteVolume]
  rcases readable : csiDeleteFails controller pv with _ | _
  · obtain ⟨calls, ran, own, wiped⟩ := runAlone_cleanupBackingPath outside
      controller pv
      { detach controller pv (detach controller pv ⟨store, []⟩) with
        calls := deleteCalls controller pv ++
          (detach controller pv (detach controller pv ⟨store, []⟩)).calls }
    simp only [Bool.false_eq_true, if_false, ran]
    have reclaimable : Reclaimable controller pv := ⟨read, readable⟩
    simp only [runAlone_storeDelete, pure_eq, runAlone_done]
    constructor
    · intro _
      rw [ObjectStore.row?_delete, if_pos rfl]
    · exact fun releasable => absurd releasable unreleasable
    · intro key kept
      rw [ObjectStore.row?_delete, if_neg, rows]
      exact fun same => (kept same).1 reclaimable
    · intro request made
      rcases List.mem_append.mp made with cleaning | earlier
      · exact .inr (.inr ⟨reclaimable, own request cleaning⟩)
      rcases List.mem_append.mp earlier with deleting | detaching
      · exact .inr (.inl ⟨reclaimable, deleting⟩)
      · exact .inl ((mem_calls_detach_detach succeeds request).mp detaching)
    · intro _ request asked
      exact List.mem_append_right _ (List.mem_append_right _
        ((mem_calls_detach_detach succeeds request).mpr ⟨succeeds, asked⟩))
    · intro _ request asked
      exact List.mem_append_right _ (List.mem_append_left _ asked)
    · intro plain _ root path backing
      exact List.mem_append_left _ (wiped plain root path backing)
  · refine outcome_of_kept ⟨?_, unreleasable⟩ rows (mem_calls_detach_detach succeeds)
    rintro ⟨_, readable'⟩
    simp [readable] at readable'

theorem outcome_reclaimVolume :
    Outcome outside controller store pv
      (runAlone (StorageOp.execute outside) (reclaimVolume controller pv) ⟨store, []⟩).2 := by
  unfold reclaimVolume
  simp only [bind_eq, runAlone_andThen, runAlone_deleteVolumeAttachments]
  rcases succeeds : detachFails controller store pv with _ | _
  · cases read : pvReclaimPolicy pv with
    | none =>
        refine outcome_of_kept ⟨?_, ?_⟩ (row?_detach_eq succeeds []) (mem_calls_detach succeeds)
        · rintro ⟨delete, _⟩
          simp [read] at delete
        · rintro ⟨_, ⟨policy, present, _⟩, _⟩
          simp [read] at present
    | some policy =>
        by_cases delete : policy = "Delete"
        · subst delete
          exact outcome_deletePvAndBacking succeeds read
        · simp only [Bool.false_eq_true, if_false, ofOption, runAlone_done, delete]
          exact outcome_releasePv succeeds read delete
  · refine outcome_of_kept ⟨?_, ?_⟩ ?_ ?_
    · rintro ⟨_, readable⟩
      simp [detachFails_eq_false readable] at succeeds
    · rintro ⟨detached, _⟩
      simp [succeeds] at detached
    · simp [detachedKeys, succeeds]
    · simp [succeeds]

end Outcomes

end Storage
end K1s
