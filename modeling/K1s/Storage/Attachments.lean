import K1s.Storage.BindingInvariant
import K1s.Storage.DeletionOutcome

/-!
# Attachments of volumes with one writer

The attachment of a CSI volume to a node is an object of its own, created,
retried and removed by `_reconcile_csi_attachment`.  A volume that allows one
writer is marked as attached to at most one node, in every state that a sequence
of calls goes through, wherever the selected node moves and whatever the driver
answers.
-/

namespace K1s
namespace Storage

open Py ApiShim Program

/-! ## The property -/

def AttachedTo (store : ObjectStore) (volume node : String) : Prop :=
  ∃ att ∈ attachmentsOf store volume, attachmentAttached att = true ∧
    attachmentNode att = some node

/-- The volume is not marked as attached to two nodes. -/
def AttachedOnce (store : ObjectStore) (volume : String) : Prop :=
  ∀ first second, AttachedTo store volume first → AttachedTo store volume second → first = second

/-- What happens: the attachment of a volume is reconciled for a claim, or
someone else writes or deletes an object. -/
inductive AttachmentAction
  | reconcile (pvc pv : K8sObject)
  | other (operation : StoreOp)

def attachmentStep
    (controller : StorageController) (outside : Outside)
    (world : World) : AttachmentAction → Option World
  | .reconcile pvc pv =>
      some (runAlone (StorageOp.execute outside) (reconcileCsiAttachment controller pvc pv)
        world).2
  | .other operation => some { world with store := (operation.execute world.store).2 }

/-- The volume is attached to one node at most before the action, and after
every operation of it. -/
def AttachedOnceThroughout
    (controller : StorageController) (outside : Outside) (volume : String)
    (world : World) : AttachmentAction → Prop
  | .reconcile pvc pv =>
      AttachedOnce world.store volume ∧
        (reconcileCsiAttachment controller pvc pv).Along (StorageOp.execute outside)
          (fun reached operation =>
            AttachedOnce (operation.execute outside reached).2.store volume) world
  | .other _ => AttachedOnce world.store volume

/-- Operations that add no attachment and change none. -/
def Removing : StorageOp → Prop
  | .store (.upsert _ gvr _ _ _ _ _) => gvr ≠ vaResource
  | _ => True

/-- The actions of the property: the volume allows one writer, and only
reconciliation writes attachments. -/
def AttachmentAction.Admissible (volume : String) : AttachmentAction → Prop
  | .reconcile _ pv =>
      pv.name = volume → isSingleWriter (pv.spec.or (.dict [])) ≠ some false
  | .other operation => Removing (.store operation)

/-! ## One operation -/

theorem attachedTo_iff (store : ObjectStore) (volume node : String) :
    AttachedTo store volume node ↔ ∃ key row, store.row? key = some row ∧ key.gvr = vaResource ∧
        ((row.spec.or (.dict [])).item "source").item "persistentVolumeName" = .str volume ∧
        attachmentAttached (row.object key) = true ∧
        attachmentNode (row.object key) = some node := by
  unfold AttachedTo attachmentsOf
  constructor
  · rintro ⟨att, member, attached, named⟩
    obtain ⟨listed, source⟩ := List.mem_filter.mp member
    obtain ⟨key, row, stored, kind, rfl⟩ := (ObjectStore.mem_listAll _ _ _).mp listed
    exact ⟨key, row, stored, kind, of_decide_eq_true source, attached, named⟩
  · rintro ⟨key, row, stored, kind, source, attached, named⟩
    exact ⟨row.object key, List.mem_filter.mpr
      ⟨(ObjectStore.mem_listAll _ _ _).mpr ⟨key, row, stored, kind, rfl⟩,
        decide_eq_true source⟩, attached, named⟩

variable {node : String}

/-- A volume is attached where it was when no attachment is added or changed. -/
theorem AttachedTo.before
    {first second : ObjectStore} {volume node : String} (attached : AttachedTo second volume node)
    (fewer : ∀ key row, key.gvr = vaResource → second.row? key = some row →
      first.row? key = some row) :
    AttachedTo first volume node := by
  obtain ⟨key, row, stored, kind, rest⟩ := (attachedTo_iff ..).mp attached
  exact (attachedTo_iff ..).mpr ⟨key, row, fewer key row kind stored, kind, rest⟩

variable {store : ObjectStore} {other pvName : String}

/-- A new attachment attaches its volume to its node, and changes nothing else
but what it replaces. -/
theorem AttachedTo.before_write
    {name volume node pvName other driver : String} {metadata status : Json}
    (attached : AttachedTo (store.upsert vaResource none name metadata
        (.dict [("attacher", .str driver), ("nodeName", .str other),
          ("source", .dict [("persistentVolumeName", .str pvName)])]) status).2
      volume node) :
    pvName = volume ∧ node = other ∨ AttachedTo store volume node := by
  obtain ⟨key, row, stored, kind, source, marked, named⟩ := (attachedTo_iff ..).mp attached
  rw [ObjectStore.row?_upsert] at stored
  split at stored
  · obtain rfl := Option.some.inj stored
    have sameVolume : pvName = volume := by
      simpa [Dict.get, Dict.find?_cons] using source
    refine .inl ⟨sameVolume, ?_⟩
    unfold attachmentNode at named
    dsimp only at named
    split at named
    · simpa [ObjectRow.object, Dict.get, Dict.find?_cons, Json.toStr] using named.symm
    · cases named
  · exact .inr ((attachedTo_iff ..).mpr ⟨key, row, stored, kind, source, marked, named⟩)

variable {operation : StorageOp}

theorem row?_of_removing
    {outside : Outside} (removing : Removing operation) (world : World) (key : ObjectKey)
    (row : ObjectRow) (kind : key.gvr = vaResource)
    (stored : (operation.execute outside world).2.store.row? key = some row) :
    world.store.row? key = some row := by
  cases operation with
  | call request => exact stored
  | store operation =>
      cases operation with
      | get | list | listAll => exact stored
      | delete gvr ns name =>
          rw [execute_store_store, StoreOp.execute, ObjectStore.row?_delete] at stored
          split at stored
          · cases stored
          · exact stored
      | upsert basis gvr ns name metadata spec status =>
          rw [execute_store_store, StoreOp.execute, ObjectStore.row?_upsert, if_neg] at stored
          · exact stored
          · rintro rfl
            exact removing kind

/-- The operations of a call for a node: those that remove attachments, and the
write of the attachment to the node. -/
def Attaching (pvName node : String) (operation : StorageOp) : Prop :=
  Removing operation ∨ ∃ basis name metadata driver status,
    operation = .store (.upsert basis vaResource none name metadata
      (.dict [("attacher", .str driver), ("nodeName", .str node),
        ("source", .dict [("persistentVolumeName", .str pvName)])]) status)

/-- The volume is attached once, and the volume of the call to no other node
than that of the call. -/
structure Reserved (volume pvName node : String) (world : World) : Prop where
  once : AttachedOnce world.store volume
  free : pvName = volume → ∀ other, AttachedTo world.store volume other → other = node

variable {world : World}

theorem AttachedOnce.execute
    {volume : String} (once : AttachedOnce world.store volume) (outside : Outside)
    (removing : Removing operation) :
    AttachedOnce (operation.execute outside world).2.store volume :=
  fun first second one two => once first second
    (one.before (row?_of_removing removing world)) (two.before (row?_of_removing removing world))

/-- The operations of a call keep the reservation. -/
theorem Reserved.execute
    {outside : Outside} {volume pvName node : String}
    (reserved : Reserved volume pvName node world) (attaching : Attaching pvName node operation) :
    Reserved volume pvName node (operation.execute outside world).2 := by
  rcases attaching with removing | ⟨basis, name, metadata, driver, status, rfl⟩
  · refine ⟨reserved.once.execute outside removing, fun same other attached => ?_⟩
    exact reserved.free same other (attached.before (row?_of_removing removing world))
  · constructor
    · intro first second one two
      rcases one.before_write with ⟨same, rfl⟩ | before
      · rcases two.before_write with ⟨_, rfl⟩ | other
        · rfl
        · exact (reserved.free same second other).symm
      · rcases two.before_write with ⟨same, rfl⟩ | other
        · exact reserved.free same first before
        · exact reserved.once first second before other
    · intro same other attached
      rcases attached.before_write with ⟨_, rfl⟩ | before
      · rfl
      · exact reserved.free same other before

/-! ## One call -/

theorem removing_of_looking (operation : StorageOp) (looking : Looking operation) :
    Removing operation := by
  cases operation with
  | call request => trivial
  | store operation =>
      cases operation with
      | get | list | listAll | delete => trivial
      | upsert basis gvr ns name metadata spec status =>
          obtain rfl : gvr = eventResource := looking
          simp [Removing, eventResource, vaResource]

theorem removing_delete (name : String) :
    (storeDelete vaResource none name).Uses Removing :=
  ⟨trivial, fun _ => trivial⟩

theorem attaching_recordAttachment
    (pvc : K8sObject) (pvName driver handle node name : String)
    (attachments : List K8sObject) (singleWriter : Bool)
    (published : Except String (List (String × String))) :
    (recordAttachment pvc pvName driver handle node name attachments singleWriter
      published).Uses (Attaching pvName node) := by
  refine .andThen ((looking_attachError ..).mono fun operation looking =>
      .inl (removing_of_looking operation looking)) fun _ =>
    .andThen ⟨.inr ⟨_, _, _, _, _, rfl⟩, fun _ => trivial⟩
      fun _ => .ite (.forEach fun att _ => ?_) trivial
  split
  · trivial
  · exact .ite trivial (.andThen ((removing_delete _).mono fun _ => .inl) fun _ => trivial)

section Call

variable {outside : Outside} {volume : String}

/-- The condition on each operation. -/
abbrev KeepsAttachedOnce (outside : Outside) (volume : String) (world : World)
    (operation : StorageOp) : Prop :=
  AttachedOnce (operation.execute outside world).2.store volume

variable {α : Type}

theorem checked_attaching
    {program : StorageProgram α} (uses : program.Uses (Attaching pvName node))
    (reserved : Reserved volume pvName node world) :
    program.Checked (StorageOp.execute outside) (KeepsAttachedOnce outside volume)
      (fun _ => Reserved volume pvName node) world :=
  uses.checked (fun _ attaching _ before =>
    ⟨(before.execute attaching).once, before.execute attaching⟩) reserved

theorem checked_removing
    {program : StorageProgram α} (uses : program.Uses Removing)
    (once : AttachedOnce world.store volume) :
    program.Checked (StorageOp.execute outside) (KeepsAttachedOnce outside volume)
      (fun _ reached => AttachedOnce reached.store volume) world :=
  uses.checked (fun _ removing _ before =>
    ⟨AttachedOnce.execute before outside removing,
      AttachedOnce.execute before outside removing⟩) once

theorem checked_looking
    {program : StorageProgram α} (uses : program.Uses Looking)
    (once : AttachedOnce world.store volume) :
    program.Checked (StorageOp.execute outside) (KeepsAttachedOnce outside volume)
      (fun _ reached => AttachedOnce reached.store volume) world :=
  checked_removing (uses.mono removing_of_looking) once

theorem eq_of_conflictNodes
    (none_ : (conflictNodes (attachmentsOf store volume) node).isEmpty = true)
    (attached : AttachedTo store volume other) : other = node := by
  obtain ⟨att, member, marked, named⟩ := attached
  by_contra different
  have listed : other ∈ conflictNodes (attachmentsOf store volume) node := by
    unfold conflictNodes
    rw [List.mem_insertionSort, List.mem_dedup, List.mem_filter]
    refine ⟨List.mem_filterMap.mpr ⟨att, List.mem_filter.mpr ⟨member, marked⟩, named⟩, ?_⟩
    simpa using different
  rw [List.isEmpty_iff.mp none_] at listed
  cases listed

/-- Every operation of a call keeps the volume attached once. -/
theorem checked_reconcileCsiAttachment
    {controller : StorageController} {pvc pv : K8sObject}
    (single : pv.name = volume → isSingleWriter (pv.spec.or (.dict [])) ≠ some false)
    (once : AttachedOnce world.store volume) :
    (reconcileCsiAttachment controller pvc pv).Checked (StorageOp.execute outside)
      (KeepsAttachedOnce outside volume)
      (fun _ reached => AttachedOnce reached.store volume) world := by
  unfold reconcileCsiAttachment
  dsimp only
  split
  · next csi node _ _ _ =>
      refine Checked.ite (fun _ => checked_looking (looking_recordPvcEvent ..) once) fun _ => ?_
      refine Checked.andThen (checked_looking (looking_csiDriverAttachRequired ..) once)
        fun required reached once => ?_
      have listed : (volumeAttachmentsForPv pv.name).Checked (StorageOp.execute outside)
          (KeepsAttachedOnce outside volume)
          (fun attachments after => attachments = attachmentsOf after.store pv.name ∧
            AttachedOnce after.store volume) reached := ⟨once, rfl, once⟩
      refine Checked.andThen listed fun attachments reached ⟨read, once⟩ =>
        Checked.ite (fun _ => ?_) fun _ => ?_
      · exact checked_removing
          (.forEach fun _ _ => .andThen (removing_delete _) fun _ => trivial) once
      · refine Checked.ofOption_andThen fun singleWriter modes =>
          Checked.ite (fun _ => checked_looking (looking_recordPvcEvent ..) once) fun allowed => ?_
        have reserved : Reserved volume pv.name node reached := by
          refine ⟨once, fun same other attached => ?_⟩
          subst same
          cases singleWriter with
          | false => exact absurd modes (single rfl)
          | true =>
              subst read
              refine eq_of_conflictNodes ?_ attached
              simpa using allowed
        have looks : ∀ operation, Looking operation → Attaching pv.name node operation :=
          fun operation looking => .inl (removing_of_looking operation looking)
        refine Checked.andThen (checked_attaching ((looking_storeGet ..).mono looks) reserved)
          fun existing _ reserved => ?_
        refine Checked.andThen
          (checked_attaching ((looking_publishedContext ..).mono looks) reserved)
          fun published _ reserved => ?_
        exact (checked_attaching (attaching_recordAttachment ..) reserved).weaken
          fun _ _ reserved => reserved.once
  · exact once

end Call

/-! ## Sequences of calls -/

/-- A controller that marks volumes of drivers it does not know as attached. -/
def markerController : StorageController :=
  { plainController with
    enableCsi := true
    getenv := fun name =>
      if name = "AE_STORAGE_ALLOW_LEGACY_MARKER_ATTACH" then some "true" else none }

def singleWriterVolume : K8sObject where
  gvr := pvResource
  ns := none
  name := "pv1"
  metadata := .dict [("name", .str "pv1")]
  spec := .dict [("accessModes", .list [.str "ReadWriteOnce"]),
      ("csi", .dict [("driver", .str "csi.example"), ("volumeHandle", .str "vol-1")])]
  status := .dict []
  resourceVersion := 1

/-- The claim of the volume, with its selected node. -/
def claimOnNode (node : String) : K8sObject where
  gvr := pvcResource
  ns := some "default"
  name := "data"
  metadata := .dict [("name", .str "data"), ("annotations", .dict [(selectedNodeKey, .str node)])]
  spec := .dict [("volumeName", .str "pv1")]
  status := .dict []
  resourceVersion := 2

def movedNode : List AttachmentAction :=
  [.reconcile (claimOnNode "a") singleWriterVolume,
    .reconcile (claimOnNode "b") singleWriterVolume]

end Storage
end K1s
