import K1s.Storage.Binding

/-!
# Deleted claims and volumes

The watch of claims hands deleted claims to `_handle_pvc_deleted`, which takes
the volume that the claim names, detaches it, and then deletes or releases it
by its reclaim policy.
-/

namespace K1s
namespace Storage

open Py ApiShim

/-- The driver and handle of a CSI volume that has both. -/
def csiVolume (pv : K8sObject) : Option (String × String) :=
  match (pv.spec.or (.dict [])).item "csi" with
  | .dict csi =>
      let driver := ((Dict.get csi "driver").or (.str "")).toStr
      let handle := ((Dict.get csi "volumeHandle").or (.str "")).toStr
      if driver = "" ∨ handle = "" then none else some (driver, handle)
  | _ => none

def volumeClass (pv : K8sObject) : Json :=
  (pv.spec.or (.dict [])).item "storageClassName"

variable (controller : StorageController)

/-- Whether there is a CSI client for a volume, once its class and the secret
that the class names have been read. -/
def csiClientFor
    (pv : K8sObject)
    (driver secretKey : String) : StorageProgram Bool := do
  let sc ← classNamed (volumeClass pv)
  let _ ← csiSecretFromParams (classSpec sc) secretKey
  return csiControllerClient controller driver
    (if (volumeClass pv).truthy then some (volumeClass pv).toStr else none)

/-- Unpublish a CSI volume from the nodes of its attachments. -/
def unpublishAttachments
    (pv : K8sObject)
    (attachments : List K8sObject) : StorageProgram Unit :=
  match csiVolume pv with
  | none => .done ()
  | some (driver, handle) => do
      let required ← csiDriverAttachRequired controller driver
      if !required || !controller.grpc then return ()
      else
        let client ← csiClientFor controller pv driver "controller-publish"
        if !client then return ()
        else
          .forEach (attachments.filterMap attachmentNode) fun node => do
            let _ : Unit ← call (.controllerUnpublish driver handle node)

def deleteVolumeAttachments (pv : K8sObject) : StorageProgram Unit :=
  if !controller.enableCsi then .done ()
  else do
    let attachments ← volumeAttachmentsForPv pv.name
    unpublishAttachments controller pv attachments
    .forEach attachments fun att => do
      let _ ← storeDelete vaResource none att.name

def csiDeleteVolume (pv : K8sObject) : StorageProgram Unit :=
  match csiVolume pv with
  | none => .done ()
  | some (driver, handle) =>
      if !controller.enableCsi || !controller.grpc then .done ()
      else do
        let client ← csiClientFor controller pv driver "provisioner"
        if !client then return ()
        else
          let _ : Unit ← call (.deleteVolume driver handle)

/-- The root and path below which a volume keeps its data on the host. -/
def backingOf (pv : K8sObject) : Option (String × String) :=
  (backingAnnotations pv).bind fun (root, path) =>
    if root.truthy && path.truthy then
      some (controller.expanduser root.toStr, controller.expanduser path.toStr)
    else none

/-- `_cleanup_backing_path`: a path that is neither a file nor a directory is
left alone, and so is one outside its root. -/
def cleanupBackingPath (pv : K8sObject) : StorageProgram Unit :=
  match backingOf controller pv with
  | none => .done ()
  | some (root, path) => do
      let within : Bool ← call (.withinRoot root path)
      if !within then return ()
      else
        let present : Bool ← call (.pathExists path)
        if !present then return ()
        else
          let file : Bool ← call (.isFileOrSymlink path)
          if file then
            let _ : Unit ← call (.remove path)
          else
            let directory : Bool ← call (.isDir path)
            if !directory then return ()
            else
              let _ : Unit ← call (.remove path)

def deletePvAndBacking (pv : K8sObject) : StorageProgram Unit := do
  deleteVolumeAttachments controller pv
  csiDeleteVolume controller pv
  cleanupBackingPath controller pv
  let _ ← storeDelete pvResource none pv.name

/-- The last part of `_handle_pvc_deleted`, for volumes that are kept. -/
def releasePv (pv : K8sObject) : StorageProgram Unit := do
  let status ← .ofOption pv.status.asDict
  if Dict.get status "phase" = .str "Released" then return ()
  else
    writePv pv pv.metadata pv.spec (.dict (Dict.set status "phase" (.str "Released")))

def handlePvcDeleted (pvc : K8sObject) : StorageProgram Unit := do
  let pvName ← .ofOption (pvc.spec.lookup "volumeName")
  if !pvName.truthy then return ()
  else
    match ← storeGetNamed pvResource none pvName with
    | none => return ()
    | some pv =>
        deleteVolumeAttachments controller pv
        let policy ← .ofOption (pvReclaimPolicy pv)
        if policy = "Delete" then deletePvAndBacking controller pv
        else releasePv pv

end Storage
end K1s
