import K1s.NetFs.State

/-!
# Mounting the volumes of claims

`ensure_mount` answers with the record of a mount if there is one for the claim on the node.
Otherwise it looks at the volume that the claim is bound to, mounts it by its kind, and
records the mount.  `release_mount` unmounts what is recorded and drops the record.
-/

namespace K1s
namespace NetFs

open Py ApiShim
open Storage (joinPath annotations nfsHostRootKey nfsHostPathKey)

/-- The fields of the manager, and the process environment. -/
structure NetFSManager where
  root : String
  csiStageRoot : String
  /-- Whether the `grpc` package is installed. -/
  grpc : Bool
  /-- The endpoint on the node that is registered for a class or else a driver. -/
  nodeEndpoint : Json → String → Option String
  getenv : String → Option String
  /-- `Path(text).expanduser()`, as text. -/
  expanduser : String → String

/-- A manager without CSI drivers. -/
def plainManager : NetFSManager where
  root := "/var/lib/ae/netfs"
  csiStageRoot := "/var/lib/ae/csi"
  grpc := false
  nodeEndpoint := fun _ _ => none
  getenv := fun _ => none
  expanduser := id

/-- A call of `ensure_mount`. -/
structure MountRequest where
  pvc : PvcRef
  nodeId : String
  fsGroup : Option Int := none
  selinux : List (String × String) := []
  forDevice : Bool := false
  deriving DecidableEq

/-! ## Groups and labels -/

variable (pvc : PvcRef) (request : MountRequest) (options : List (String × String))
  (manager : NetFSManager) (pvSpec : Dict)

def applyFsGroup (target : String) (gid : Int) : NodeProgram Unit := do
  let failed : Option String ← call (.changeGroup target gid)
  match failed with
  | none => return ()
  | some message =>
      recordPvcEvent pvc "FsGroupApplyFailed"
        (if message = "" then "failed to apply fsGroup" else message)

/-- `fs_group is not None`. -/
def applyGivenGroup (target : String) : NodeProgram Unit :=
  match request.fsGroup with
  | none => .done ()
  | some gid => applyFsGroup request.pvc target gid

/-- A flag of `chcon` with its value, if one is given. -/
def labelFlag (flag key : String) : List String :=
  match (options.lookup key).getD "" with
  | "" => []
  | value => [flag, value]

/-- The flags of `chcon` for the user, the role, the type and the level. -/
def labelFlags : List String :=
  labelFlag options "-u" "user" ++ labelFlag options "-r" "role" ++
    labelFlag options "-t" "type" ++ labelFlag options "-l" "level"

/-- The command that sets a label, without the path. -/
def chconCommand (directory : Bool) : List String :=
  ["chcon"] ++ (if directory then ["-R"] else []) ++ labelFlags options

def applySelinux
    (target : String) (options : List (String × String))
    (recursive : Bool) : NodeProgram Unit := do
  let present : Bool ← call (.pathExists target)
  if !present then return ()
  else
    let isRoot : Bool ← call .isRoot
    if !isRoot then
      recordPvcEvent pvc "SelinuxRelabelSkipped" "insufficient privileges to apply SELinux label"
    else
      let available : Bool ← call (.which "chcon")
      if !available then recordPvcEvent pvc "SelinuxRelabelSkipped" "chcon not available"
      else
        let directory : Bool ← (if recursive then call (.isDir target) else .done false)
        if (chconCommand options directory).length = 1 then return ()
        else
          let failed : Option String ←
            call (.relabel (chconCommand options directory ++ [target]))
          match failed with
          | none => return ()
          | some message =>
              recordPvcEvent pvc "SelinuxRelabelFailed"
                (if strip message = "" then "SELinux relabel failed" else strip message)

def selinuxRecursiveEnabled : Bool :=
  ["1", "true", "yes", "on"].contains
    (lower ((manager.getenv "AE_NETFS_SELINUX_RECURSIVE").getD "0"))

def selinuxRecursive (target : String) : NodeProgram Bool := do
  let present : Bool ← call (.pathExists target)
  let directory : Bool ← (if present then call (.isDir target) else .done false)
  return directory && selinuxRecursiveEnabled manager &&
    match Dict.get pvSpec "accessModes" with
    | .list modes =>
        modes.any fun mode => ["ReadWriteMany", "ReadOnlyMany"].contains mode.toStr
    | _ => false

/-- `if selinux:`, with the recursion that the modes of the volume allow. -/
def applyGivenLabels
    (request : MountRequest) (pvSpec : Dict)
    (target : String) : NodeProgram Unit :=
  if request.selinux.isEmpty then .done ()
  else do
    let recursive ← selinuxRecursive manager pvSpec target
    applySelinux request.pvc target request.selinux recursive

/-! ## Checks -/

def isRwop : Bool :=
  match Dict.get pvSpec "accessModes" with
  | .list modes => modes.any fun mode => mode.toStr = "ReadWriteOncePod"
  | _ => false

/-- The mounts of the claim on other nodes. -/
def rwopConflicts (mounts : List NetFSMount) (pvc : PvcRef) (nodeId : String) :
    List NetFSMount :=
  mounts.filter fun mount =>
    decide (mount.pvc = pvc ∧ mount.nodeId ≠ "" ∧ mount.nodeId ≠ nodeId)

def enforceRwop (nodeId : String) : NodeProgram Unit :=
  if !isRwop pvSpec then .done ()
  else do
    let mounts ← listMounts
    let conflicts := rwopConflicts mounts pvc nodeId
    if conflicts.isEmpty then return ()
    else
      fail pvc "ReadWriteOncePodConflict"
        ("PVC " ++ pvc.ns ++ "/" ++ pvc.name ++ " already mounted on node(s): " ++ ", ".intercalate
            ((conflicts.map NetFSMount.nodeId).dedup.insertionSort (· ≤ ·)))

def csiAttachRequired (driver : String) : NodeProgram Bool :=
  if driver = "" then .done true
  else do
    match ← storeGet Storage.csiDriverResource none driver with
    | none => return true
    | some object =>
        let raw := object.spec.item "attachRequired"
        return raw = .null || raw.truthy

def getVolumeAttachment (pv : PvRef) (nodeId : String) : NodeProgram (Option K8sObject) := do
  let attachments ← storeListAll Storage.vaResource
  return attachments.find? fun att =>
    decide (att.spec.item "nodeName" = .str nodeId ∧
      (att.spec.item "source").item "persistentVolumeName" = .str pv.name)

/-- A volume whose driver attaches volumes has to be attached to the node. -/
def requireAttached (pv : PvRef) (driver : String) :
    NodeProgram Unit := do
  let attachRequired ← csiAttachRequired driver
  if !attachRequired then return ()
  else
    let attachment ← getVolumeAttachment pv request.nodeId
    if (attachment.filter fun att => (att.status.item "attached").truthy).isSome then return ()
    else
      fail request.pvc "VolumeNotAttached"
        ("PV " ++ pv.name ++ " is not attached to node " ++ request.nodeId)

/-- `get_secret`, as far as its callers look: whether there is data. -/
def secretPresent (ns name : String) : NodeProgram Bool :=
  if ns = "" ∨ name = "" then .done false
  else do
    match ← storeGet Storage.secretsResource (some ns) name with
    | none => return false
    | some secret =>
        let spec := secret.spec.entries
        let data := match Dict.get spec "data" with
          | .dict data => data
          | _ => spec
        return !data.isEmpty

/-- `_resolve_csi_secret_ref`, as far as it refuses. -/
def resolveCsiSecretRef (rawRef : Json) (purpose : String) : NodeProgram Unit :=
  match rawRef with
  | .dict reference =>
      let name := strip ((Dict.get reference "name").or (.str "")).toStr
      let ns := strip ((Dict.get reference "namespace").or (.str pvc.ns)).toStr
      if name = "" then
        fail pvc "InvalidSecretRef" ("CSI " ++ purpose ++ " secretRef missing name")
      else if ns = "" then
        fail pvc "InvalidSecretRef" ("CSI " ++ purpose ++ " secretRef missing namespace")
      else do
        let present ← secretPresent ns name
        if present then return ()
        else
          fail pvc "SecretNotFound"
            ("CSI " ++ purpose ++ " secret " ++ ns ++ "/" ++ name ++ " not found")
  | _ => .done ()

def resolveCsiSecrets (csi : Dict) : NodeProgram Unit := do
  resolveCsiSecretRef pvc (Dict.get csi "nodeStageSecretRef") "nodeStage"
  resolveCsiSecretRef pvc (Dict.get csi "nodePublishSecretRef") "nodePublish"

/-! ## Block volumes -/

def blockDevicePath : Option String :=
  let hostPath := (Dict.get pvSpec "hostPath").item "path"
  if hostPath.truthy then some hostPath.toStr
  else
    let attributes := (Dict.get pvSpec "csi").item "volumeAttributes"
    let device := (attributes.item "devicePath").or (attributes.item "device_path")
    if device.truthy then some device.toStr else none

/-- The attachment and the secrets that the driver of a block volume needs. -/
def requireBlockDriver (pv : PvRef) (pvSpec : Dict) : NodeProgram Unit :=
  match Dict.get pvSpec "csi" with
  | .dict csi => do
      requireAttached request pv ((Dict.get csi "driver").or (.str "")).toStr
      resolveCsiSecrets request.pvc csi
  | _ => .done ()

def applyBlockLabels (blockPath : String) : NodeProgram Unit :=
  if request.selinux.isEmpty then .done ()
  else applySelinux request.pvc blockPath request.selinux false

/-- The branch of `ensure_mount` for a block volume. -/
def ensureBlockMount
    (pv : PvRef)
    (pvSpec : Dict) : NodeProgram NetFSMount := do
  let pvc := request.pvc
  enforceRwop pvc pvSpec request.nodeId
  requireBlockDriver request pv pvSpec
  match blockDevicePath pvSpec with
  | none =>
      fail pvc "BlockDeviceMissing" "block volume requires hostPath path or CSI devicePath"
  | some blockPath =>
      let present : Bool ← call (.pathExists blockPath)
      if !present then
        fail pvc "BlockDeviceMissing" ("block device path missing: " ++ blockPath)
      else
        let usable : Bool ← call (.isBlockOrFile blockPath)
        if !usable then
          fail pvc "BlockDeviceInvalid" ("invalid block device path: " ++ blockPath)
        else
          applyGivenGroup request blockPath
          applyBlockLabels request blockPath
          let readOnly := ((Dict.get pvSpec "csi").item "readOnly").truthy
          let mount : NetFSMount := ⟨pvc, pv, request.nodeId, blockPath, readOnly⟩
          upsertMount mount
          return mount

/-! ## NFS volumes -/

def sanitize (value : String) : String :=
  String.ofList (value.toList.map fun character =>
    if character = '/' ∨ character = '\\' then '_' else character)

def mountPath (pvc : PvcRef) : String :=
  joinPath (joinPath manager.root (sanitize pvc.ns)) (sanitize pvc.name)

def normalizeMountOptions (raw : Json) : List String :=
  if !raw.truthy then []
  else
    let items := match raw with
      | .list items => items
      | other => [other]
    (items.filter fun item => item ≠ .null).flatMap fun item =>
      ((split ',' item.toStr).map strip).filter fun option => option ≠ ""

def collectMountOptions : NodeProgram (List String) := do
  let scName := Dict.get pvSpec "storageClassName"
  let ofClass ← (if scName.truthy then do
      let sc ← storeGet Storage.scResource none scName.toStr
      return normalizeMountOptions (Dict.get (objSpec sc) "mountOptions")
    else .done [])
  return (ofClass ++ normalizeMountOptions (Dict.get pvSpec "mountOptions")).reverse.dedup.reverse

def applyReadOnly (options : List String) (readOnly : Bool) : List String :=
  (options.filter fun option => option ≠ "ro" ∧ option ≠ "rw") ++ [if readOnly then "ro" else "rw"]

def ensureNfsExportPath
    (pvc : PvcRef)
    (pvObj : K8sObject) : NodeProgram Unit :=
  match annotations pvObj with
  | none => .done ()
  | some entries =>
      let hostRoot := Dict.get entries nfsHostRootKey
      let hostPath := Dict.get entries nfsHostPathKey
      if !hostRoot.truthy || !hostPath.truthy then .done ()
      else do
        let root := manager.expanduser hostRoot.toStr
        let path := manager.expanduser hostPath.toStr
        let within : Bool ← call (.withinRoot root path)
        if !within then
          recordPvcEvent pvc "NfsExportInvalid"
            ("refusing to create NFS path outside root: " ++ path)
        else
          let failed : Option String ← call (.mkdir path)
          match failed with
          | none => return ()
          | some message =>
              recordPvcEvent pvc "NfsExportCreateFailed"
                (if message = "" then "failed to create NFS export path " ++ path else message)

/-- The export of a volume, where there is such a volume. -/
def ensureExportOf (pvc : PvcRef) (pv : PvRef) : NodeProgram Unit := do
  match ← getPv pv with
  | some pvObj => ensureNfsExportPath manager pvc pvObj
  | none => return ()

/-- `target.mkdir(parents=True, exist_ok=True)`. -/
def makeDirectory (target : String) : NodeProgram Unit := do
  let failed : Option String ← call (.mkdir target)
  if failed.isSome then .raise else return ()

/-- Mount the export, unless the mount table has it already. -/
def mountExport
    (source target : String)
    (options : List String) : NodeProgram Unit := do
  let info : Option (String × String) ← call (.mountInfo target)
  match info with
  | none =>
      let missing : Option String ← call .nfsTools
      match missing with
      | some message => fail pvc "NfsPrereqFailed" message
      | none =>
          let failed : Option String ← call (.mountNfs source target options)
          match failed with
          | some message => fail pvc "MountFailed" message
          | none => return ()
  | some (currentSource, fstype) =>
      if currentSource ≠ source then
        fail pvc "MountConflict"
          ("mountpoint " ++ target ++ " already used by " ++ currentSource ++
            ", expected " ++ source)
      else if fstype ≠ "nfs" ∧ fstype ≠ "nfs4" then
        fail pvc "MountConflict" ("mountpoint " ++ target ++ " is " ++ fstype ++ ", expected nfs")
      else return ()

/-- The tool that grows a file system, and its command. -/
def growCommand (source fstype target : String) : Option (String × List String) :=
  if fstype = "xfs" then some ("xfs_growfs", ["xfs_growfs", target])
  else if (fstype = "ext4" ∨ fstype = "ext3" ∨ fstype = "ext2") ∧
      startsWith "/dev/" source = true then
    some ("resize2fs", ["resize2fs", source])
  else none

@[irreducible] def fsResizeEnabled : Bool :=
  ["1", "true", "yes", "on"].contains
    (lower (strip ((manager.getenv "AE_NETFS_FS_RESIZE").getD "0")))

def maybeResizeFilesystem
    (pvc : PvcRef)
    (target : String) : NodeProgram Unit :=
  if !fsResizeEnabled manager then .done ()
  else do
    let info : Option (String × String) ← call (.mountInfo target)
    match info.bind fun (source, fstype) => growCommand source fstype target with
    | none => return ()
    | some (tool, command) =>
        let available : Bool ← call (.which tool)
        if !available then
          recordPvcEvent pvc "FileSystemResizeSkipped" (tool ++ " not available")
        else
          let failed : Option String ← call (.grow command)
          match failed with
          | none => recordPvcEvent pvc "FileSystemResized" ("filesystem resized via " ++ tool)
          | some message =>
              recordPvcEvent pvc "FileSystemResizeFailed"
                (if strip message = "" then tool ++ " failed" else strip message)

/-- What is left to do with a mounted directory: its group, its label and its size. -/
def finishMount
    (request : MountRequest) (pvSpec : Dict)
    (mount : NetFSMount) : NodeProgram NetFSMount := do
  applyGivenGroup request mount.hostPath
  applyGivenLabels manager request pvSpec mount.hostPath
  maybeResizeFilesystem manager request.pvc mount.hostPath
  upsertMount mount
  return mount

def ensureNfsMount
    (request : MountRequest) (pv : PvRef)
    (pvSpec nfs : Dict) : NodeProgram NetFSMount := do
  let pvc := request.pvc
  let server := Dict.get nfs "server"
  let path := Dict.get nfs "path"
  if !server.truthy || !path.truthy then
    fail pvc "InvalidVolume" ("PV " ++ pv.name ++ " missing NFS server/path")
  else
    ensureExportOf manager pvc pv
    let target := mountPath manager pvc
    makeDirectory target
    let options ← collectMountOptions pvSpec
    let readOnly := (Dict.get nfs "readOnly").truthy || options.contains "ro"
    mountExport pvc (server.toStr ++ ":" ++ path.toStr) target (applyReadOnly options readOnly)
    finishMount manager request pvSpec ⟨pvc, pv, request.nodeId, target, readOnly⟩

/-! ## CSI volumes -/

def csiStagePath (driver handle : String) : String :=
  joinPath (joinPath manager.csiStageRoot (sanitize driver)) (sanitize handle)

def mentions (word text : String) : Bool :=
  text.toList.tails.any fun rest => word.toList.isPrefixOf rest

/-- `_csi_node_client`, as far as it refuses. -/
def csiNodeClient
    (driver : String)
    (scName : Json) : Except String Unit :=
  if !manager.grpc then .error "grpc is required for CSI node operations"
  else if (manager.nodeEndpoint scName driver).getD "" = "" then
    .error ("CSI node endpoint missing for driver " ++ driver)
  else .ok ()

def csiMountFlags : NodeProgram (List String) := do
  let options ← collectMountOptions pvSpec
  return options.filter fun option => option ≠ "ro" ∧ option ≠ "rw"

/-- Stage the volume, unless the driver does not know how, and publish it. -/
def publishVolume
    (driver handle stagePath target : String) (flags : List String)
    (readOnly : Bool) : NodeProgram Unit := do
  let stageFailed : Option String ← call (.nodeStage driver handle stagePath flags)
  match stageFailed.filter fun code => code ≠ "UNIMPLEMENTED" with
  | some code => fail pvc "NodeStageFailed" ("CSI NodeStage failed: " ++ code)
  | none =>
      let publishFailed : Option String ← call (.nodePublish driver handle target
        (if stageFailed.isNone then some stagePath else none) flags readOnly)
      match publishFailed with
      | some code => fail pvc "NodePublishFailed" ("CSI NodePublish failed: " ++ code)
      | none =>
          let _ : Unit ← call (.writeMarker (joinPath target ".csi-volume"))

def ensureCsiMount
    (request : MountRequest) (pv : PvRef)
    (pvSpec csi : Dict) : NodeProgram NetFSMount := do
  let pvc := request.pvc
  let driver := ((Dict.get csi "driver").or (.str "")).toStr
  let handle := ((Dict.get csi "volumeHandle").or (.str "")).toStr
  if driver = "" ∨ handle = "" then
    fail pvc "InvalidVolume" ("PV " ++ pv.name ++ " missing CSI driver/volumeHandle")
  else
    requireAttached request pv driver
    resolveCsiSecrets pvc csi
    let target := mountPath manager pvc
    makeDirectory target
    let stagePath := csiStagePath manager driver handle
    makeDirectory stagePath
    let flags ← csiMountFlags pvSpec
    match csiNodeClient manager driver (Dict.get pvSpec "storageClassName") with
    | .error message =>
        fail pvc (if mentions "grpc" (lower message) then "CsiGrpcUnavailable"
          else "CsiEndpointMissing") message
    | .ok _ =>
        let readOnly := (Dict.get csi "readOnly").truthy
        publishVolume pvc driver handle stagePath target flags readOnly
        finishMount manager request pvSpec ⟨pvc, pv, request.nodeId, target, readOnly⟩

/-! ## Mounts -/

/-- The volume mode of a volume is `Block`. -/
def isBlock : Bool :=
  lower ((Dict.get pvSpec "volumeMode").or (.str "Filesystem")).toStr = "block"

/-- `ensure_mount`, where there is a record. -/
def reuseMount
    (request : MountRequest)
    (existing : NetFSMount) : NodeProgram NetFSMount := do
  applyGivenGroup request existing.hostPath
  (if request.selinux.isEmpty then .done ()
  else do
    let pvObj ← getPv existing.pv
    applyGivenLabels manager request (objSpec pvObj) existing.hostPath)
  return existing

/-- `ensure_mount`, where there is no record. -/
def mountBound (request : MountRequest) : NodeProgram NetFSMount := do
  let pvc := request.pvc
  match ← getPvForPvc pvc with
  | none =>
      fail pvc "PVCNotBound" ("PVC " ++ pvc.ns ++ "/" ++ pvc.name ++ " is not bound to a PV")
  | some pv =>
      match ← getPv pv with
      | none =>
          fail pvc "PVNotFound"
            ("PV " ++ pv.name ++ " not found for PVC " ++ pvc.ns ++ "/" ++ pvc.name)
      | some pvObj =>
          let pvSpec := objSpec (some pvObj)
          if isBlock pvSpec then
            if !request.forDevice then
              fail pvc "VolumeModeMismatch" "block volumes require devicePath, not mountPath"
            else ensureBlockMount request pv pvSpec
          else if request.forDevice then
            fail pvc "VolumeModeMismatch" "devicePath provided for filesystem volume"
          else
            enforceRwop pvc pvSpec request.nodeId
            match Dict.get pvSpec "nfs", Dict.get pvSpec "csi" with
            | .dict nfs, _ => ensureNfsMount manager request pv pvSpec nfs
            | _, .dict csi => ensureCsiMount manager request pv pvSpec csi
            | _, _ =>
                fail pvc "UnsupportedVolume" "NetFS supports NFS and CSI PVs in this phase"

def ensureMount (request : MountRequest) : NodeProgram NetFSMount := do
  match ← getMount request.pvc request.nodeId with
  | some existing => reuseMount manager request existing
  | none => mountBound manager request

/-- Record an event for the code of a failed call. -/
def reportFailure (reason text : String) (failed : Option String) : NodeProgram Unit :=
  match failed with
  | some code => recordPvcEvent pvc reason (text ++ code)
  | none => .done ()

/-- Take a CSI volume off the node, and report what fails. -/
def unpublishVolume
    (pvc : PvcRef) (pvSpec csi : Dict)
    (target : String) : NodeProgram Unit := do
  let driver := ((Dict.get csi "driver").or (.str "")).toStr
  let handle := ((Dict.get csi "volumeHandle").or (.str "")).toStr
  if driver = "" ∨ handle = "" then return ()
  else if !manager.grpc then
    recordPvcEvent pvc "CsiGrpcUnavailable" "grpc is required for CSI node operations"
  else
    match csiNodeClient manager driver (Dict.get pvSpec "storageClassName") with
    | .error message => recordPvcEvent pvc "CsiEndpointMissing" message
    | .ok _ =>
        let unpublishFailed : Option String ← call (.nodeUnpublish driver handle target)
        reportFailure pvc "NodeUnpublishFailed" "CSI NodeUnpublish failed: " unpublishFailed
        let unstageFailed : Option String ←
          call (.nodeUnstage driver handle (csiStagePath manager driver handle))
        reportFailure pvc "NodeUnstageFailed" "CSI NodeUnstage failed: "
          (unstageFailed.filter fun code => code ≠ "UNIMPLEMENTED")

/-- Take a volume off the node, where it is a CSI volume. -/
def unpublishDriver
    (pvc : PvcRef) (pvSpec : Dict)
    (target : String) : NodeProgram Unit :=
  match Dict.get pvSpec "csi" with
  | .dict csi => unpublishVolume manager pvc pvSpec csi target
  | _ => .done ()

def releaseMount
    (pvc : PvcRef)
    (nodeId : String) : NodeProgram Unit := do
  match ← getMount pvc nodeId with
  | none => return ()
  | some mount =>
      let pvObj ← getPv mount.pv
      let pvSpec := objSpec pvObj
      unpublishDriver manager pvc pvSpec mount.hostPath
      let info : Option (String × String) ← call (.mountInfo mount.hostPath)
      let failed : Option String ←
        (if info.isSome then call (.unmount mount.hostPath) else .done none)
      match failed with
      | some message => fail pvc "UnmountFailed" message
      | none => deleteMount pvc nodeId

end NetFs
end K1s
