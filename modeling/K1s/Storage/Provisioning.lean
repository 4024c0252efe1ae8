import K1s.Storage.Operations

/-!
# Provisioning volumes for claims

A claim that no volume fits may get a new one from its storage class.  The
volume is named after the uid of the claim and carries a reference to it from
the start.  An existing volume of that name is taken over unless it is claimed
by another claim.
-/

namespace K1s
namespace Storage

open Py ApiShim

/-- Where the data of a new volume is restored from. -/
structure SourceInfo where
  /-- From a snapshot, and otherwise from another claim. -/
  isSnapshot : Bool
  /-- `namespace/name` of the source. -/
  sourceRef : String
  hostRoot : String
  hostPath : String
  deriving DecidableEq

def joinPath (root segment : String) : String :=
  if startsWith "/" segment then segment
  else if root = "" ∨ root = "." then segment
  else rstrip '/' root ++ "/" ++ segment

/-- `text.replace("//", "/")`. -/
def collapseSlashes : List Char → List Char
  | '/' :: '/' :: rest => '/' :: collapseSlashes rest
  | character :: rest => character :: collapseSlashes rest
  | [] => []

variable (controller : StorageController) (pvc sc : K8sObject)

/-- A root and a path taken from two annotations, if the path stays within the
root. -/
def hostBacking (root path : Json) : StorageProgram (Option (String × String)) :=
  if !root.truthy || !path.truthy then .done none
  else do
    let root := controller.expanduser root.toStr
    let path := controller.expanduser path.toStr
    let within : Bool ← call (.withinRoot root path)
    return if within then some (root, path) else none

def snapshotContentBacking
    (content : K8sObject) : StorageProgram (Option (String × String)) :=
  match annotations content with
  | none => .done none
  | some entries =>
      hostBacking controller (Dict.get entries snapHostRootKey) (Dict.get entries snapHostPathKey)

/-- The root and path annotations of a volume. -/
def backingAnnotations (pv : K8sObject) : Option (Json × Json) :=
  (annotations pv).map fun entries =>
    ((Dict.get entries nfsHostRootKey).or (Dict.get entries localHostRootKey),
      (Dict.get entries nfsHostPathKey).or (Dict.get entries localHostPathKey))

def pvHostBacking (pv : K8sObject) : StorageProgram (Option (String × String)) :=
  match backingAnnotations pv with
  | none => .done none
  | some (root, path) => hostBacking controller root path

def cloneSourceForPvc (source : Dict) : StorageProgram (Option SourceInfo × Bool) := do
  let srcName := ((Dict.get source "name").or (.str "")).toStr
  let srcNs :=
    ((Dict.get source "namespace").or (.str (pvc.ns.getD ""))).toStr
  if srcName = "" ∨ srcNs = "" then
    giveUp pvc "CloneInvalid"
      "dataSource PersistentVolumeClaim requires name and namespace" (none, true)
  else
    let targetSc ← .ofOption (pvcStorageClass controller pvc)
    let targetVm ← .ofOption (pvc.spec.lookup "volumeMode")
    if lower (targetVm.or (.str "Filesystem")).toStr = "block" then
      giveUp pvc "CloneUnsupported" "block volumeMode cloning is not supported" (none, true)
    else
      match ← storeGet pvcResource (some srcNs) srcName with
      | none =>
          giveUp pvc "CloneNotFound"
            ("source PVC " ++ srcNs ++ "/" ++ srcName ++ " not found") (none, true)
      | some srcPvc =>
          let phase ← .ofOption (srcPvc.status.lookup "phase")
          if phase ≠ .str "Bound" then
            giveUp pvc "CloneNotReady"
              ("source PVC " ++ srcNs ++ "/" ++ srcName ++ " is not bound")
              (none, true)
          else
            let srcSc ← .ofOption (pvcStorageClass controller srcPvc)
            if targetSc.getD "" ≠ "" ∧ srcSc.getD "" ≠ "" ∧ targetSc ≠ srcSc then
              giveUp pvc "CloneInvalid" ("source PVC storageClass " ++ srcSc.getD "" ++
                  " does not match target " ++ targetSc.getD "") (none, true)
            else
              let srcPvName ← .ofOption (srcPvc.spec.lookup "volumeName")
              if !srcPvName.truthy then
                giveUp pvc "CloneNotReady"
                  ("source PVC " ++ srcNs ++ "/" ++ srcName ++ " has no bound PV")
                  (none, true)
              else
                match ← storeGetNamed pvResource none srcPvName with
                | none =>
                    giveUp pvc "CloneSourceMissing"
                      ("source PV " ++ srcPvName.toStr ++ " not found") (none, true)
                | some srcPv =>
                    let srcVm ← .ofOption (srcPv.spec.lookup "volumeMode")
                    if lower (srcVm.or (.str "Filesystem")).toStr = "block" then
                      giveUp pvc "CloneUnsupported"
                        "block source volumes are not supported for cloning"
                        (none, true)
                    else
                      match ← pvHostBacking controller srcPv with
                      | none =>
                          giveUp pvc "CloneUnsupported"
                            "source PVC is not hostPath-backed" (none, true)
                      | some (hostRoot, hostPath) =>
                          let present : Bool ← call (.pathExists hostPath)
                          if !present then
                            giveUp pvc "CloneSourceMissing"
                              ("source backing path missing: " ++ hostPath)
                              (none, true)
                          else
                            return (some ⟨false, srcNs ++ "/" ++ srcName,
                              hostRoot, hostPath⟩, false)

/-- The snapshot branch of `_restore_source_for_pvc`. -/
def snapshotSourceForPvc (source : Dict) : StorageProgram (Option SourceInfo × Bool) := do
  let snapName := ((Dict.get source "name").or (.str "")).toStr
  let snapNs :=
    ((Dict.get source "namespace").or (.str (pvc.ns.getD ""))).toStr
  let label := snapNs ++ "/" ++ snapName
  if snapName = "" ∨ snapNs = "" then
    giveUp pvc "SnapshotInvalid"
      "dataSource VolumeSnapshot requires name and namespace" (none, true)
  else
    match ← storeGet snapshotResource (some snapNs) snapName with
    | none =>
        giveUp pvc "SnapshotNotFound" ("snapshot " ++ label ++ " not found") (none, true)
    | some snapshot =>
        let ready ← .ofOption (snapshot.status.lookup "readyToUse")
        if !ready.truthy then
          giveUp pvc "SnapshotNotReady" ("snapshot " ++ label ++ " is not readyToUse") (none, true)
        else
          let contentName ← .ofOption
            (snapshot.status.lookup "boundVolumeSnapshotContentName")
          if !contentName.truthy then
            giveUp pvc "SnapshotContentMissing"
              ("snapshot " ++ label ++ " has no bound content") (none, true)
          else
            match ← storeGetNamed snapContentResource none contentName with
            | none =>
                giveUp pvc "SnapshotContentMissing"
                  ("snapshot content " ++ contentName.toStr ++ " not found")
                  (none, true)
            | some content =>
                match ← snapshotContentBacking controller content with
                | none =>
                    giveUp pvc "SnapshotRestoreUnavailable"
                      ("snapshot " ++ label ++ " has no restorable backing path")
                      (none, true)
                | some (hostRoot, hostPath) =>
                    let present : Bool ← call (.pathExists hostPath)
                    if !present then
                      giveUp pvc "SnapshotRestoreUnavailable"
                        ("snapshot backing path missing: " ++ hostPath)
                        (none, true)
                    else
                      return (some ⟨true, label, hostRoot, hostPath⟩, false)

/-- `_restore_source_for_pvc`: where to restore from, and whether provisioning
has to wait or fail. -/
def restoreSourceForPvc : StorageProgram (Option SourceInfo × Bool) :=
  let spec := pvc.spec.or (.dict [])
  let source :=
    if (spec.item "dataSource").isDict then spec.item "dataSource"
    else spec.item "dataSourceRef"
  match source with
  | .dict source =>
      let kind := ((Dict.get source "kind").or (.str "")).toStr
      let apiGroup := ((Dict.get source "apiGroup").or (.str "")).toStr
      if kind = "PersistentVolumeClaim" then
        if apiGroup ≠ "" then
          giveUp pvc "CloneInvalid"
            "dataSource PersistentVolumeClaim must not set apiGroup" (none, true)
        else cloneSourceForPvc controller pvc source
      else if kind ≠ "VolumeSnapshot" then .done (none, false)
      else if !controller.enableSnapshots then
        giveUp pvc "SnapshotRestoreUnsupported"
          "snapshot restore remains outside the H4b2c-core slice" (none, true)
      else if apiGroup ≠ "" ∧ apiGroup ≠ "snapshot.storage.k8s.io" then
        .done (none, false)
      else snapshotSourceForPvc controller pvc source
  | _ => .done (none, false)

def resetDir (root path : String) : StorageProgram Bool := do
  let within : Bool ← call (.withinRoot root path)
  if within then call (.clearDir path) else return false

/-- A clone has to come from a directory. -/
def sourceIsDir (info : SourceInfo) : StorageProgram Bool :=
  if info.isSnapshot then .done true else call (.isDir info.hostPath)

/-- `_restore_snapshot_into` and `_restore_clone_into`: they differ in their
messages, and only a clone has to come from a directory. -/
def restoreInto
    (targetRoot targetPath : String)
    (info : SourceInfo) : StorageProgram Bool := do
  let failed := if info.isSnapshot then "SnapshotRestoreFailed" else "CloneRestoreFailed"
  let source := if info.isSnapshot then "snapshot" else "clone source"
  let sourceWithin : Bool ← call (.withinRoot info.hostRoot info.hostPath)
  if !sourceWithin then
    giveUp pvc failed
      (if info.isSnapshot then "snapshot path outside source root: " ++ info.hostPath
        else "clone source path outside root: " ++ info.hostPath) false
  else
    let targetWithin : Bool ← call (.withinRoot targetRoot targetPath)
    if !targetWithin then
      giveUp pvc failed ("target path outside host root: " ++ targetPath) false
    else
      let present : Bool ← call (.pathExists info.hostPath)
      if !present then
        giveUp pvc failed (source ++ " backing path missing: " ++ info.hostPath) false
      else
        let directory ← sourceIsDir info
        if !directory then
          giveUp pvc failed ("clone source path is not a directory: " ++ info.hostPath) false
        else
          let cleared ← resetDir targetRoot targetPath
          if !cleared then
            giveUp pvc failed ("failed to prepare " ++ targetPath) false
          else
            let copied : Bool ← call (.copyTree info.hostPath targetPath)
            if !copied then
              giveUp pvc failed (if info.isSnapshot then
                  "failed to copy data from snapshot " ++ info.sourceRef
                  else "failed to copy data from " ++ info.sourceRef) false
            else
              giveUp pvc (if info.isSnapshot then "SnapshotRestored" else "CloneRestored")
                (if info.isSnapshot then
                  "restored from snapshot " ++ info.sourceRef
                  else "restored from " ++ info.sourceRef) true

/-- The annotation that names the source of a restored volume. -/
def sourceEntry (info : SourceInfo) : String × Json :=
  (if info.isSnapshot then snapshotSourceKey else cloneSourceKey, .str info.sourceRef)

/-! ## Provisioners -/

/-- `value or os.getenv(name)`. -/
def orEnvironment
    (value : Json)
    (name : String) : Json :=
  value.or (match controller.getenv name with
    | some text => .str text
    | none => .null)

/-- `Path(value).expanduser()` for a value that is a text. -/
def pathOf : Json → Option String
  | .str text => some (controller.expanduser text)
  | _ => none

/-- `params`: the parameters of a class, `{}` unless they are a dictionary. -/
def classParameters : Dict :=
  ((sc.spec.or (.dict [])).item "parameters").entries

/-- The volume of a claim's uid: an existing one is returned unless another
claim has it, and otherwise one is made. -/
def existingOr (make : String → StorageProgram (Option K8sObject)) :
    StorageProgram (Option K8sObject) :=
  match pvcUid pvc with
  | none | some "" =>
      giveUp pvc "ProvisioningFailed" "PVC uid missing" none
  | some uid => do
      let pvName := "pvc-" ++ uid
      match ← storeGet pvResource none pvName with
      | some existing =>
          let conflicts ← .ofOption (pvClaimRefConflicts existing pvc)
          if conflicts then
            giveUp pvc "ProvisioningConflict"
              ("existing PV " ++ pvName ++ " is claimed by another PVC") none
          else
            return some existing
      | none => make uid

/-- The spec of a new volume, in which the provisioners differ by a default
policy, the mode and the source of the volume. -/
def newVolumeSpec
    (modes : List Json) (mode : Json) (defaultPolicy : String)
    (source : String × Json) : Option Dict :=
  (sc.spec.lookup "reclaimPolicy").bind fun policy =>
  (sc.spec.lookup "mountOptions").bind fun options =>
  options.asList.bind fun mountOptions =>
  (claimRefFor pvc).map fun claim =>
    [("capacity", pvcRequestedCapacity pvc), ("accessModes", .list modes),
      ("volumeMode", mode), ("storageClassName", .str sc.name),
      ("persistentVolumeReclaimPolicy", policy.or (.str defaultPolicy)),
      ("mountOptions", .list mountOptions), ("claimRef", .dict claim), source]

/-- Store a new volume. -/
def createVolume (uid : String) (entries spec : Dict) :
    StorageProgram (Option K8sObject) := do
  let pvName := "pvc-" ++ uid
  let pv ← storeUpsert none pvResource none pvName
    (.dict [("name", .str pvName), ("annotations", .dict entries)])
    (.dict spec) (.dict [("phase", .str "Available")])
  return some pv

def provisionNfs (sourceInfo : Option SourceInfo) : StorageProgram (Option K8sObject) := do
  let volumeMode ← .ofOption (pvc.spec.lookup "volumeMode")
  if lower (volumeMode.or (.str "")).toStr = "block" then
    giveUp pvc "VolumeModeUnsupported" "block volumeMode is not supported for NFS provisioner" none
  else existingOr pvc fun uid => do
    let params := classParameters sc
    let server := orEnvironment controller (Dict.get params "server")
      "AE_STORAGE_NFS_SERVER"
    let base := orEnvironment controller (Dict.get params "path")
      "AE_STORAGE_NFS_PATH"
    if !server.truthy || !base.truthy then
      giveUp pvc "ProvisioningFailed"
        "NFS storage class requires parameters.server and parameters.path" none
    else
      let stripped := rstrip '/' base.toStr
      let basePath := if stripped = "" then "/" else stripped
      let provisioned : Dict :=
        [(provisionedByKey, .str nfsProvisioner), (storageProvisionerKey, .str nfsProvisioner)]
      let finish (entries : Dict) (nfsPath : String) :
          StorageProgram (Option K8sObject) := do
        let modes ← .ofOption
          ((pvc.spec.lookup "accessModes").bind Json.asList)
        let spec ← .ofOption (newVolumeSpec pvc sc modes
          (volumeMode.or (.str "Filesystem")) "Retain"
          ("nfs", .dict [("server", .str server.toStr), ("path", .str nfsPath),
            ("readOnly", .bool false)]))
        createVolume uid entries spec
      let hostRootRaw := orEnvironment controller (Dict.get params "hostPath")
        "AE_STORAGE_NFS_HOSTPATH"
      if hostRootRaw.truthy then
        let hostRoot ← .ofOption (pathOf controller hostRootRaw)
        let hostPath := joinPath hostRoot uid
        let within : Bool ← call (.withinRoot hostRoot hostPath)
        if !within then
          giveUp pvc "ProvisioningFailed"
            ("refusing to create NFS path outside host root: " ++ hostPath) none
        else
          let made : Bool ← call (.mkdir hostPath)
          if !made then .raise
          else
            let nfsPath := String.ofList
              (collapseSlashes (basePath ++ "/" ++ uid).toList)
            let entries := provisioned ++
              [(nfsHostRootKey, .str hostRoot), (nfsHostPathKey, .str hostPath)]
            match sourceInfo with
            | none => finish entries nfsPath
            | some info =>
                let restored ← restoreInto pvc hostRoot hostPath info
                if restored then finish (entries ++ [sourceEntry info]) nfsPath
                else return none
      else
        match sourceInfo with
        | none => finish provisioned basePath
        | some info =>
            recordPvcEvent pvc (if info.isSnapshot then "SnapshotRestoreSkipped"
                else "CloneRestoreSkipped")
              (if info.isSnapshot then
                "snapshot restore requires parameters.hostPath for NFS provisioner"
                else
                "clone restore requires parameters.hostPath for NFS provisioner")
            finish provisioned basePath

def nodeAffinity (node : String) : Json :=
  .dict [("required", .dict [("nodeSelectorTerms", .list [.dict [("matchExpressions", .list [.dict
      [("key", .str "kubernetes.io/hostname"), ("operator", .str "In"),
        ("values", .list [.str node])]])]])])]

/-- The spec of a volume that is pinned to the selected node, if there is one. -/
def withNodeAffinity (selected : Option String) (spec : Dict) : Dict :=
  match selected with
  | some node => spec ++ [("nodeAffinity", nodeAffinity node)]
  | none => spec

def existsAsDir (path : String) : StorageProgram Bool := do
  let present : Bool ← call (.pathExists path)
  if present then call (.isDir path) else return false

/-- Prepare the backing path of a local volume: a file of the requested size
for a block volume, and otherwise a directory.  The answer is a failure to
report, if any. -/
def prepareLocalPath (block : Option Nat) (hostPath : String) :
    StorageProgram (Option String) :=
  match block with
  | some bytes => do
      let parent := rstrip '/' (String.ofList
        (hostPath.toList.reverse.dropWhile (· ≠ '/')).reverse)
      let made : Bool ← call (.mkdir parent)
      if !made then .raise
      else
        let directory ← existsAsDir hostPath
        if directory then
          return some ("block volume path exists as directory: " ++ hostPath)
        else
          let truncated : Bool ← call (.truncate hostPath bytes)
          return if truncated then none
            else some ("failed to create block backing file: " ++ hostPath)
  | none => do
      let made : Bool ← call (.mkdir hostPath)
      if made then return none else .raise

def defaultLocalRoot : String :=
  match controller.getenv "AE_STORAGE_ROOT" with
  | some "" => "."
  | some root => root
  | none => "/var/lib/ae/storage"

def provisionLocalPath
    (selected : Option String)
    (sourceInfo : Option SourceInfo) : StorageProgram (Option K8sObject) := do
  let bindingMode ← .ofOption (sc.spec.lookup "volumeBindingMode")
  if (bindingMode.or (.str "")).toStr = waitForFirstConsumer ∧ selected.getD "" = "" then
    return none
  else
    let rawMode ← .ofOption (pvc.spec.lookup "volumeMode")
    let volumeMode := (rawMode.or (.str "Filesystem")).toStr
    let isBlock := decide (lower volumeMode = "block")
    let requested := (pvcRequestedStorage pvc).bind quantityBytes
    if isBlock = true ∧ requested.getD 0 = 0 then
      giveUp pvc "ProvisioningFailed" "block volume requires a valid storage request" none
    else existingOr pvc fun uid => do
      let hostRootRaw := orEnvironment controller
        (Dict.get (classParameters sc) "hostPath") "AE_STORAGE_ROOT"
      let hostRoot ← .ofOption
        (if hostRootRaw.truthy then pathOf controller hostRootRaw
          else some (defaultLocalRoot controller))
      let hostPath := joinPath (joinPath hostRoot (selected.getD "unbound")) uid
      let within : Bool ← call (.withinRoot hostRoot hostPath)
      if !within then
        giveUp pvc "ProvisioningFailed"
          ("refusing to create local path outside host root: " ++ hostPath) none
      else
        match ← prepareLocalPath (if isBlock then requested else none) hostPath with
        | some message => giveUp pvc "ProvisioningFailed" message none
        | none =>
            let entries : Dict :=
              [(provisionedByKey, .str localPathProvisioner),
                (storageProvisionerKey, .str localPathProvisioner),
                (localHostRootKey, .str hostRoot),
                (localHostPathKey, .str hostPath)]
            let finish (entries : Dict) : StorageProgram (Option K8sObject) := do
              let modes ← .ofOption
                ((pvc.spec.lookup "accessModes").bind Json.asList)
              let spec ← .ofOption (newVolumeSpec pvc sc modes (.str volumeMode)
                "Delete" ("hostPath", .dict [("path", .str hostPath)]))
              createVolume uid entries (withNodeAffinity selected spec)
            match sourceInfo with
            | none => finish entries
            | some info =>
                if isBlock then
                  giveUp pvc (if info.isSnapshot then "SnapshotRestoreUnsupported"
                      else "CloneRestoreUnsupported")
                    (if info.isSnapshot then
                      "snapshot restore is not supported for block volumes"
                      else "clone restore is not supported for block volumes") none
                else
                  let restored ← restoreInto pvc hostRoot hostPath info
                  if restored then finish (entries ++ [sourceEntry info])
                  else return none

/-! ## CSI -/

/-- `_load_secret_data`, as far as its callers look: whether there is data. -/
def secretPresent (ns name : String) : StorageProgram Bool :=
  if ns = "" ∨ name = "" then .done false
  else do
    match ← storeGet secretsResource (some ns) name with
    | none => return false
    | some secret => return (secret.spec.or (.dict [])).isDict

/-- `_csi_secret_data_from_params`: the reference to the secret, if the class
names one, and whether its data was found. -/
def csiSecretFromParams (scSpec : Json) (key : String) :
    StorageProgram (Option (String × String) × Bool) :=
  let params := scSpec.item "parameters"
  let name := params.item ("csi.storage.k8s.io/" ++ key ++ "-secret-name")
  let ns := params.item ("csi.storage.k8s.io/" ++ key ++ "-secret-namespace")
  if !name.truthy || !ns.truthy then .done (none, false)
  else do
    let present ← secretPresent ns.toStr name.toStr
    return (some (name.toStr, ns.toStr), present)

def secretRef (reference : String × String) : Json :=
  .dict [("name", .str reference.1), ("namespace", .str reference.2)]

/-- `_csi_controller_client`: whether an endpoint is configured. -/
def csiControllerClient
    (driver : String)
    (scName : Option String) : Bool :=
  match (controller.forStorageClass scName).or (controller.forDriver driver) with
  | some entry => entry.controllerEndpoint.getD "" ≠ ""
  | none => false

/-- The secrets that a CSI volume keeps a reference to.  The answer is the first
one whose data is missing, or the references. -/
def csiVolumeSecrets (scSpec : Json) :
    StorageProgram (Except String (List (String × Json))) := do
  let (stageRef, stage) ← csiSecretFromParams scSpec "node-stage"
  let (publishRef, publish) ← csiSecretFromParams scSpec "node-publish"
  let (attachRef, attach) ← csiSecretFromParams scSpec "controller-publish"
  if stageRef.isSome && !stage then return .error "node-stage"
  else if publishRef.isSome && !publish then return .error "node-publish"
  else if attachRef.isSome && !attach then return .error "controller-publish"
  else
    return .ok ((stageRef.toList.map fun ref => ("nodeStageSecretRef", secretRef ref)) ++
        (publishRef.toList.map fun ref => ("nodePublishSecretRef", secretRef ref)) ++
        (attachRef.toList.map fun ref =>
          ("controllerPublishSecretRef", secretRef ref)))

def provisionCsi
    (entry : StorageProvisionerConfig)
    (sourceInfo : Option SourceInfo) : StorageProgram (Option K8sObject) :=
  match sourceInfo with
  | some info =>
      if info.isSnapshot then
        giveUp pvc "SnapshotRestoreSkipped"
          "snapshot restore requires external CSI snapshotter" none
      else
        giveUp pvc "CloneRestoreSkipped" "clone restore requires external CSI snapshotter" none
  | none => existingOr pvc fun uid => do
      let pvName := "pvc-" ++ uid
      let params := classParameters sc
      let fsType := ((Dict.get params "csi.storage.k8s.io/fstype").or
        (Dict.get params "fsType")).or (Dict.get params "fstype")
      let asked ← .ofOption ((pvc.spec.lookup "accessModes").bind Json.asList)
      let registered := entry.accessModes.map Json.str
      let modes :=
        if !asked.isEmpty then asked
        else if !registered.isEmpty then registered
        else [.str "ReadWriteOnce"]
      let rawMode ← .ofOption (pvc.spec.lookup "volumeMode")
      let volumeMode := (rawMode.or (.str "Filesystem")).toStr
      if !controller.grpc then
        giveUp pvc "ProvisioningFailed" "grpc is required for CSI provisioning" none
      else if !csiControllerClient controller entry.provisioner (some sc.name) then
        giveUp pvc "ProvisioningFailed"
          ("CSI controller endpoint missing for " ++ entry.provisioner) none
      else
        let (provisionerRef, secret) ← csiSecretFromParams (sc.spec.or (.dict []))
          "provisioner"
        if provisionerRef.isSome && !secret then
          giveUp pvc "SecretNotFound" "provisioner secret not found for CSI CreateVolume" none
        else
          let created : Except String (Option CsiVolume) ← call
            (.createVolume entry.provisioner pvName
              (quantityBytes ((pvcRequestedStorage pvc).getD "")))
          match created with
          | .error code =>
              if code = "ALREADY_EXISTS" then
                giveUp pvc "ProvisioningConflict"
                  ("volume " ++ pvName ++ " already exists in CSI driver") none
              else
                giveUp pvc "ProvisioningFailed" ("CSI CreateVolume failed: " ++ code) none
          | .ok none =>
              giveUp pvc "ProvisioningFailed" "CSI CreateVolume missing volume_id" none
          | .ok (some volume) =>
              if volume.volumeId = "" then
                giveUp pvc "ProvisioningFailed" "CSI CreateVolume missing volume_id" none
              else
                match ← csiVolumeSecrets (sc.spec.or (.dict [])) with
                | .error key =>
                    giveUp pvc "SecretNotFound" (key ++ " secret not found for CSI volume") none
                | .ok references =>
                    let csiSpec : Dict :=
                      [("driver", .str entry.provisioner), ("volumeHandle", .str volume.volumeId),
                        ("readOnly", .bool false)] ++
                      (if fsType.truthy then [("fsType", .str fsType.toStr)]
                        else []) ++
                      (if volume.volumeContext.isEmpty then []
                        else [("volumeAttributes", .dict
                          (volume.volumeContext.map fun (key, value) =>
                            (key, .str value)))]) ++
                      references
                    let spec ← .ofOption (newVolumeSpec pvc sc modes
                      (.str volumeMode) "Delete" ("csi", .dict csiSpec))
                    createVolume uid [(provisionedByKey, .str entry.provisioner),
                        (storageProvisionerKey, .str entry.provisioner)] spec

def maybeProvision : StorageProgram (Option K8sObject) := do
  match ← .ofOption (pvcStorageClass controller pvc) with
  | none | some "" => return none
  | some scName =>
      match ← storeGet scResource none scName with
      | none => return none
      | some sc =>
          let (sourceInfo, blocked) ← restoreSourceForPvc controller pvc
          if blocked then return none
          else
            let bindingMode ← .ofOption (sc.spec.lookup "volumeBindingMode")
            let selected := selectedNode pvc
            if (bindingMode.or (.str "")).toStr = waitForFirstConsumer ∧ selected.getD "" = "" then
              giveUp pvc "WaitForFirstConsumer"
                "waiting for selected node before provisioning" none
            else
              let rawProvisioner ← .ofOption (sc.spec.lookup "provisioner")
              let provisioner := (rawProvisioner.or (.str "")).toStr
              if provisioner = nfsProvisioner then
                provisionNfs controller pvc sc sourceInfo
              else if provisioner = localPathProvisioner then
                provisionLocalPath controller pvc sc selected sourceInfo
              else
                let entry := (controller.forStorageClass (some sc.name)).or
                  (controller.forDriver provisioner)
                match entry.filter fun entry => entry.type = "csi" with
                | some entry =>
                    if !controller.enableCsi then
                      giveUp pvc "ProvisionerUnsupported" ("provisioner " ++ provisioner ++
                          " remains outside the H4b2c-core slice") none
                    else provisionCsi controller pvc sc entry sourceInfo
                | none =>
                    if provisioner ≠ "" then
                      giveUp pvc "ProvisionerUnsupported"
                        ("provisioner " ++ provisioner ++ " not supported") none
                    else return none

end Storage
end K1s
