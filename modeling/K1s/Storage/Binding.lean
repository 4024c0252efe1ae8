import K1s.Storage.Provisioning

/-!
# Binding claims to volumes

`_reconcile_pvc` finds or makes a volume for a claim and binds the two: the
volume gets a reference to the claim, then the claim gets the name of the
volume and the phase `Bound`.  The two objects are written one after the other,
each as a whole and from the copy that the call holds, and the expansion of a
bound volume writes both once more from the same copies.
-/

namespace K1s
namespace Storage

open Py ApiShim

/-! ## Phases and finalizers -/

variable (pvc : K8sObject) (controller : StorageController)

def ensurePvcPhase (phase : String) : StorageProgram Unit := do
  let status ← .ofOption pvc.status.asDict
  if Dict.get status "phase" = .str phase then return ()
  else
    writePvc pvc pvc.metadata pvc.spec (.dict (Dict.set status "phase" (.str phase)))

/-- `_ensure_finalizer`: the metadata with the finalizer, and whether it had to
be added. -/
def ensureFinalizer (metadata : Json) (finalizer : String) : Option (Dict × Bool) :=
  metadata.asDict.bind fun entries =>
  (Dict.get entries "finalizers").asList.map fun finalizers =>
    if finalizers.contains (.str finalizer) then (entries, false)
    else
      (Dict.set entries "finalizers" (.list (finalizers ++ [.str finalizer])), true)

/-- A volume in one of these phases is not bound to a claim that asks for it. -/
def releasedOrFailed (pv : K8sObject) : Option (Option String) :=
  (pv.status.lookup "phase").map fun phase =>
    let text := (phase.or (.str "")).toStr
    if text = "Released" ∨ text = "Failed" then some text else none

def pvcIsBound : StorageProgram Bool := do
  let phase ← .ofOption (pvc.status.lookup "phase")
  if phase = .str "Bound" then return true
  else
    let volumeName ← .ofOption (pvc.spec.lookup "volumeName")
    if !volumeName.truthy then return false
    else
      match ← storeGetNamed pvResource none volumeName with
      | none => return false
      | some pv =>
          let closed ← .ofOption (releasedOrFailed pv)
          if closed.isSome then return false
          else
            let conflicts ← .ofOption (pvClaimRefConflicts pv pvc)
            return !conflicts

/-! ## Quotas -/

def quotaBytes (ns : Option String) : Option Nat :=
  if ns.getD "" = "" then none
  else
    (controller.storageQuotas.find? fun quota => quota.ns = ns.getD "").bind
      fun quota => quantityBytes quota.hardStorage

/-- The requested bytes of the claims of a namespace, without the claim of the
given name and, where it has one, uid. -/
def storageUsage
    (pvcs : List K8sObject) (ns name : String)
    (uid : Json) : Nat :=
  ((pvcs.filter fun pvc =>
      pvc.ns = some ns && !(pvc.name = name &&
        (uid = .null || uid = (pvc.metadata.or (.dict [])).item "uid"))).map
    fun pvc => ((pvcRequestedStorage pvc).bind quantityBytes).getD 0).sum

/-- `_namespace_storage_usage`, excluding the given claim. -/
def namespaceStorageUsage : StorageProgram Nat := do
  let pvcs ← storeListAll pvcResource
  return storageUsage pvcs (pvc.ns.getD "") pvc.name (pvc.metadata.item "uid")

def quotaAllowsPvc (pvc : K8sObject) : StorageProgram Bool :=
  match quotaBytes controller pvc.ns, pvcRequestedStorage pvc with
  | some quota, some raw =>
      match quantityBytes raw with
      | none => .done true
      | some requested => do
          let usage ← namespaceStorageUsage pvc
          if quota < usage + requested then
            giveUp pvc "StorageQuotaExceeded"
              ("namespace storage quota exceeded: requested " ++ raw) false
          else return true
  | _, _ => .done true

def quotaAllowsExpansion
    (pvc : K8sObject)
    (requested : Nat) : StorageProgram Bool :=
  match quotaBytes controller pvc.ns with
  | none => .done true
  | some quota => do
      let usage ← namespaceStorageUsage pvc
      return decide (usage + requested ≤ quota)

/-! ## Matching -/

/-- The first item that passes a test, `none` if the test raises before. -/
def firstWith (items : List K8sObject) (test : K8sObject → Option Bool) :
    Option (Option K8sObject) :=
  match items with
  | [] => some none
  | item :: rest =>
      (test item).bind fun passes =>
        if passes then some (some item) else firstWith rest test

/-- The first item that passes a test, behind items that fail it. -/
def FirstOf (items : List K8sObject) (test : K8sObject → Option Bool) (item : K8sObject) : Prop :=
  ∃ before after, items = before ++ item :: after ∧
    (∀ other ∈ before, test other = some false) ∧ test item = some true

namespace FirstOf

variable {items : List K8sObject} {test : K8sObject → Option Bool} {item : K8sObject}

theorem mem (first : FirstOf items test item) : item ∈ items := by
  obtain ⟨before, after, rfl, -⟩ := first
  simp

theorem passes (first : FirstOf items test item) : test item = some true := by
  obtain ⟨-, -, -, -, passed⟩ := first
  exact passed

end FirstOf

theorem firstWith_eq_some_iff
    (items : List K8sObject) (test : K8sObject → Option Bool) (item : K8sObject) :
    firstWith items test = some (some item) ↔ FirstOf items test item := by
  induction items with
  | nil =>
      constructor
      · intro found
        simp [firstWith] at found
      · rintro ⟨before, after, split, -⟩
        simp at split
  | cons head rest ih =>
      rw [firstWith, Option.bind_eq_some_iff]
      constructor
      · rintro ⟨passes, tested, found⟩
        cases passes with
        | true =>
            obtain rfl : head = item := by simpa using found
            exact ⟨[], rest, rfl, by simp, tested⟩
        | false =>
            simp only [Bool.false_eq_true, if_false] at found
            obtain ⟨before, after, rfl, failed, passed⟩ := ih.mp found
            exact ⟨head :: before, after, rfl, List.forall_mem_cons.mpr ⟨tested, failed⟩, passed⟩
      · rintro ⟨before, after, split, failed, passed⟩
        cases before with
        | nil =>
            obtain ⟨rfl, rfl⟩ := List.cons.inj split
            exact ⟨true, passed, rfl⟩
        | cons first others =>
            obtain ⟨rfl, rfl⟩ := List.cons.inj split
            obtain ⟨tested, othersFailed⟩ := List.forall_mem_cons.mp failed
            exact ⟨false, tested,
              ih.mpr ⟨others, after, rfl, othersFailed, passed⟩⟩

theorem firstWith_eq_none_iff (items : List K8sObject) (test : K8sObject → Option Bool) :
    firstWith items test = some none ↔ ∀ item ∈ items, test item = some false := by
  induction items with
  | nil => simp [firstWith]
  | cons head rest ih =>
      rw [firstWith, Option.bind_eq_some_iff, List.forall_mem_cons, ← ih]
      constructor
      · rintro ⟨passes, tested, found⟩
        cases passes with
        | true => simp at found
        | false => exact ⟨tested, by simpa using found⟩
      · rintro ⟨tested, found⟩
        exact ⟨false, tested, by simpa using found⟩

def findPreboundPv : StorageProgram (Option K8sObject) := do
  let pvs ← storeListAll pvResource
  .ofOption (firstWith pvs fun pv => pvClaimRefMatches pv pvc)

/-- The tests of `_find_available_pv`. -/
def availableFor
    (sc : Option String) (modes : List Json) (vm : Json)
    (pvc pv : K8sObject) : Option Bool :=
  (pvClaimRefConflicts pv pvc).bind fun conflicts =>
  if conflicts then some false
  else (pvIsAvailable pv).bind fun available =>
  if !available then some false
  else (pvStorageClass pv).bind fun pvSc =>
  if (sc.getD "" ≠ "" ∨ pvSc.getD "" ≠ "") ∧ sc ≠ pvSc then some false
  else (if modes.isEmpty then some true else modesMatch modes pv).bind fun fits =>
  if !fits then some false
  else if vm.truthy then volumeModeMatch vm pv else some true

def findAvailablePv (pvc : K8sObject) : StorageProgram (Option K8sObject) := do
  let sc ← .ofOption (pvcStorageClass controller pvc)
  let modes ← .ofOption (accessModes pvc)
  let vm ← .ofOption (pvc.spec.lookup "volumeMode")
  let pvs ← storeListAll pvResource
  .ofOption (firstWith pvs (availableFor sc modes vm pvc))

def matchPvForPvc (pvc : K8sObject) : StorageProgram (Option K8sObject) := do
  let volumeName ← .ofOption (pvc.spec.lookup "volumeName")
  if volumeName.truthy then
    match ← storeGetNamed pvResource none volumeName with
    | none => return none
    | some pv =>
        let conflicts ← .ofOption (pvClaimRefConflicts pv pvc)
        return if conflicts then none else some pv
  else
    match ← findPreboundPv pvc with
    | some pv => return some pv
    | none => findAvailablePv controller pvc

/-! ## Binding -/

/-- The metadata, spec and status of an object that is about to be written. -/
structure Content where
  metadata : Dict
  spec : Dict
  status : Dict
  deriving DecidableEq

def setClaimRef (claim : Dict) (pvc : K8sObject) (uid : Json) : Dict :=
  let named := Dict.set (Dict.set claim "name" (.str pvc.name))
    "namespace" (.str (pvc.ns.getD ""))
  if uid.truthy then Dict.set named "uid" uid else named

/-- The volume as `_bind` writes it, and whether a finalizer was added. -/
def boundVolume (pvc pv : K8sObject) : Option (Content × Bool) :=
  pv.spec.asDict.bind fun spec =>
  pv.status.asDict.bind fun status =>
  (ensureFinalizer pv.metadata pvProtectionFinalizer).bind
    fun (metadata, changed) =>
  (Dict.get spec "claimRef").asDict.bind fun claim =>
  (pvClaimRefMatches pv pvc).bind fun named =>
  (pvc.metadata.lookup "uid").map fun uid =>
    (⟨metadata,
      if named then spec
        else Dict.set spec "claimRef" (.dict (setClaimRef claim pvc uid)),
      Dict.set status "phase" (.str "Bound")⟩, changed)

/-- The claim as `_bind` writes it, and whether a finalizer was added. -/
def boundClaim (pvc pv : K8sObject) : Option (Content × Bool) :=
  pvc.spec.asDict.bind fun spec =>
  pvc.status.asDict.bind fun status =>
  pv.spec.asDict.bind fun pvSpec =>
  (ensureFinalizer pvc.metadata pvcProtectionFinalizer).map
    fun (metadata, changed) =>
    let spec := Dict.set spec "volumeName" (.str pv.name)
    let spec := match controller.defaultClass with
      | some name =>
          if (Dict.get spec "storageClassName").truthy then spec
          else Dict.set spec "storageClassName" (.str name)
      | none => spec
    let status := Dict.set status "phase" (.str "Bound")
    let status :=
      if !Dict.has status "capacity" && (Dict.get pvSpec "capacity").truthy then
        Dict.set status "capacity" (Dict.get pvSpec "capacity")
      else status
    let status :=
      if !Dict.has status "accessModes" && (Dict.get spec "accessModes").truthy
      then Dict.set status "accessModes" (Dict.get spec "accessModes")
      else status
    (⟨metadata, spec, status⟩, changed)

def bindingUpToDate (object : K8sObject) (content : Content) : Bool :=
  decide (object.metadata = .dict content.metadata ∧
    object.spec = .dict content.spec ∧ object.status = .dict content.status)

/-- The write of the volume in `_bind`. -/
def bindVolume (pv : K8sObject) (volume : Content) (changed : Bool) : StorageProgram Unit :=
  if !bindingUpToDate pv volume || changed then
    writePv pv (.dict volume.metadata) (.dict volume.spec) (.dict volume.status)
  else .done ()

/-- The write of the claim in `_bind`. -/
def bindClaim (claim : Content) (changed : Bool) : StorageProgram Unit :=
  if !bindingUpToDate pvc claim || changed then
    writePvc pvc (.dict claim.metadata) (.dict claim.spec) (.dict claim.status)
  else .done ()

/-- `_bind`: the volume is written before the claim. -/
def bind (pvc pv : K8sObject) : StorageProgram Unit := do
  let (claim, claimChanged) ← .ofOption (boundClaim controller pvc pv)
  let (volume, volumeChanged) ← .ofOption (boundVolume pvc pv)
  bindVolume pv volume volumeChanged
  bindClaim pvc claim claimChanged

/-! ## Attachments of CSI volumes -/

def volumeAttachmentsForPv (pvName : String) : StorageProgram (List K8sObject) := do
  let attachments ← storeListAll vaResource
  return attachments.filter fun att =>
    decide (((att.spec.or (.dict [])).item "source").item "persistentVolumeName" = .str pvName)

def csiDriverAttachRequired (driver : String) : StorageProgram Bool :=
  if !controller.enableCsi then .done false
  else if driver = "" then .done true
  else do
    match ← storeGet csiDriverResource none driver with
    | none => return true
    | some object =>
        let spec := object.spec.or (.dict [])
        let raw := spec.item "attachRequired"
        return !spec.isDict || raw = .null || raw.truthy

def isSingleWriter (pvSpec : Json) : Option Bool :=
  (pvSpec.item "accessModes").asList.map fun modes =>
    !(modes.contains (.str "ReadWriteMany") || modes.contains (.str "ReadOnlyMany"))

def attachmentNode (att : K8sObject) : Option String :=
  let node := (att.spec.or (.dict [])).item "nodeName"
  if node.truthy then some node.toStr else none

def attachmentAttached (att : K8sObject) : Bool :=
  ((att.status.or (.dict [])).item "attached").truthy

def attachmentPublishContext (att : K8sObject) : List (String × String) :=
  let status := att.status.or (.dict [])
  let metadata :=
    (status.item "attachmentMetadata").or (status.item "attachment_metadata")
  let raw := (metadata.item "publishContext").or (metadata.item "publish_context")
  (raw.entries.filter fun entry => entry.2 ≠ .null).map fun entry =>
    (entry.1, entry.2.toStr)

def sanitizeName (value : String) : String :=
  let safe := (lower value).toList.map fun ch =>
    if ch.isAlphanum || ch == '-' then ch else '-'
  let stripped :=
    ((safe.dropWhile (· == '-')).reverse.dropWhile (· == '-')).reverse
  String.ofList ((if stripped.isEmpty then "va".toList else stripped).take 253)

def volumeAttachmentName (pvName node : String) : String :=
  sanitizeName ("va-" ++ pvName ++ "-" ++ node ++ "-" ++ controller.uuid5 (pvName ++ ":" ++ node))

def legacyMarkerAttachAllowed (sc : Option K8sObject) : Bool :=
  let marked := (sc.bind annotations).getD []
  truthyText (orEnvironment controller .null "AE_STORAGE_ALLOW_LEGACY_MARKER_ATTACH") ||
    truthyText (Dict.get marked legacyMarkerAttachKey)

def classNamed (scName : Json) : StorageProgram (Option K8sObject) :=
  if scName.truthy then storeGetNamed scResource none scName else .done none

/-- The spec of a class as the CSI functions read it. -/
def classSpec (sc : Option K8sObject) : Json :=
  match sc with
  | some sc => if sc.spec.isDict then sc.spec else .dict []
  | none => .dict []

def csiEntry
    (scName : Json)
    (driver : String) : Option StorageProvisionerConfig :=
  let byClass := match scName with
    | .str name => controller.forStorageClass (some name)
    | _ => none
  (byClass.or (controller.forDriver driver)).filter fun entry => entry.type = "csi"

/-- Publish a CSI volume to a node: the publish context, or why it failed. -/
def publishVolume (pvc : K8sObject) (pvSpec : Json) (driver handle node : String) :
    StorageProgram (Except String (List (String × String))) := do
  let scName := pvSpec.item "storageClassName"
  let sc ← classNamed scName
  match csiEntry controller scName driver with
  | none =>
      if legacyMarkerAttachAllowed controller sc then
        giveUp pvc "LegacyMarkerAttach" ("CSI provisioner " ++ driver ++
            " not registered; using marker-only attach") (.ok [])
      else return .error ("CSI provisioner " ++ driver ++ " not registered")
  | some _ =>
      let (reference, secret) ←
        csiSecretFromParams (classSpec sc) "controller-publish"
      if reference.isSome && !secret then
        return .error "controller-publish secret not found"
      else if !controller.grpc then return .ok []
      else if !csiControllerClient controller driver
          (if scName.truthy then some scName.toStr else none) then
        return .error "CSI controller endpoint missing"
      else
        let published : Except String (List (String × String)) ←
          call (.controllerPublish driver handle node)
        match published with
        | .ok context => return .ok context
        | .error code => return .error ("CSI ControllerPublish failed: " ++ code)

def publishedContext
    (pvc : K8sObject) (pvSpec : Json) (driver handle node : String)
    (existing : Option K8sObject) :
    StorageProgram (Except String (List (String × String))) :=
  match existing.filter attachmentAttached with
  | some att => .done (.ok (attachmentPublishContext att))
  | none => publishVolume controller pvc pvSpec driver handle node

/-- The nodes, other than the given one, that the volume is attached to. -/
def conflictNodes (attachments : List K8sObject) (node : String) : List String :=
  ((attachments.filter attachmentAttached).filterMap attachmentNode).filter
    (· ≠ node) |>.dedup |>.insertionSort (· ≤ ·)

/-- The `attachError` of an attachment that could not be published. -/
def attachError
    (published : Except String (List (String × String))) : StorageProgram Dict :=
  match published with
  | .ok _ => .done []
  | .error message => do
      let ts : String ← call .now
      recordPvcEvent pvc "AttachFailed" message
      return [("attachError", .dict [("message", .str message), ("time", .str ts)])]

/-- Write the attachment of a volume to a node, and remove the detached ones of
a volume with one writer. -/
def recordAttachment
    (pvName driver handle node name : String) (attachments : List K8sObject)
    (singleWriter : Bool) (published : Except String (List (String × String))) :
    StorageProgram Unit := do
  let context := match published with
    | .ok context => context
    | .error _ => []
  let metadata : Dict :=
    [("volumeHandle", .str handle)] ++ (if context.isEmpty then []
        else [("publishContext", .dict (context.map fun (key, value) =>
          (key, .str value)))])
  let failure ← attachError pvc published
  let status : Dict :=
    [("attached", .bool failure.isEmpty), ("attachmentMetadata", .dict metadata)] ++ failure
  let _ ← storeUpsert none vaResource none name
    (.dict [("name", .str name), ("annotations", .dict [(storageProvisionerKey, .str driver)])])
    (.dict [("attacher", .str driver), ("nodeName", .str node),
      ("source", .dict [("persistentVolumeName", .str pvName)])])
    (.dict status)
  if singleWriter then
    .forEach attachments fun att =>
      match attachmentNode att with
      | none => .done ()
      | some other =>
          if other = node ∨ attachmentAttached att = true then .done ()
          else do
            let _ ← storeDelete vaResource none att.name

def reconcileCsiAttachment (pvc pv : K8sObject) : StorageProgram Unit :=
  let pvSpec := pv.spec.or (.dict [])
  match controller.enableCsi, pvSpec.item "csi", selectedNode pvc with
  | true, .dict csi, some node => do
      let driver := ((Dict.get csi "driver").or (.str "")).toStr
      let handle := ((Dict.get csi "volumeHandle").or (.str "")).toStr
      if driver = "" ∨ handle = "" then
        recordPvcEvent pvc "InvalidVolume" "CSI PV missing driver/volumeHandle"
      else
        let attachRequired ← csiDriverAttachRequired controller driver
        let attachments ← volumeAttachmentsForPv pv.name
        if !attachRequired then
          .forEach attachments fun att => do
            let _ ← storeDelete vaResource none att.name
        else
          let singleWriter ← .ofOption (isSingleWriter pvSpec)
          let nodes := conflictNodes attachments node
          if !nodes.isEmpty && singleWriter then
            recordPvcEvent pvc "MultiAttachForbidden"
              ("volume " ++ pv.name ++ " already attached to node(s): " ++ ", ".intercalate nodes)
          else
            let name := volumeAttachmentName controller pv.name node
            let existing ← storeGet vaResource none name
            let published ←
              publishedContext controller pvc pvSpec driver handle node existing
            recordAttachment pvc pv.name driver handle node name attachments singleWriter published
  | _, _, _ => .done ()

/-! ## Expansion -/

/-- `_merge_condition`: the first condition of the type is updated, or one is
added. -/
def mergeCondition
    (conditions : List Json)
    (condType status reason message now : String) : List Json :=
  match conditions with
  | [] =>
      [.dict [("type", .str condType), ("status", .str status),
        ("reason", .str reason), ("message", .str message),
        ("lastTransitionTime", .str now), ("lastProbeTime", .str now)]]
  | .dict cond :: rest =>
      if Dict.get cond "type" = .str condType then
        let cond :=
          if Dict.get cond "status" = .str status then cond
          else Dict.set cond "lastTransitionTime" (.str now)
        .dict (Dict.set (Dict.set (Dict.set (Dict.set cond
          "status" (.str status)) "reason" (.str reason))
          "message" (.str message)) "lastProbeTime" (.str now)) :: rest
      else .dict cond :: mergeCondition rest condType status reason message now
  | other :: rest =>
      other :: mergeCondition rest condType status reason message now

def removeCondition (conditions : List Json) (condType : String) : List Json :=
  conditions.filter fun cond =>
    !cond.isDict || cond.item "type" ≠ .str condType

def storageClassAllowsExpansion (pvc pv : K8sObject) : StorageProgram Bool := do
  let pvSc ← .ofOption (pvStorageClass pv)
  let pvcSc ← .ofOption (pvcStorageClass controller pvc)
  match (pvSc.or pvcSc).getD "" with
  | "" => return false
  | scName =>
      match ← storeGet scResource none scName with
      | none => return false
      | some sc => return ((sc.spec.or (.dict [])).item "allowVolumeExpansion").truthy

def filesystemResizeEnabled : Bool :=
  ["1", "true", "yes", "on"].contains (lower ((controller.getenv "AE_NETFS_FS_RESIZE").getD "0"))

/-- The conditions of a claim whose file system may have to grow too. -/
def fsResizeConditions
    (mode : String) (conditions : List Json) : StorageProgram (List Json) :=
  if lower mode = "block" then .done conditions
  else if filesystemResizeEnabled controller then
    .done (removeCondition conditions pvcFsResizePendingCondition)
  else do
    let ts : String ← call .now
    return mergeCondition conditions pvcFsResizePendingCondition "True"
      "WaitingForNodeResize" "filesystem resize pending on node" ts

/-- Report on the claim why its volume is not expanded. -/
def refuseExpansion
    (spec status : Dict) (conditions : List Json)
    (reason message : String) : StorageProgram Unit := do
  recordPvcEvent pvc reason message
  let ts : String ← call .now
  writePvc pvc pvc.metadata (.dict spec)
    (.dict (Dict.set status "conditions" (.list (mergeCondition conditions
      pvcResizeCondition "False" "ExpansionFailed" message ts))))

/-- Expand a volume, and report on the claim.  Both are written back from the
copies given. -/
def expandVolume
    (pvc pv : K8sObject) (pvcSpec pvcStatus pvSpec capacity : Dict) (conditions : List Json)
    (requested : String) : StorageProgram Unit := do
  let ts : String ← call .now
  let conditions := mergeCondition conditions pvcResizeCondition "True" "Resizing"
    ("expanding to " ++ requested) ts
  let expanded := Json.dict (Dict.set capacity "storage" (.str requested))
  let pvSpec := Dict.set pvSpec "capacity" expanded
  let pvStatus ← .ofOption pv.status.asDict
  writePv pv pv.metadata (.dict pvSpec) (.dict (Dict.set pvStatus "capacity" expanded))
  let pvcStatus := Dict.set pvcStatus "capacity" expanded
  let pvcStatus := Dict.set pvcStatus "phase" (.str "Bound")
  let done : String ← call .now
  let conditions := mergeCondition conditions pvcResizeCondition "False"
    "ResizeComplete" ("expanded to " ++ requested) done
  let mode := (((Dict.get pvcSpec "volumeMode").or
    (Dict.get pvSpec "volumeMode")).or (.str "Filesystem")).toStr
  let conditions ← fsResizeConditions controller mode conditions
  writePvc pvc pvc.metadata (.dict pvcSpec)
    (.dict (Dict.set pvcStatus "conditions" (.list conditions)))
  recordPvcEvent pvc "VolumeExpanded" ("expanded to " ++ requested)

def maybeExpandBoundVolume (pvc pv : K8sObject) : StorageProgram Unit :=
  match pvcRequestedStorage pvc with
  | none => .done ()
  | some requestedRaw => do
      let pvSpec ← .ofOption pv.spec.asDict
      let capacity := (Dict.get pvSpec "capacity").entries
      let currentRaw := Dict.get capacity "storage"
      match currentRaw.truthy, quantityBytes requestedRaw,
        quantityBytes currentRaw.toStr with
      | true, some requested, some current =>
          if requested ≤ current then return ()
          else
            let pvcSpec ← .ofOption pvc.spec.asDict
            let pvcStatus ← .ofOption pvc.status.asDict
            let conditions ← .ofOption (Dict.get pvcStatus "conditions").asList
            let quotaAllows ← quotaAllowsExpansion controller pvc requested
            if !quotaAllows then
              refuseExpansion pvc pvcSpec pvcStatus conditions "StorageQuotaExceeded"
                "expansion would exceed namespace storage quota"
            else
              let classAllows ← storageClassAllowsExpansion controller pvc pv
              if !classAllows then
                refuseExpansion pvc pvcSpec pvcStatus conditions "VolumeExpansionForbidden"
                  "storage class does not allow expansion"
              else
                expandVolume controller pvc pv pvcSpec pvcStatus pvSpec capacity
                  conditions requestedRaw
      | _, _, _ => return ()

/-! ## Reconciliation of one claim -/

/-- The branch of `_reconcile_pvc` for a claim that names a volume. -/
def reconcileNamedVolume
    (pvc : K8sObject)
    (pvName : Json) : StorageProgram Unit := do
  match ← storeGetNamed pvResource none pvName with
  | none =>
      ensurePvcPhase pvc "Pending"
      recordPvcEvent pvc "VolumeNotFound"
        ("requested persistent volume " ++ pvName.toStr ++ " not found")
  | some pv =>
      match ← .ofOption (releasedOrFailed pv) with
      | some phase =>
          ensurePvcPhase pvc "Pending"
          recordPvcEvent pvc "VolumeBindingFailed"
            ("persistent volume " ++ pvName.toStr ++ " is " ++ phase)
      | none =>
          let conflicts ← .ofOption (pvClaimRefConflicts pv pvc)
          if conflicts then
            ensurePvcPhase pvc "Pending"
            recordPvcEvent pvc "VolumeBindingFailed"
              ("persistent volume " ++ pvName.toStr ++ " is already claimed")
          else
            bind controller pvc pv
            reconcileCsiAttachment controller pvc pv
            maybeExpandBoundVolume controller pvc pv

/-- A volume that matches the claim, or a new one. -/
def matchOrProvision (pvc : K8sObject) : StorageProgram (Option K8sObject) := do
  match ← matchPvForPvc controller pvc with
  | some pv => return some pv
  | none => maybeProvision controller pvc

/-- `_reconcile_pvc`.  A bound claim without a volume name is left alone. -/
def reconcilePvc (pvc : K8sObject) : StorageProgram Unit := do
  let pvName ← .ofOption (pvc.spec.lookup "volumeName")
  if pvName.truthy then reconcileNamedVolume controller pvc pvName
  else
    let bound ← pvcIsBound pvc
    if bound then return ()
    else
      let allowed ← quotaAllowsPvc controller pvc
      if !allowed then ensurePvcPhase pvc "Pending"
      else
        match ← matchOrProvision controller pvc with
        | none => ensurePvcPhase pvc "Pending"
        | some pv =>
            bind controller pvc pv
            maybeExpandBoundVolume controller pvc pv

end Storage
end K1s
