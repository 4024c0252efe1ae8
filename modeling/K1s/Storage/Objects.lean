import K1s.ApiShim.Store
import K1s.Py.Text

/-!
# Claims, volumes and storage classes

The storage controller binds PersistentVolumeClaims to PersistentVolumes.  This
module has its configuration and the functions that only look at the objects
they are given: who a volume is claimed by, whether a volume fits a claim, and
how much storage is asked for.  `none` stands for an exception.
-/

namespace K1s
namespace Storage

open Py ApiShim

/-! ## Kinds and keys -/

def pvcResource : Gvr := ⟨"", "v1", "persistentvolumeclaims"⟩
def pvResource : Gvr := ⟨"", "v1", "persistentvolumes"⟩
def eventResource : Gvr := ⟨"", "v1", "events"⟩
def secretsResource : Gvr := ⟨"", "v1", "secrets"⟩
def scResource : Gvr := ⟨"storage.k8s.io", "v1", "storageclasses"⟩
def vaResource : Gvr := ⟨"storage.k8s.io", "v1", "volumeattachments"⟩
def csiDriverResource : Gvr := ⟨"storage.k8s.io", "v1", "csidrivers"⟩
def snapshotResource : Gvr :=
  ⟨"snapshot.storage.k8s.io", "v1", "volumesnapshots"⟩
def snapContentResource : Gvr :=
  ⟨"snapshot.storage.k8s.io", "v1", "volumesnapshotcontents"⟩

def nfsProvisioner : String := "k1s.io/nfs"
def localPathProvisioner : String := "k1s.io/local-path"
def waitForFirstConsumer : String := "WaitForFirstConsumer"
def selectedNodeKey : String := "volume.kubernetes.io/selected-node"
def provisionedByKey : String := "pv.kubernetes.io/provisioned-by"
def storageProvisionerKey : String := "volume.kubernetes.io/storage-provisioner"
def nfsHostRootKey : String := "k1s.io/nfs-host-root"
def nfsHostPathKey : String := "k1s.io/nfs-host-path"
def localHostRootKey : String := "k1s.io/local-host-root"
def localHostPathKey : String := "k1s.io/local-host-path"
def snapHostRootKey : String := "k1s.io/snapshot-host-root"
def snapHostPathKey : String := "k1s.io/snapshot-host-path"
def snapshotSourceKey : String := "k1s.io/snapshot-source"
def cloneSourceKey : String := "k1s.io/clone-source"
def legacyMarkerAttachKey : String := "storage.k1s.dev/allowLegacyMarkerAttach"
def pvcProtectionFinalizer : String := "kubernetes.io/pvc-protection"
def pvProtectionFinalizer : String := "kubernetes.io/pv-protection"
def pvcResizeCondition : String := "Resizing"
def pvcFsResizePendingCondition : String := "FileSystemResizePending"

/-! ## Configuration -/

structure StorageProvisionerConfig where
  name : String
  provisioner : String
  type : String
  controllerEndpoint : Option String := none
  accessModes : List String := []
  deriving DecidableEq

structure StorageQuotaConfig where
  ns : String
  hardStorage : String
  deriving DecidableEq

/-- The fields of the controller that reconciliation reads, and the process
environment. -/
structure StorageController where
  /-- The name of the default class. -/
  defaultClass : Option String
  provisioners : List StorageProvisionerConfig
  storageQuotas : List StorageQuotaConfig
  enableSnapshots : Bool
  enableCsi : Bool
  /-- Whether the `grpc` package is installed. -/
  grpc : Bool
  getenv : String → Option String
  /-- `Path(text).expanduser()`, as text. -/
  expanduser : String → String
  /-- The first eight digits of `uuid5` in the DNS namespace. -/
  uuid5 : String → String

variable (controller : StorageController) (pv pvc : K8sObject)

namespace StorageController

/-- The first provisioner registered under a class name. -/
def forStorageClass (name : Option String) : Option StorageProvisionerConfig :=
  match name with
  | none | some "" => none
  | some name => controller.provisioners.find? fun entry => entry.name = name

/-- The first provisioner registered for a driver. -/
def forDriver (driver : String) : Option StorageProvisionerConfig :=
  if driver = "" then none
  else controller.provisioners.find? fun entry => entry.provisioner = driver

end StorageController

/-- A controller without classes, quotas and CSI. -/
def plainController : StorageController where
  defaultClass := none
  provisioners := []
  storageQuotas := []
  enableSnapshots := false
  enableCsi := false
  grpc := false
  getenv := fun _ => none
  expanduser := id
  uuid5 := id

def truthyText (text : Json) : Bool :=
  ["1", "true", "yes", "on"].contains (lower (strip (text.or (.str "")).toStr))

/-! ## Claim references -/

/-- `(pv.spec or {}).get("claimRef") or {}`. -/
def claimRef : Option Json :=
  (pv.spec.lookup "claimRef").map fun claim => claim.or (.dict [])

/-- Both uids are given and their texts differ. -/
def uidsDiffer (pvcUid claimUid : Json) : Bool :=
  pvcUid.truthy && claimUid.truthy && decide (pvcUid.toStr ≠ claimUid.toStr)

def pvClaimRefMatches : Option Bool :=
  (claimRef pv).bind fun claim =>
  (claim.get "name").bind fun name =>
  if name ≠ .str pvc.name then some false
  else (claim.get "namespace").bind fun ns =>
  if ns ≠ .str (pvc.ns.getD "") then some false
  else (pvc.metadata.lookup "uid").bind fun pvcUid =>
  (claim.get "uid").map fun claimUid => !uidsDiffer pvcUid claimUid

def pvClaimRefConflicts : Option Bool :=
  (claimRef pv).bind fun claim =>
  if claim.truthy = false then some false
  else (claim.get "name").bind fun name =>
  (claim.get "namespace").bind fun ns =>
  if name = .str pvc.name ∧ ns = .str (pvc.ns.getD "") then
    (pvc.metadata.lookup "uid").bind fun pvcUid =>
    (claim.get "uid").map fun claimUid => uidsDiffer pvcUid claimUid
  else some true

def claimRefFor : Option Dict :=
  (pvc.metadata.lookup "uid").map fun uid =>
    [("name", .str pvc.name), ("namespace", .str (pvc.ns.getD ""))] ++
      (if uid.truthy then [("uid", uid)] else [])

/-! ## Fields of claims and volumes -/

def pvReclaimPolicy : Option String :=
  (pv.spec.lookup "persistentVolumeReclaimPolicy").bind fun policy =>
  (pv.spec.lookup "reclaimPolicy").map fun other =>
  if (policy.or other).truthy then (policy.or other).toStr else "Retain"

def pvIsAvailable : Option Bool :=
  (pv.status.lookup "phase").map fun phase =>
    decide (phase = .null ∨ phase = .str "" ∨ phase = .str "Available")

def pvcStorageClass : Option (Option String) :=
  (pvc.spec.lookup "storageClassName").map fun sc =>
    if sc.truthy then some sc.toStr else controller.defaultClass

def pvStorageClass : Option (Option String) :=
  (pv.spec.lookup "storageClassName").map fun sc =>
    if sc.truthy then some sc.toStr else none

/-- `set((object.spec or {}).get("accessModes") or [])`. -/
def accessModes (object : K8sObject) : Option (List Json) :=
  (object.spec.lookup "accessModes").bind fun modes =>
  modes.asList.bind fun items =>
  if items.all Json.hashable then some items else none

def modesMatch (pvcModes : List Json) (pv : K8sObject) : Option Bool :=
  (accessModes pv).map fun pvModes =>
    pvModes.isEmpty || pvcModes.all fun mode => pvModes.contains mode

def volumeModeMatch (pvcVm : Json) (pv : K8sObject) : Option Bool :=
  (pv.spec.lookup "volumeMode").map fun pvVm =>
    !pvVm.truthy || decide (pvVm.toStr = pvcVm.toStr)

/-- The annotations of an object, `none` where the code gives up on them. -/
def annotations (object : K8sObject) : Option Dict :=
  match (object.metadata.or (.dict [])).item "annotations" with
  | .dict entries => some entries
  | _ => none

def selectedNode : Option String :=
  (annotations pvc).bind fun entries =>
    let node := Dict.get entries selectedNodeKey
    if node.truthy then some node.toStr else none

def pvcUid : Option String :=
  let uid := (pvc.metadata.or (.dict [])).item "uid"
  if uid.truthy then some uid.toStr else none

def pvcRequestedStorage : Option String :=
  let storage :=
    (((pvc.spec.or (.dict [])).item "resources").item "requests").item "storage"
  if storage.truthy then some storage.toStr else none

def pvcRequestedCapacity : Json :=
  match pvcRequestedStorage pvc with
  | some storage => .dict [("storage", .str storage)]
  | none => .dict []

/-- The power of two that a unit stands for. -/
def quantityShift : String → Option Nat
  | "b" => some 0
  | "k" | "kb" | "ki" => some 10
  | "m" | "mb" | "mi" => some 20
  | "g" | "gb" | "gi" => some 30
  | "t" | "tb" | "ti" => some 40
  | _ => none

/-- `_quantity_bytes`: the digits and points of the text form the number, the
other characters the unit. -/
def quantityBytes (raw : String) : Option Nat :=
  let text := strip raw
  if isDigits text then some (digitsValue text.toList)
  else
    let number := text.toList.filter fun ch => ch.isDigit || ch == '.'
    let unit := String.ofList (text.toList.filter fun ch =>
      !(ch.isDigit || ch == '.'))
    (quantityShift (lower unit)).bind fun shift =>
    (decimalOf number).bind fun (numerator, denominator) =>
      floatScaled numerator denominator shift

/-! ## What the claim reference says -/

/-- A reference names a claim when its name and namespace are the claim's and
their uids do not differ. -/
structure Names (claim : Dict) (pvc : K8sObject) : Prop where
  name : Dict.get claim "name" = .str pvc.name
  ns : Dict.get claim "namespace" = .str (pvc.ns.getD "")
  uid : ∃ uid, pvc.metadata.lookup "uid" = some uid ∧ uidsDiffer uid (Dict.get claim "uid") = false

theorem Names.truthy {claim : Dict} {pvc : K8sObject} (names : Names claim pvc) :
    (Json.dict claim).truthy = true := by
  cases claim with
  | nil => simpa [Dict.get] using names.name
  | cons entry rest => rfl

/-- The test succeeds on the references that name the claim. -/
theorem pvClaimRefMatches_iff :
    pvClaimRefMatches pv pvc = some true ↔
      ∃ claim, pv.spec.item "claimRef" = .dict claim ∧ Names claim pvc := by
  constructor
  · intro test
    unfold pvClaimRefMatches at test
    obtain ⟨claim, found, afterClaim⟩ := Option.bind_eq_some_iff.mp test
    obtain ⟨name, readName, afterName⟩ := Option.bind_eq_some_iff.mp afterClaim
    split at afterName
    · simp at afterName
    obtain ⟨ns, readNs, afterNs⟩ := Option.bind_eq_some_iff.mp afterName
    split at afterNs
    · simp at afterNs
    rename_i sameName sameNs
    obtain ⟨uid, readUid, afterUid⟩ := Option.bind_eq_some_iff.mp afterNs
    obtain ⟨claimUid, readClaimUid, agree⟩ := Option.map_eq_some_iff.mp afterUid
    obtain ⟨raw, readRaw, rfl⟩ := Option.map_eq_some_iff.mp found
    have named : name = .str pvc.name := not_not.mp sameName
    -- An empty reference has no name, so the reference is a dictionary.
    obtain ⟨entries, rfl, _⟩ := Json.dict_of_lookup readName (by simp [named])
    simp only [Json.or_dict_nil, Json.get_dict, Option.some.injEq]
      at readName readNs readClaimUid
    refine ⟨entries, Json.item_of_lookup readRaw, ?_, ?_, uid, readUid, ?_⟩
    · rw [readName, named]
    · rw [readNs, not_not.mp sameNs]
    · simpa [readClaimUid] using agree
  · rintro ⟨claim, found, names⟩
    obtain ⟨uid, readUid, agree⟩ := names.uid
    have read := Json.lookup_of_item found (by simp)
    simp [pvClaimRefMatches, claimRef, read, names.name, names.ns, readUid, agree]

/-- Two claims that one reference names have the same name and namespace. -/
theorem Names.unique
    {claim : Dict} {first second : K8sObject} (namesFirst : Names claim first)
    (namesSecond : Names claim second) :
    first.name = second.name ∧ first.ns.getD "" = second.ns.getD "" := by
  constructor
  · simpa using namesFirst.name.symm.trans namesSecond.name
  · simpa using namesFirst.ns.symm.trans namesSecond.ns

/-- A volume that does not conflict with a claim is claimed by it or by
nobody. -/
theorem matches_or_unclaimed
    {pv pvc : K8sObject} (free : pvClaimRefConflicts pv pvc = some false) :
    pvClaimRefMatches pv pvc = some true ∨ (pv.spec.item "claimRef").truthy = false := by
  unfold pvClaimRefConflicts at free
  obtain ⟨claim, found, rest⟩ := Option.bind_eq_some_iff.mp free
  obtain ⟨raw, readRaw, equal⟩ := Option.map_eq_some_iff.mp found
  have read := Json.item_of_lookup readRaw
  by_cases empty : claim.truthy = false
  · right
    rw [read]
    by_contra present
    simp only [Bool.not_eq_false] at present
    simp [← equal, Json.or, present] at empty
  left
  simp only [empty] at rest
  obtain ⟨name, readName, afterName⟩ := Option.bind_eq_some_iff.mp rest
  obtain ⟨ns, readNs, afterNs⟩ := Option.bind_eq_some_iff.mp afterName
  split at afterNs
  · rename_i same
    obtain ⟨uid, readUid, afterUid⟩ := Option.bind_eq_some_iff.mp afterNs
    obtain ⟨claimUid, readClaimUid, agree⟩ := Option.map_eq_some_iff.mp afterUid
    simp [pvClaimRefMatches, found, readName, readNs, same.1, same.2, readUid, readClaimUid, agree]
  · simp at afterNs

theorem conflicts_of_matches
    {pv pvc : K8sObject} (named : pvClaimRefMatches pv pvc = some true) :
    pvClaimRefConflicts pv pvc = some false := by
  obtain ⟨claim, found, names⟩ := (pvClaimRefMatches_iff pv pvc).mp named
  obtain ⟨uid, readUid, agree⟩ := names.uid
  have read := Json.lookup_of_item found (by simp)
  have present := names.truthy
  simp only [Json.truthy_dict] at present
  simp [pvClaimRefConflicts, claimRef, read, names.name, names.ns, readUid, agree, present]

/-- The reference that a new volume gets names the claim. -/
theorem names_claimRefFor
    {pvc : K8sObject} {claim : Dict} (made : claimRefFor pvc = some claim) :
    Names claim pvc := by
  obtain ⟨uid, readUid, rfl⟩ := Option.map_eq_some_iff.mp made
  refine ⟨by simp [Dict.get, Dict.find?_cons], by simp [Dict.get, Dict.find?_cons],
    uid, readUid, ?_⟩
  by_cases given : uid.truthy = true
  · simp [given, Dict.get, Dict.find?_cons, uidsDiffer]
  · simp [given, uidsDiffer]

end Storage
end K1s
