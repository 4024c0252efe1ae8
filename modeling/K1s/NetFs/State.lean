import K1s.Lib.Dictionary
import K1s.Storage.Binding

/-!
# Mounts on a node

A node keeps a record of every mount that it has made for a claim, under the namespace and
name of the claim and the node.  The claims and volumes themselves are objects of the API.
This module has the records, the operations on them, and what the manager asks of the node:
its file system, its mount table and the CSI drivers.  What the node answers is left open,
as a function of the calls before.
-/

namespace K1s
namespace NetFs

open Py ApiShim
open Storage (pvcResource pvResource eventResource)

/-! ## Records -/

structure PvcRef where
  name : String
  ns : String
  uid : Option String := none
  deriving DecidableEq

structure PvRef where
  name : String
  uid : Json := .null
  driver : Json := .null
  deriving DecidableEq

/-- The record of a mount. -/
structure NetFSMount where
  pvc : PvcRef
  pv : PvRef
  nodeId : String
  hostPath : String
  readOnly : Bool
  deriving DecidableEq

/-- What a record is kept under. -/
structure MountKey where
  ns : String
  name : String
  nodeId : String
  deriving DecidableEq

def PvcRef.on (pvc : PvcRef) (nodeId : String) : MountKey := ⟨pvc.ns, pvc.name, nodeId⟩

def NetFSMount.key (mount : NetFSMount) : MountKey := mount.pvc.on mount.nodeId

/-! ## The node -/

/-- What the manager asks of the node.  A call that can fail is answered with the message
of its failure, or the name of the status code of an RPC. -/
inductive NodeCall
  | now
  | eventSuffix
  | pathExists (path : String)
  | isDir (path : String)
  | isBlockOrFile (path : String)
  /-- `os.geteuid() == 0`. -/
  | isRoot
  /-- `shutil.which(tool)`. -/
  | which (tool : String)
  /-- Change the group of a path that exists and has another one. -/
  | changeGroup (path : String) (gid : Int)
  | relabel (command : List String)
  | withinRoot (root path : String)
  | mkdir (path : String)
  /-- `_mount_info`: the source and the type of what is mounted at a path. -/
  | mountInfo (path : String)
  /-- `_ensure_nfs_tools`, which remembers a success. -/
  | nfsTools
  | mountNfs (source target : String) (options : List String)
  | unmount (target : String)
  | grow (command : List String)
  | nodeStage (driver handle stagePath : String) (flags : List String)
  | nodePublish
      (driver handle target : String)
      (stagePath : Option String)
      (flags : List String)
      (readOnly : Bool)
  | nodeUnpublish (driver handle target : String)
  | nodeUnstage (driver handle stagePath : String)
  /-- Write the marker of a CSI mount, whether or not it succeeds. -/
  | writeMarker (path : String)
  deriving DecidableEq

/-- What a call answers. -/
def NodeCall.Reply : NodeCall → Type
  | .now | .eventSuffix => String
  | .pathExists _ | .isDir _ | .isBlockOrFile _ | .isRoot | .which _ | .withinRoot _ _ => Bool
  | .changeGroup _ _ | .relabel _ | .mkdir _ | .nfsTools | .mountNfs _ _ _ => Option String
  | .unmount _ | .grow _ | .nodeStage _ _ _ _ | .nodePublish _ _ _ _ _ _ => Option String
  | .nodeUnpublish _ _ _ | .nodeUnstage _ _ _ => Option String
  | .mountInfo _ => Option (String × String)
  | .writeMarker _ => Unit

/-- How the node answers, given the calls before. -/
def Node := List NodeCall → (request : NodeCall) → request.Reply

/-- A node on which every call succeeds and nothing is mounted yet. -/
def plainNode : Node
  | _, .now => "2024-01-01T00:00:00Z"
  | _, .eventSuffix => "1704067200.0a1b2c"
  | _, .pathExists _ | _, .isDir _ | _, .isBlockOrFile _ => true
  | _, .isRoot | _, .which _ | _, .withinRoot _ _ => true
  | _, .changeGroup _ _ | _, .relabel _ | _, .mkdir _ | _, .nfsTools => none
  | _, .mountNfs _ _ _ | _, .unmount _ | _, .grow _ => none
  | _, .nodeStage _ _ _ _ | _, .nodePublish _ _ _ _ _ _ => none
  | _, .nodeUnpublish _ _ _ | _, .nodeUnstage _ _ _ => none
  | _, .mountInfo _ => none
  | _, .writeMarker _ => ()

/-! ## Operations -/

/-- The objects, the records, and the calls made so far, the latest first. -/
structure NodeState where
  store : ObjectStore
  mounts : Dictionary MountKey NetFSMount
  calls : List NodeCall

/-- One operation of the manager. -/
inductive NodeOp
  | store (operation : StoreOp)
  | getMount (key : MountKey)
  | upsertMount (mount : NetFSMount)
  | deleteMount (key : MountKey)
  | listMounts
  | call (request : NodeCall)

/-- What an operation returns. -/
def NodeOp.Reply : NodeOp → Type
  | .store operation => operation.Reply
  | .getMount _ => Option NetFSMount
  | .upsertMount _ | .deleteMount _ => Unit
  | .listMounts => List NetFSMount
  | .call request => request.Reply

def NodeOp.execute (node : Node) : (operation : NodeOp) → NodeState → operation.Reply × NodeState
  | .store operation, state =>
      ((operation.execute state.store).1,
        { state with store := (operation.execute state.store).2 })
  | .getMount key, state => (state.mounts.find? key, state)
  | .upsertMount mount, state => ((), { state with mounts := state.mounts.set mount.key mount })
  | .deleteMount key, state => ((), { state with mounts := state.mounts.drop key })
  | .listMounts, state => (state.mounts.entries.map Prod.snd, state)
  | .call request, state =>
      (node state.calls request, { state with calls := request :: state.calls })

abbrev NodeProgram := Program NodeOp NodeOp.Reply

def perform (operation : NodeOp) : NodeProgram operation.Reply := Program.ask operation

def call (request : NodeCall) : NodeProgram request.Reply := perform (.call request)

def storeGet (gvr : Gvr) (ns : Option String) (name : String) :
    NodeProgram (Option K8sObject) :=
  perform (.store (.get gvr ns name))

/-- `store.get` with a name taken from an object. -/
def storeGetNamed (gvr : Gvr) (name : Json) : NodeProgram (Option K8sObject) :=
  match name.sqlText with
  | none => .raise
  | some none => .done none
  | some (some text) => storeGet gvr none text

def storeListAll (gvr : Gvr) : NodeProgram (List K8sObject) :=
  perform (.store (.listAll gvr))

def getMount (pvc : PvcRef) (nodeId : String) : NodeProgram (Option NetFSMount) :=
  perform (.getMount (pvc.on nodeId))

def upsertMount (mount : NetFSMount) : NodeProgram Unit := perform (.upsertMount mount)

def deleteMount (pvc : PvcRef) (nodeId : String) : NodeProgram Unit :=
  perform (.deleteMount (pvc.on nodeId))

/-- `list_mounts`, of all nodes. -/
def listMounts : NodeProgram (List NetFSMount) := perform .listMounts

/-! ## Objects -/

/-- The driver that a volume is mounted with. -/
def driverOf (pv : K8sObject) : Json :=
  match pv.spec with
  | .dict spec =>
      match Dict.get spec "csi", Dict.get spec "nfs" with
      | .dict csi, _ => Dict.get csi "driver"
      | _, .dict _ => .str "k1s.io/nfs"
      | _, _ => .null
  | _ => .null

def pvRefOf (volumeName : Json) (pv : K8sObject) : PvRef :=
  ⟨volumeName.toStr, (pv.metadata.lookup "uid").getD .null, driverOf pv⟩

def getPvForPvc (pvc : PvcRef) : NodeProgram (Option PvRef) := do
  match ← storeGet pvcResource (some pvc.ns) pvc.name with
  | none => return none
  | some object =>
      let volumeName ← .ofOption (object.spec.lookup "volumeName")
      if !volumeName.truthy then return none
      else
        match ← storeGetNamed pvResource volumeName with
        | none => return none
        | some pv => return some (pvRefOf volumeName pv)

def getPv (pv : PvRef) : NodeProgram (Option K8sObject) := storeGet pvResource none pv.name

def objSpec (object : Option K8sObject) : Dict :=
  match object with
  | some object => object.spec.entries
  | none => []

def recordPvcEvent (pvc : PvcRef) (reason message : String) : NodeProgram Unit :=
  if pvc.ns = "" ∨ pvc.name = "" then .done ()
  else do
    let ts : String ← call .now
    let suffix : String ← call .eventSuffix
    let name := pvc.name ++ "." ++ suffix
    let involved : Dict :=
      [("kind", .str "PersistentVolumeClaim"), ("name", .str pvc.name),
        ("namespace", .str pvc.ns)] ++
        (if pvc.uid.getD "" = "" then [] else [("uid", .str (pvc.uid.getD ""))])
    let spec : Dict :=
      [("involvedObject", .dict involved), ("reason", .str reason),
        ("message", .str message), ("type", .str "Warning"),
        ("firstTimestamp", .str ts), ("lastTimestamp", .str ts),
        ("eventTime", .str ts), ("count", .int 1),
        ("source", .dict [("component", .str "netfs")])]
    let _ ← perform (.store (.upsert none eventResource (some pvc.ns) name
      (.dict [("name", .str name), ("namespace", .str pvc.ns)]) (.dict spec) (.dict [])))

/-- Record an event and raise an exception. -/
def fail {α : Type} (pvc : PvcRef) (reason message : String) : NodeProgram α := do
  recordPvcEvent pvc reason message
  .raise

end NetFs
end K1s
