import K1s.Storage.Objects

/-!
# What the storage controller does to the world

The controller's programs perform store operations and calls that leave the
process: the clock, the file system and the CSI drivers.  A world holds the
store and the calls made so far; what the calls answer is left open, as a
function of the calls before them.
-/

namespace K1s
namespace Storage

open Py ApiShim

structure CsiVolume where
  volumeId : String
  volumeContext : List (String × String)
  deriving DecidableEq

/-- A call that leaves the process. -/
inductive ExternalCall
  /-- `datetime.now(UTC)`, as text. -/
  | now
  /-- The time and the random part of the name of an event. -/
  | eventSuffix
  /-- `path.resolve().is_relative_to(root.resolve())`. -/
  | withinRoot (root path : String)
  | pathExists (path : String)
  | isDir (path : String)
  | isFileOrSymlink (path : String)
  /-- `path.mkdir(parents=True, exist_ok=True)`, refused with an exception. -/
  | mkdir (path : String)
  /-- Open the file and truncate it. -/
  | truncate (path : String) (bytes : Nat)
  /-- Empty a directory, creating it where needed. -/
  | clearDir (path : String)
  /-- Copy the contents of a directory. -/
  | copyTree (source target : String)
  /-- Remove a file, or a directory with everything below it. -/
  | remove (path : String)
  | createVolume (driver name : String) (capacity : Option Nat)
  | deleteVolume (driver handle : String)
  | controllerPublish (driver handle node : String)
  | controllerUnpublish (driver handle node : String)
  deriving DecidableEq

namespace ExternalCall

/-- What a call answers.  For calls that can be refused, `false` is the
refusal; an RPC is refused with the name of its status code. -/
def Reply : ExternalCall → Type
  | .now => String
  | .eventSuffix => String
  | .withinRoot _ _ | .pathExists _ | .isDir _ | .isFileOrSymlink _ => Bool
  | .mkdir _ | .truncate _ _ | .clearDir _ | .copyTree _ _ => Bool
  | .remove _ => Unit
  | .createVolume _ _ _ => Except String (Option CsiVolume)
  | .deleteVolume _ _ => Unit
  | .controllerPublish _ _ _ => Except String (List (String × String))
  | .controllerUnpublish _ _ _ => Unit

end ExternalCall

/-- One operation of the controller. -/
inductive StorageOp
  | store (operation : StoreOp)
  | call (request : ExternalCall)

/-- What an operation returns. -/
def StorageOp.Reply : StorageOp → Type
  | .store operation => operation.Reply
  | .call request => request.Reply

abbrev StorageProgram := Program StorageOp StorageOp.Reply

/-- The store, and the calls that have left the process, the latest first. -/
structure World where
  store : ObjectStore
  calls : List ExternalCall

/-- How the outside answers, given the calls before. -/
def Outside := List ExternalCall → (request : ExternalCall) → request.Reply

/-- An outside in which the file system does what it is asked and no driver
answers. -/
def plainOutside : Outside
  | _, .now => "2024-01-01T00:00:00Z"
  | _, .eventSuffix => "1704067200.0a1b2c"
  | _, .withinRoot _ _ | _, .pathExists _ | _, .isDir _ => true
  | _, .isFileOrSymlink _ => false
  | _, .mkdir _ | _, .truncate _ _ | _, .clearDir _ | _, .copyTree _ _ => true
  | _, .remove _ => ()
  | _, .createVolume _ _ _ => .error "UNAVAILABLE"
  | _, .deleteVolume _ _ => ()
  | _, .controllerPublish _ _ _ => .error "UNAVAILABLE"
  | _, .controllerUnpublish _ _ _ => ()

def StorageOp.execute (outside : Outside) :
    (operation : StorageOp) → World → operation.Reply × World
  | .store operation, world =>
      let (reply, written) := operation.execute world.store
      (reply, { world with store := written })
  | .call request, world =>
      (outside world.calls request,
        { world with calls := request :: world.calls })

@[simp] theorem execute_store_store
    (outside : Outside) (operation : StoreOp) (world : World) :
    (StorageOp.execute outside (.store operation) world).2.store =
      (operation.execute world.store).2 := rfl

@[simp] theorem execute_store_calls
    (outside : Outside) (operation : StoreOp) (world : World) :
    (StorageOp.execute outside (.store operation) world).2.calls =
      world.calls := rfl

@[simp] theorem execute_store_reply
    (outside : Outside) (operation : StoreOp) (world : World) :
    (StorageOp.execute outside (.store operation) world).1 =
      (operation.execute world.store).1 := rfl

@[simp] theorem execute_call_store
    (outside : Outside) (request : ExternalCall) (world : World) :
    (StorageOp.execute outside (.call request) world).2.store =
      world.store := rfl

/-! ## Operations by name -/

def perform (operation : StorageOp) : StorageProgram operation.Reply :=
  Program.ask operation

def call (request : ExternalCall) : StorageProgram request.Reply :=
  perform (.call request)

def storeGet (gvr : Gvr) (ns : Option String) (name : String) :
    StorageProgram (Option K8sObject) :=
  perform (.store (.get gvr ns name))

/-- `store.get` with a name taken from an object: a container is refused by the
database driver. -/
def storeGetNamed (gvr : Gvr) (ns : Option String) (name : Json) :
    StorageProgram (Option K8sObject) :=
  match name.sqlText with
  | none => .raise
  | some none => .done none
  | some (some text) => storeGet gvr ns text

def storeListAll (gvr : Gvr) : StorageProgram (List K8sObject) :=
  perform (.store (.listAll gvr))

def storeUpsert
    (basis : Option K8sObject) (gvr : Gvr) (ns : Option String) (name : String)
    (metadata spec status : Json) : StorageProgram K8sObject :=
  perform (.store (.upsert basis gvr ns name metadata spec status))

def storeDelete (gvr : Gvr) (ns : Option String) (name : String) : StorageProgram Bool :=
  perform (.store (.delete gvr ns name))

/-- Write a volume back with new metadata, spec and status. -/
def writePv (pv : K8sObject) (metadata spec status : Json) :
    StorageProgram Unit := do
  let _ ← storeUpsert (some pv) pvResource none pv.name metadata spec status

/-- Write a claim back with new metadata, spec and status. -/
def writePvc (pvc : K8sObject) (metadata spec status : Json) :
    StorageProgram Unit := do
  let _ ← storeUpsert (some pvc) pvcResource pvc.ns pvc.name metadata spec status

/-! ## Events -/

def recordPvcEvent (pvc : K8sObject) (reason message : String) : StorageProgram Unit :=
  if pvc.ns.getD "" = "" ∨ pvc.name = "" then .done ()
  else do
    let ts : String ← call .now
    let suffix : String ← call .eventSuffix
    let uid ← .ofOption (pvc.metadata.lookup "uid")
    let name := pvc.name ++ "." ++ suffix
    let involved : Dict :=
      [("kind", .str "PersistentVolumeClaim"), ("name", .str pvc.name),
        ("namespace", .str (pvc.ns.getD ""))] ++
        (if uid.truthy then [("uid", uid)] else [])
    let spec : Dict :=
      [("involvedObject", .dict involved), ("reason", .str reason),
        ("message", .str message), ("type", .str "Warning"),
        ("firstTimestamp", .str ts), ("lastTimestamp", .str ts),
        ("eventTime", .str ts), ("count", .int 1),
        ("source", .dict [("component", .str "storage-controller")])]
    let _ ← storeUpsert none eventResource pvc.ns name
      (.dict [("name", .str name), ("namespace", .str (pvc.ns.getD ""))])
      (.dict spec) (.dict [])

def giveUp {α : Type} (pvc : K8sObject) (reason message : String) (answer : α) :
    StorageProgram α := do
  recordPvcEvent pvc reason message
  return answer

end Storage
end K1s
