import K1s.NetFs.Manager
import K1s.Lib.Machine

/-!
# Agreement of the recorded mounts with the bindings

`ensure_mount` answers from the record of a mount where there is one, and looks at the
claim only where there is none.  The record is kept under the name of the claim and the
node, and nothing but `release_mount` takes it away.

The main result says, for every history of changes to the objects and of calls, exactly
when every call answers with a mount of the volume that the claim is bound to, and raises
where the claim, its volume or the mounts on other nodes do not allow one.
-/

namespace K1s
namespace NetFs

open Py ApiShim Program
open Storage (pvcResource pvResource)

/-! ## Bindings -/

/-- The reference to the volume that the claim is bound to, if there is one. -/
def boundPv (store : ObjectStore) (pvc : PvcRef) : Option PvRef := do
  let object ← store.get pvcResource (some pvc.ns) pvc.name
  let volumeName ← object.spec.lookup "volumeName"
  if volumeName.truthy then
    let name ← volumeName.sqlText.join
    let pv ← store.get pvResource none name
    some (pvRefOf volumeName pv)
  else none

/-- What is asked of a volume before it is mounted: that it has the mode that the caller
wants, and that no other node has the claim if only one pod may. -/
structure Admits (state : NodeState) (request : MountRequest) (pvSpec : Dict) : Prop where
  mode : isBlock pvSpec = request.forDevice
  exclusive : isRwop pvSpec = true →
    rwopConflicts (state.mounts.entries.map Prod.snd) request.pvc request.nodeId = []

/-- The claim is bound to the volume, which exists and may be mounted. -/
structure Mountable (state : NodeState) (request : MountRequest) (pv : PvRef) : Prop where
  bound : boundPv state.store request.pvc = some pv
  admits : ∃ object ∈ state.store.get pvResource none pv.name,
    Admits state request object.spec.entries

instance (state : NodeState) (request : MountRequest) (pvSpec : Dict) :
    Decidable (Admits state request pvSpec) :=
  decidable_of_iff (isBlock pvSpec = request.forDevice ∧ (isRwop pvSpec = true →
      rwopConflicts (state.mounts.entries.map Prod.snd) request.pvc request.nodeId = []))
    ⟨fun ⟨mode, exclusive⟩ => ⟨mode, exclusive⟩, fun admits => ⟨admits.mode, admits.exclusive⟩⟩

instance (state : NodeState) (request : MountRequest) (pv : PvRef) :
    Decidable (Mountable state request pv) :=
  decidable_of_iff (boundPv state.store request.pvc = some pv ∧
      ∃ object ∈ state.store.get pvResource none pv.name, Admits state request object.spec.entries)
    ⟨fun ⟨bound, admits⟩ => ⟨bound, admits⟩, fun mountable => ⟨mountable.bound, mountable.admits⟩⟩

/-! ## Histories -/

/-- What happens to the objects and on the nodes. -/
inductive NodeAction
  /-- Create, change, bind, rebind or delete a claim, or any other object. -/
  | change (operation : StoreOp)
  | ensure (request : MountRequest)
  | release (pvc : PvcRef) (nodeId : String)

/-- The outcome of `ensure_mount`: its answer, `none` if it raises, and the state after. -/
def runEnsure (manager : NetFSManager) (node : Node) (request : MountRequest) :
    NodeState → Option NetFSMount × NodeState :=
  runAlone (NodeOp.execute node) (ensureMount manager request)

def takeAction (manager : NetFSManager) (node : Node) (state : NodeState) :
    NodeAction → NodeState
  | .change operation => { state with store := (operation.execute state.store).2 }
  | .ensure request => (runEnsure manager node request state).2
  | .release pvc nodeId =>
      (runAlone (NodeOp.execute node) (releaseMount manager pvc nodeId) state).2

def nodeStep (manager : NetFSManager) (node : Node) (state : NodeState) (action : NodeAction) :
    Option NodeState :=
  some (takeAction manager node state action)

/-- No mount has been made. -/
def unmounted (store : ObjectStore) : NodeState := ⟨store, .empty, []⟩

/-- A condition on a call of `ensure_mount`, and on no other action. -/
def OnEnsure (condition : NodeState → MountRequest → Prop) (state : NodeState) :
    NodeAction → Prop
  | .ensure request => condition state request
  | _ => True

/-- A condition on the calls of `ensure_mount` in a history. -/
def AtEnsures
    (manager : NetFSManager) (node : Node)
    (condition : NodeState → MountRequest → Prop) : NodeState → List NodeAction → Prop :=
  Machine.Along (nodeStep manager node) (OnEnsure condition)

/-- The call answers, if at all, with a mount of the volume that the claim is bound to, and
raises unless there is such a volume that may be mounted. -/
structure Agrees
    (manager : NetFSManager) (node : Node) (state : NodeState)
    (request : MountRequest) : Prop where
  bound : ∀ mount, (runEnsure manager node request state).1 = some mount →
    boundPv state.store request.pvc = some mount.pv
  refuses : (¬ ∃ pv, Mountable state request pv) → (runEnsure manager node request state).1 = none

/-- Every call in the history agrees with the bindings of its time. -/
def CacheAgrees
    (manager : NetFSManager) (node : Node) (store : ObjectStore)
    (history : List NodeAction) : Prop :=
  AtEnsures manager node (Agrees manager node) (unmounted store) history

/-- The record under the key of the call, if there is one, is of the volume that the claim
is bound to, and this may be mounted. -/
def RecordCurrent (state : NodeState) (request : MountRequest) : Prop :=
  ∀ record ∈ state.mounts.find? (request.pvc.on request.nodeId), Mountable state request record.pv

instance (state : NodeState) (request : MountRequest) : Decidable (RecordCurrent state request) :=
  inferInstanceAs (Decidable (∀ record ∈ state.mounts.find? (request.pvc.on request.nodeId),
    Mountable state request record.pv))

/-! ## Programs that leave the records alone -/

/-- Any operation but one on a record. -/
def Recordless : NodeOp → Prop
  | .upsertMount _ | .deleteMount _ => False
  | _ => True

theorem recordless_call (request : NodeCall) : (call request).Uses Recordless :=
  ⟨trivial, fun _ => trivial⟩

theorem recordless_storeGet (gvr : Gvr) (ns : Option String) (name : String) :
    (storeGet gvr ns name).Uses Recordless :=
  ⟨trivial, fun _ => trivial⟩

variable (pvc : PvcRef) (reason message target : String)

theorem recordless_recordPvcEvent :
    (recordPvcEvent pvc reason message).Uses Recordless := by
  refine .ite trivial (.andThen (recordless_call _) fun _ => ?_)
  exact .andThen (recordless_call _) fun _ => .andThen ⟨trivial, fun _ => trivial⟩ fun _ => trivial

theorem recordless_fail {α : Type} :
    (fail pvc reason message : NodeProgram α).Uses Recordless :=
  .andThen (recordless_recordPvcEvent pvc reason message) fun _ => trivial

theorem recordless_applyFsGroup (gid : Int) :
    (applyFsGroup pvc target gid).Uses Recordless := by
  refine .andThen (recordless_call _) ?_
  rintro (_ | message)
  · trivial
  · exact recordless_recordPvcEvent _ _ _

theorem recordless_applyGivenGroup (request : MountRequest) (target : String) :
    (applyGivenGroup request target).Uses Recordless := by
  unfold applyGivenGroup
  split
  · trivial
  · exact recordless_applyFsGroup _ _ _

theorem recordless_applySelinux
    (options : List (String × String))
    (recursive : Bool) : (applySelinux pvc target options recursive).Uses Recordless := by
  refine .andThen (recordless_call _) fun present => .ite trivial ?_
  refine .andThen (recordless_call _) fun isRoot => .ite (recordless_recordPvcEvent _ _ _) ?_
  refine .andThen (recordless_call _) fun available => .ite (recordless_recordPvcEvent _ _ _) ?_
  refine .andThen (.ite (recordless_call _) trivial) fun directory => .ite trivial ?_
  refine .andThen (recordless_call _) ?_
  rintro (_ | message)
  · trivial
  · exact recordless_recordPvcEvent _ _ _

theorem recordless_applyGivenLabels
    (manager : NetFSManager) (request : MountRequest) (pvSpec : Dict)
    (target : String) : (applyGivenLabels manager request pvSpec target).Uses Recordless := by
  refine .ite trivial (.andThen ?_ fun recursive => recordless_applySelinux _ _ _ _)
  exact .andThen (recordless_call _) fun present =>
    .andThen (.ite (recordless_call _) trivial) fun directory => trivial

theorem recordless_csiAttachRequired (driver : String) :
    (csiAttachRequired driver).Uses Recordless := by
  refine .ite trivial (.andThen (recordless_storeGet _ _ _) ?_)
  rintro (_ | object) <;> trivial

theorem recordless_requireAttached (request : MountRequest) (pv : PvRef) (driver : String) :
    (requireAttached request pv driver).Uses Recordless := by
  refine .andThen (recordless_csiAttachRequired driver) fun attachRequired => .ite trivial ?_
  refine .andThen (.andThen ⟨trivial, fun _ => trivial⟩ fun _ => trivial) fun attachment => ?_
  exact .ite trivial (recordless_fail _ _ _)

theorem recordless_secretPresent (ns name : String) :
    (secretPresent ns name).Uses Recordless := by
  refine .ite trivial (.andThen (recordless_storeGet _ _ _) ?_)
  rintro (_ | secret) <;> trivial

theorem recordless_resolveCsiSecretRef (rawRef : Json) (purpose : String) :
    (resolveCsiSecretRef pvc rawRef purpose).Uses Recordless := by
  unfold resolveCsiSecretRef
  split
  · dsimp only
    generalize strip _ = name
    generalize strip _ = ns
    refine .ite (recordless_fail _ _ _) (.ite (recordless_fail _ _ _) ?_)
    refine .andThen (recordless_secretPresent _ _) fun present => ?_
    exact .ite trivial (recordless_fail _ _ _)
  · trivial

theorem recordless_resolveCsiSecrets (csi : Dict) :
    (resolveCsiSecrets pvc csi).Uses Recordless :=
  .andThen (recordless_resolveCsiSecretRef _ _ _) fun _ => recordless_resolveCsiSecretRef _ _ _

theorem recordless_requireBlockDriver (request : MountRequest) (pv : PvRef) (pvSpec : Dict) :
    (requireBlockDriver request pv pvSpec).Uses Recordless := by
  unfold requireBlockDriver
  split
  · exact .andThen (recordless_requireAttached _ _ _) fun _ => recordless_resolveCsiSecrets _ _
  · trivial

theorem recordless_applyBlockLabels (request : MountRequest) (blockPath : String) :
    (applyBlockLabels request blockPath).Uses Recordless :=
  .ite trivial (recordless_applySelinux _ _ _ _)

theorem recordless_collectMountOptions (pvSpec : Dict) :
    (collectMountOptions pvSpec).Uses Recordless :=
  .andThen (.ite (.andThen (recordless_storeGet _ _ _) fun _ => trivial) trivial) fun _ => trivial

theorem recordless_ensureExportOf (manager : NetFSManager) (pvc : PvcRef) (pv : PvRef) :
    (ensureExportOf manager pvc pv).Uses Recordless := by
  refine .andThen (recordless_storeGet _ _ _) ?_
  rintro (_ | pvObj)
  · trivial
  · change (ensureNfsExportPath manager pvc pvObj).Uses Recordless
    unfold ensureNfsExportPath
    split
    · trivial
    · refine .ite trivial (.andThen (recordless_call _) fun within =>
        .ite (recordless_recordPvcEvent _ _ _) (.andThen (recordless_call _) ?_))
      rintro (_ | message)
      · trivial
      · exact recordless_recordPvcEvent _ _ _

theorem recordless_makeDirectory : (makeDirectory target).Uses Recordless :=
  .andThen (recordless_call _) fun _ => .ite trivial trivial

theorem recordless_mountExport
    (source target : String)
    (options : List String) : (mountExport pvc source target options).Uses Recordless := by
  refine .andThen (recordless_call _) ?_
  rintro (_ | ⟨currentSource, fstype⟩)
  · refine .andThen (recordless_call _) ?_
    rintro (_ | message)
    · refine .andThen (recordless_call _) ?_
      rintro (_ | message)
      · trivial
      · exact recordless_fail _ _ _
    · exact recordless_fail _ _ _
  · exact .ite (recordless_fail _ _ _) (.ite (recordless_fail _ _ _) trivial)

theorem recordless_maybeResizeFilesystem
    (manager : NetFSManager) (pvc : PvcRef)
    (target : String) : (maybeResizeFilesystem manager pvc target).Uses Recordless := by
  refine .ite trivial (.andThen (recordless_call _) fun info => ?_)
  split
  · trivial
  · refine .andThen (recordless_call _) fun available =>
      .ite (recordless_recordPvcEvent _ _ _) (.andThen (recordless_call _) ?_)
    rintro (_ | message)
    · exact recordless_recordPvcEvent _ _ _
    · exact recordless_recordPvcEvent _ _ _

theorem recordless_publishVolume
    (driver handle stagePath target : String) (flags : List String) (readOnly : Bool) :
    (publishVolume pvc driver handle stagePath target flags readOnly).Uses Recordless := by
  refine .andThen (recordless_call _) fun stageFailed => ?_
  split
  · exact recordless_fail _ _ _
  · refine .andThen (recordless_call _) ?_
    rintro (_ | code)
    · exact .andThen (recordless_call _) fun _ => trivial
    · exact recordless_fail _ _ _

/-! ## Where there is a record -/

theorem neverRaises_call (request : NodeCall) : (call request).NeverRaises := fun _ => trivial

theorem neverRaises_recordPvcEvent : (recordPvcEvent pvc reason message).NeverRaises := by
  refine .ite trivial (.andThen (neverRaises_call _) fun _ => ?_)
  exact .andThen (neverRaises_call _) fun _ => .andThen (fun _ => trivial) fun _ => trivial

theorem neverRaises_applyGivenGroup (request : MountRequest) (target : String) :
    (applyGivenGroup request target).NeverRaises := by
  unfold applyGivenGroup
  split
  · trivial
  · refine .andThen (neverRaises_call _) ?_
    rintro (_ | message)
    · trivial
    · exact neverRaises_recordPvcEvent _ _ _

theorem neverRaises_applySelinux
    (options : List (String × String))
    (recursive : Bool) : (applySelinux pvc target options recursive).NeverRaises := by
  refine .andThen (neverRaises_call _) fun present => .ite trivial ?_
  refine .andThen (neverRaises_call _) fun isRoot => .ite (neverRaises_recordPvcEvent _ _ _) ?_
  refine .andThen (neverRaises_call _) fun available => .ite (neverRaises_recordPvcEvent _ _ _) ?_
  refine .andThen (.ite (neverRaises_call _) trivial) fun directory => .ite trivial ?_
  refine .andThen (neverRaises_call _) ?_
  rintro (_ | message)
  · trivial
  · exact neverRaises_recordPvcEvent _ _ _

theorem neverRaises_applyGivenLabels
    (manager : NetFSManager) (request : MountRequest) (pvSpec : Dict)
    (target : String) : (applyGivenLabels manager request pvSpec target).NeverRaises := by
  refine .ite trivial (.andThen ?_ fun recursive => neverRaises_applySelinux _ _ _ _)
  exact .andThen (neverRaises_call _) fun present =>
    .andThen (.ite (neverRaises_call _) trivial) fun directory => trivial

theorem neverRaises_reuseMount
    (manager : NetFSManager) (request : MountRequest)
    (existing : NetFSMount) : (reuseMount manager request existing).NeverRaises := by
  refine .andThen (neverRaises_applyGivenGroup _ _) fun _ => .andThen ?_ fun _ => trivial
  refine .ite trivial (.andThen (fun _ => trivial) fun pvObj => ?_)
  exact neverRaises_applyGivenLabels _ _ _ _

section Runs

variable {manager : NetFSManager} {node : Node} {request : MountRequest}
  {start state : NodeState}

/-- The record is given back, whatever the claim has become. -/
theorem reuseMount_eq_some (existing : NetFSMount) :
    (runAlone (NodeOp.execute node) (reuseMount manager request existing) state).1 =
      some existing := by
  obtain ⟨mount, after, ran⟩ :=
    (neverRaises_reuseMount manager request existing).exists_runAlone (NodeOp.execute node) state
  have same : mount = existing := by
    have ends : (reuseMount manager request existing).Ends (NodeOp.execute node)
        (fun answer _ => answer = existing) state :=
      Checked.andThen (Ends.of_forall fun _ _ => trivial) fun _ _ (_ : True) =>
        Checked.andThen (Ends.of_forall fun _ _ => trivial) fun _ _ (_ : True) => rfl
    exact ends.post_of_runAlone ran
  rw [ran, same]

theorem ensureMount_eq :
    ensureMount manager request = .perform (.getMount (request.pvc.on request.nodeId))
      fun found => found.elim (mountBound manager request) (reuseMount manager request) := by
  refine congrArg (Program.perform _) (funext fun found => ?_)
  cases found <;> rfl

theorem runEnsure_of_record
    {existing : NetFSMount}
    (recorded : state.mounts.find? (request.pvc.on request.nodeId) = some existing) :
    runEnsure manager node request state =
      runAlone (NodeOp.execute node) (reuseMount manager request existing) state := by
  rw [runEnsure, ensureMount_eq]
  change runAlone (NodeOp.execute node) ((state.mounts.find? _).elim _ _) state = _
  rw [recorded, Option.elim_some]

theorem runEnsure_of_no_record
    (unrecorded : state.mounts.find? (request.pvc.on request.nodeId) = none) :
    runEnsure manager node request state =
      runAlone (NodeOp.execute node) (mountBound manager request) state := by
  rw [runEnsure, ensureMount_eq]
  change runAlone (NodeOp.execute node) ((state.mounts.find? _).elim _ _) state = _
  rw [unrecorded, Option.elim_none]

/-! ## Where there is none -/

/-- The record is one that the call may make. -/
structure Fits (start : NodeState) (request : MountRequest) (mount : NetFSMount) : Prop where
  key : mount.key = request.pvc.on request.nodeId
  mountable : Mountable start request mount.pv

/-- The only records that are written are such records, and none is taken away. -/
def WritesFit (start : NodeState) (request : MountRequest) : NodeState → NodeOp → Prop
  | _, .upsertMount mount => Fits start request mount
  | _, .deleteMount _ => False
  | _, _ => True

theorem checked_recordless
    {α β : Type} {program : NodeProgram α} {next : α → NodeProgram β}
    {post : β → NodeState → Prop} (uses : program.Uses Recordless)
    (continued : ∀ value reached,
      (next value).Checked (NodeOp.execute node) (WritesFit start request) post reached) :
    (program.andThen next).Checked (NodeOp.execute node) (WritesFit start request) post state := by
  have meets : ∀ operation, Recordless operation → ∀ reached, True →
      WritesFit start request reached operation ∧ True := by
    intro operation recordless reached _
    cases operation with
    | upsertMount mount => exact recordless.elim
    | deleteMount key => exact recordless.elim
    | _ => exact ⟨trivial, trivial⟩
  exact (uses.checked meets trivial).andThen fun value reached _ => continued value reached

theorem checked_fail {α : Type} {post : α → NodeState → Prop} :
    (fail pvc reason message).Checked (NodeOp.execute node) (WritesFit start request) post state :=
  checked_recordless (recordless_recordPvcEvent pvc reason message) fun _ _ => trivial

theorem checked_storeGet_andThen
    {α : Type} {gvr : Gvr} {ns : Option String} {name : String}
    {next : Option K8sObject → NodeProgram α} {post : α → NodeState → Prop}
    (continued : ∀ found, state.store.get gvr ns name = found →
      (next found).Checked (NodeOp.execute node) (WritesFit start request) post state) :
    ((storeGet gvr ns name).andThen next).Checked (NodeOp.execute node)
      (WritesFit start request) post state :=
  ⟨trivial, continued _ rfl⟩

/-- The volume that is found is the one that the claim is bound to. -/
theorem checked_getPvForPvc :
    (getPvForPvc pvc).Checked (NodeOp.execute node) (WritesFit start request)
      (fun found reached => reached = state ∧
        ∀ pv, found = some pv → boundPv state.store pvc = some pv) state := by
  refine checked_storeGet_andThen ?_
  rintro (_ | object) claim
  · exact ⟨rfl, fun _ none => nomatch none⟩
  · refine Checked.ofOption_andThen fun volumeName named => .ite ?_ ?_
    · exact fun _ => ⟨rfl, fun _ none => nomatch none⟩
    · intro truthy
      unfold storeGetNamed
      split
      · trivial
      · exact ⟨rfl, fun _ none => nomatch none⟩
      · next text isText =>
          refine checked_storeGet_andThen ?_
          rintro (_ | pvObj) volume
          · exact ⟨rfl, fun _ none => nomatch none⟩
          · refine ⟨rfl, fun pv same => ?_⟩
            obtain rfl := Option.some.inj same
            have truthy : volumeName.truthy = true := by simpa using truthy
            simp [boundPv, claim, named, truthy, isText, volume]

/-- The conflicts are looked for among the records of the state before. -/
theorem checked_enforceRwop (pvSpec : Dict) :
    (enforceRwop request.pvc pvSpec request.nodeId).Checked (NodeOp.execute node)
      (WritesFit start request)
      (fun _ reached => reached = state ∧ (isRwop pvSpec = true →
        rwopConflicts (state.mounts.entries.map Prod.snd) request.pvc request.nodeId = []))
      state := by
  unfold enforceRwop
  split
  · next shared => exact ⟨rfl, fun exclusive => by simp [exclusive] at shared⟩
  · refine ⟨trivial, Checked.ite ?_ ?_⟩
    · exact fun none => ⟨rfl, fun _ => List.isEmpty_iff.mp none⟩
    · exact fun _ => checked_fail _ _ _

theorem checked_finishMount
    {pvSpec : Dict} {mount : NetFSMount} (fits : Fits start request mount) :
    (finishMount manager request pvSpec mount).Checked (NodeOp.execute node)
      (WritesFit start request) (fun made _ => Fits start request made) state := by
  refine checked_recordless (recordless_applyGivenGroup _ _) fun _ _ => ?_
  refine checked_recordless (recordless_applyGivenLabels _ _ _ _) fun _ _ => ?_
  refine checked_recordless (recordless_maybeResizeFilesystem _ _ _) fun _ _ => ?_
  exact ⟨fits, fits⟩

theorem checked_ensureNfsMount
    {pv : PvRef} {pvSpec nfs : Dict} (mountable : Mountable start request pv) :
    (ensureNfsMount manager request pv pvSpec nfs).Checked (NodeOp.execute node)
      (WritesFit start request) (fun mount _ => Fits start request mount) state := by
  refine .ite (fun _ => checked_fail _ _ _) fun _ => ?_
  refine checked_recordless (recordless_ensureExportOf _ _ _) fun _ _ => ?_
  refine checked_recordless (recordless_makeDirectory _) fun _ _ => ?_
  refine checked_recordless (recordless_collectMountOptions _) fun options _ => ?_
  refine checked_recordless (recordless_mountExport _ _ _ _) fun _ _ => ?_
  exact checked_finishMount ⟨rfl, mountable⟩

theorem checked_ensureCsiMount
    {pv : PvRef} {pvSpec csi : Dict} (mountable : Mountable start request pv) :
    (ensureCsiMount manager request pv pvSpec csi).Checked (NodeOp.execute node)
      (WritesFit start request) (fun mount _ => Fits start request mount) state := by
  unfold ensureCsiMount
  generalize ((Dict.get csi "driver").or (.str "")).toStr = driver
  generalize ((Dict.get csi "volumeHandle").or (.str "")).toStr = handle
  refine .ite (fun _ => checked_fail _ _ _) fun _ => ?_
  refine checked_recordless (recordless_requireAttached _ _ _) fun _ _ => ?_
  refine checked_recordless (recordless_resolveCsiSecrets _ _) fun _ _ => ?_
  refine checked_recordless (recordless_makeDirectory _) fun _ _ => ?_
  refine checked_recordless (recordless_makeDirectory _) fun _ _ => ?_
  refine checked_recordless
    (.andThen (recordless_collectMountOptions _) fun _ => trivial) fun flags _ => ?_
  dsimp only
  split
  · exact checked_fail _ _ _
  · refine checked_recordless (recordless_publishVolume _ _ _ _ _ _ _) fun _ _ => ?_
    exact checked_finishMount ⟨rfl, mountable⟩

theorem checked_ensureBlockMount
    {pv : PvRef} {object : K8sObject} (bound : boundPv state.store request.pvc = some pv)
    (present : state.store.get pvResource none pv.name = some object)
    (mode : isBlock object.spec.entries = request.forDevice) :
    (ensureBlockMount request pv object.spec.entries).Checked (NodeOp.execute node)
      (WritesFit state request) (fun mount _ => Fits state request mount) state := by
  refine (checked_enforceRwop _).andThen ?_
  rintro _ reached ⟨rfl, exclusive⟩
  have mountable : Mountable reached request pv := ⟨bound, object, present, mode, exclusive⟩
  refine checked_recordless (recordless_requireBlockDriver _ _ _) fun _ _ => ?_
  split
  · exact checked_fail _ _ _
  · next blockPath found =>
      refine checked_recordless (recordless_call _) fun there _ =>
        .ite (fun _ => checked_fail _ _ _) fun _ => ?_
      refine checked_recordless (recordless_call _) fun usable _ =>
        .ite (fun _ => checked_fail _ _ _) fun _ => ?_
      refine checked_recordless (recordless_applyGivenGroup _ _) fun _ _ => ?_
      refine checked_recordless (recordless_applyBlockLabels _ _) fun _ _ => ?_
      have fits : ∀ readOnly,
          Fits reached request ⟨request.pvc, pv, request.nodeId, blockPath, readOnly⟩ :=
        fun readOnly => ⟨rfl, mountable⟩
      exact ⟨fits _, fits _⟩

/-- A mount is made only of a volume that the claim is bound to and that may be mounted. -/
theorem checked_mountBound :
    (mountBound manager request).Checked (NodeOp.execute node) (WritesFit state request)
      (fun mount _ => Fits state request mount) state := by
  refine (checked_getPvForPvc request.pvc).andThen ?_
  rintro (_ | pv) reached ⟨rfl, bound⟩
  · exact checked_fail _ _ _
  · have bound := bound pv rfl
    refine checked_storeGet_andThen ?_
    rintro (_ | object) volume
    · exact checked_fail _ _ _
    · refine .ite (fun block => .ite (fun _ => checked_fail _ _ _) fun forDevice => ?_)
        fun filesystem => .ite (fun _ => checked_fail _ _ _) fun forMount => ?_
      · exact checked_ensureBlockMount bound volume (by simp_all [objSpec])
      · have mode : isBlock object.spec.entries = request.forDevice := by simp_all [objSpec]
        refine (checked_enforceRwop _).andThen ?_
        rintro _ reached ⟨rfl, exclusive⟩
        have mountable : Mountable reached request pv := ⟨bound, object, volume, mode, exclusive⟩
        split
        · exact checked_ensureNfsMount mountable
        · exact checked_ensureCsiMount mountable
        · exact checked_fail _ _ _

/-! ## Calls -/

/-- A call agrees with the binding exactly if the record that it finds, if any, does. -/
theorem agrees_iff_recordCurrent :
    Agrees manager node state request ↔ RecordCurrent state request := by
  constructor
  · intro agrees record recorded
    have answer : (runEnsure manager node request state).1 = some record := by
      rw [runEnsure_of_record recorded]
      exact reuseMount_eq_some record
    have bound := agrees.bound record answer
    obtain ⟨pv, mountable⟩ : ∃ pv, Mountable state request pv := by
      by_contra none
      exact nomatch answer.symm.trans (agrees.refuses none)
    have same : record.pv = pv := Option.some.inj (bound.symm.trans mountable.bound)
    exact same ▸ mountable
  · intro current
    have mountable : ∀ mount, (runEnsure manager node request state).1 = some mount →
        Mountable state request mount.pv := by
      intro mount answer
      cases recorded : state.mounts.find? (request.pvc.on request.nodeId) with
      | some record =>
          rw [runEnsure_of_record recorded, reuseMount_eq_some] at answer
          obtain rfl := Option.some.inj answer
          exact current record recorded
      | none =>
          rw [runEnsure_of_no_record recorded] at answer
          exact (checked_mountBound.post_of_runAlone (Prod.ext answer rfl)).mountable
    refine ⟨fun mount answer => (mountable mount answer).bound, fun none => ?_⟩
    by_contra answered
    obtain ⟨mount, answer⟩ := Option.ne_none_iff_exists'.mp answered
    exact none ⟨mount.pv, mountable mount answer⟩

end Runs

/-! ## Histories of changes and calls -/

/-- Every call in a history agrees with the bindings of its time exactly if every record
that is found is of the volume that the claim is then bound to, and this volume may then
be mounted. -/
theorem cacheAgrees_iff
    (manager : NetFSManager) (node : Node) (store : ObjectStore) (history : List NodeAction) :
    CacheAgrees manager node store history ↔
      AtEnsures manager node RecordCurrent (unmounted store) history := by
  have same : ∀ state action, True →
      (OnEnsure (Agrees manager node) state action ↔ OnEnsure RecordCurrent state action) := by
    intro state action _
    cases action with
    | ensure request => exact agrees_iff_recordCurrent
    | change operation => exact Iff.rfl
    | release pvc nodeId => exact Iff.rfl
  exact Machine.along_iff_of_invariant (fun _ _ _ _ _ => trivial) same trivial history

def nfsSpec (path : String) : Json :=
  .dict [("accessModes", .list [.str "ReadWriteOnce"]),
    ("nfs", .dict [("server", .str "10.0.0.5"), ("path", .str path)])]

def bindClaim (uid volumeName : String) : StoreOp :=
  .upsert none pvcResource (some "default") "data"
    (.dict [("name", .str "data"), ("namespace", .str "default"), ("uid", .str uid)])
    (.dict [("volumeName", .str volumeName)]) (.dict [("phase", .str "Bound")])

def twoVolumes : ObjectStore :=
  ((ObjectStore.empty.upsert pvResource none "pv1"
    (.dict [("name", .str "pv1"), ("uid", .str "pv-uid-1")]) (nfsSpec "/one")
    (.dict [])).2.upsert pvResource none "pv2"
    (.dict [("name", .str "pv2"), ("uid", .str "pv-uid-2")]) (nfsSpec "/two") (.dict [])).2

/-- A claim is mounted, deleted, and created again with the other volume. -/
def recreatedClaim : List NodeAction :=
  [.change (bindClaim "uid-1" "pv1"),
    .ensure { pvc := ⟨"data", "default", some "uid-1"⟩, nodeId := "node-1" },
    .change (.delete pvcResource (some "default") "data"),
    .change (bindClaim "uid-2" "pv2"),
    .ensure { pvc := ⟨"data", "default", some "uid-2"⟩, nodeId := "node-1" }]

/-- The new claim is given the mount of the old one. -/
theorem not_cacheAgrees_recreatedClaim :
    ¬ CacheAgrees plainManager plainNode twoVolumes recreatedClaim := by
  intro agrees
  have last := ((((agrees.2 _ rfl).2 _ rfl).2 _ rfl).2 _ rfl).1
  exact absurd (agrees_iff_recordCurrent.mp last) (by decide +kernel)

end NetFs
end K1s
