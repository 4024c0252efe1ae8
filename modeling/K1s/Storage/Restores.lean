import K1s.Storage.Suitability

/-!
# Volumes that are filled from a source

A claim may give a source for its data, a snapshot or another claim.  The source is looked
at when a volume is made for the claim, and only by the provisioners that have a directory
to copy to.  A volume that the claim names, that matches it, or that has the name of its
uid is taken as it is.

The main result says exactly when every volume that a claim with a source is bound to was
made for it and filled from the source.
-/

namespace K1s
namespace Storage

open Py ApiShim Program

/-! ## Sources -/

def GivesSource (pvc : K8sObject) : Prop :=
  pvc.spec.item "dataSource" ≠ .null ∨ pvc.spec.item "dataSourceRef" ≠ .null

/-- The source that the controller looks at. -/
def givenSource (pvc : K8sObject) : Json :=
  let spec := pvc.spec.or (.dict [])
  if (spec.item "dataSource").isDict then spec.item "dataSource" else spec.item "dataSourceRef"

def sourceKind (source : Dict) : String := ((Dict.get source "kind").or (.str "")).toStr
def sourceGroup (source : Dict) : String := ((Dict.get source "apiGroup").or (.str "")).toStr
def sourceName (source : Dict) : String := ((Dict.get source "name").or (.str "")).toStr

/-- The namespace of a source, that of the claim unless the source gives one. -/
def sourceNs (pvc : K8sObject) (source : Dict) : String :=
  ((Dict.get source "namespace").or (.str (pvc.ns.getD ""))).toStr

def SupportedKind (source : Dict) : Prop :=
  sourceKind source = "PersistentVolumeClaim" ∨ sourceKind source = "VolumeSnapshot" ∧
    (sourceGroup source = "" ∨ sourceGroup source = "snapshot.storage.k8s.io")

/-- The claim gives a source of one of these kinds. -/
def SupportedSource (pvc : K8sObject) : Prop :=
  ∃ source, givenSource pvc = .dict source ∧ SupportedKind source

/-- The object without namespace that another object names. -/
def namedObject (store : ObjectStore) (gvr : Gvr) (name : Json) : Option K8sObject :=
  name.sqlText.join.bind (store.get gvr none)

/-- Where the data of a source lies: in the directory of the volume that the source claim is
bound to, or of the content of a snapshot that is ready. -/
inductive LiesAt
    (controller : StorageController) (store : ObjectStore) (pvc : K8sObject)
    (source : Dict) : SourceInfo → Prop
  | claim {srcPvc srcPv : K8sObject} {root path : Json} :
      sourceKind source = "PersistentVolumeClaim" →
      store.get pvcResource (some (sourceNs pvc source)) (sourceName source) = some srcPvc →
      hasBoundPhase srcPvc = true →
      namedObject store pvResource (srcPvc.spec.item "volumeName") = some srcPv →
      backingAnnotations srcPv = some (root, path) →
      LiesAt controller store pvc source ⟨false, sourceNs pvc source ++ "/" ++ sourceName source,
          controller.expanduser root.toStr, controller.expanduser path.toStr⟩
  | snapshot {snapshot content : K8sObject} {entries : Dict} :
      sourceKind source = "VolumeSnapshot" →
      store.get snapshotResource (some (sourceNs pvc source)) (sourceName source) = some snapshot →
      (snapshot.status.item "readyToUse").truthy = true →
      namedObject store snapContentResource
        (snapshot.status.item "boundVolumeSnapshotContentName") = some content →
      annotations content = some entries →
      LiesAt controller store pvc source ⟨true, sourceNs pvc source ++ "/" ++ sourceName source,
          controller.expanduser (Dict.get entries snapHostRootKey).toStr,
          controller.expanduser (Dict.get entries snapHostPathKey).toStr⟩

/-! ## Copies -/

/-- The copies of directories that have been made, the latest first. -/
def copies (outside : Outside) : List ExternalCall → List (String × String)
  | [] => []
  | .copyTree source target :: earlier =>
      let copied : Bool := outside earlier (.copyTree source target)
      if copied then (source, target) :: copies outside earlier else copies outside earlier
  | _ :: earlier => copies outside earlier

/-- The directory of a volume, as its annotations have it. -/
def BackedBy (pv : K8sObject) (path : String) : Prop :=
  ∃ entries, annotations pv = some entries ∧
    (Dict.get entries nfsHostPathKey = .str path ∨ Dict.get entries localHostPathKey = .str path)

/-- The volume was made between two states, and the data of a source copied to its
directory. -/
structure Filled
    (outside : Outside) (before after : World) (pv : K8sObject)
    (info : SourceInfo) : Prop where
  made : before.store.row? pv.key = none
  copied : ∃ target, copies outside after.calls =
    (info.hostPath, target) :: copies outside before.calls ∧ BackedBy pv target

/-! ## Binding -/

/-- `_reconcile_pvc` binds the claim to a volume, and the state in which it does. -/
inductive Binds
    (controller : StorageController) (outside : Outside) (pvc : K8sObject)
    (world : World) : K8sObject → World → Prop
  | named {volumeName : Json} {pv : K8sObject} :
      pvc.spec.lookup "volumeName" = some volumeName → volumeName.truthy = true →
      namedObject world.store pvResource volumeName = some pv →
      releasedOrFailed pv = some none → pvClaimRefConflicts pv pvc = some false →
      Bindable controller pvc pv → Binds controller outside pvc world pv world
  | found {pv : K8sObject} {after : World} :
      ReachesMatching controller outside pvc world →
      runAlone (StorageOp.execute outside) (matchOrProvision controller pvc) world =
        (some (some pv), after) →
      Bindable controller pvc pv → Binds controller outside pvc world pv after

/-- Every volume that the claim is bound to was filled before, or is made and filled from
the source that the claim gives. -/
def RestoresBeforeBind
    (controller : StorageController) (outside : Outside) (filledBefore : K8sObject → Prop)
    (pvc : K8sObject)
    (world : World) : Prop :=
  GivesSource pvc → ∀ pv after, Binds controller outside pvc world pv after →
    filledBefore pv ∨ ∃ source info, givenSource pvc = .dict source ∧
      LiesAt controller world.store pvc source info ∧ Filled outside world after pv info

/-! ## When it does -/

def provisionerOf (sc : K8sObject) : String :=
  ((sc.spec.item "provisioner").or (.str "")).toStr

/-- An NFS class without a directory on the host. -/
def LacksHostPath (controller : StorageController) (sc : K8sObject) : Prop :=
  provisionerOf sc = nfsProvisioner ∧
    (orEnvironment controller (Dict.get (classParameters sc) "hostPath")
      "AE_STORAGE_NFS_HOSTPATH").truthy = false

/-- No volume is there for the claim, its source is of a supported kind, and its class has a
directory to copy to. -/
structure MadeFromSource
    (controller : StorageController) (pvc : K8sObject)
    (store : ObjectStore) : Prop where
  unnamed : ∃ volumeName, pvc.spec.lookup "volumeName" = some volumeName ∧
    volumeName.truthy = false
  unmatched : ∀ pv ∈ store.listAll pvResource, pvClaimRefMatches pv pvc ≠ some true ∧
    isAvailableFor controller pvc pv ≠ some true
  fresh : ∀ uid, pvcUid pvc = some uid → store.get pvResource none ("pvc-" ++ uid) = none
  supported : SupportedSource pvc
  hostPath : ∀ scName sc, pvcStorageClass controller pvc = some (some scName) →
    store.get scResource none scName = some sc → ¬ LacksHostPath controller sc

/-- A claim with a source is bound, if at all, to a volume that was filled before or where
one has to be made from the source. -/
def TakesSource
    (controller : StorageController) (outside : Outside) (filledBefore : K8sObject → Prop)
    (pvc : K8sObject)
    (world : World) : Prop :=
  GivesSource pvc → ∀ pv after, Binds controller outside pvc world pv after →
    filledBefore pv ∨ MadeFromSource controller pvc world.store

/-! ## Programs that copy nothing -/

/-- Any operation but a copy. -/
def Copyless : StorageOp → Prop
  | .call (.copyTree _ _) => False
  | _ => True

section Steps

variable {controller : StorageController} {outside : Outside} {pvc sc : K8sObject}
  {world : World}

theorem copies_execute
    {operation : StorageOp} (copyless : Copyless operation) (reached : World) :
    copies outside (operation.execute outside reached).2.calls = copies outside reached.calls := by
  cases operation with
  | store operation => rfl
  | call request =>
      cases request with
      | copyTree source target => exact copyless.elim
      | _ => rfl

variable {target : String}

theorem copies_copyTree
    {calls : List ExternalCall} {source target : String}
    (copied : (outside calls (.copyTree source target) : Bool) = true) :
    copies outside (.copyTree source target :: calls) = (source, target) :: copies outside calls :=
  if_pos copied

variable {α : Type}

theorem ends_copyless {program : StorageProgram α} (uses : program.Uses Copyless) :
    program.Ends (StorageOp.execute outside)
      (fun _ reached => copies outside reached.calls = copies outside world.calls) world :=
  uses.checked (fun _ copyless reached same =>
    ⟨trivial, (copies_execute copyless reached).trans same⟩) rfl

theorem copyless_recordPvcEvent (pvc : K8sObject) (reason message : String) :
    (recordPvcEvent pvc reason message).Uses Copyless := by
  refine .ite trivial (.andThen ⟨trivial, fun _ => trivial⟩ fun _ =>
    .andThen ⟨trivial, fun _ => trivial⟩ fun _ => .andThen (.ofOption _) fun _ => ?_)
  exact .andThen ⟨trivial, fun _ => trivial⟩ fun _ => trivial

theorem ends_giveUp
    {answer : α} {post : α → World → Prop} {reason message : String}
    (holds : ∀ reached, post answer reached) :
    (giveUp pvc reason message answer).Ends (StorageOp.execute outside) post world :=
  Checked.andThen (Ends.of_forall fun _ _ => trivial) fun _ reached (_ : True) => holds reached

variable {gvr : Gvr} {ns : Option String} {name : String}

theorem ends_storeGet_andThen
    {next : Option K8sObject → StorageProgram α} {post : α → World → Prop}
    (continued : ∀ found, world.store.get gvr ns name = found →
      (next found).Ends (StorageOp.execute outside) post world) :
    ((storeGet gvr ns name).andThen next).Ends (StorageOp.execute outside) post world :=
  Ends.ask_andThen (continued _ rfl)

theorem ends_storeGetNamed_andThen
    {name : Json} {next : Option K8sObject → StorageProgram α} {post : α → World → Prop}
    (continued : ∀ found, namedObject world.store gvr name = found →
      (next found).Ends (StorageOp.execute outside) post world) :
    ((storeGetNamed gvr none name).andThen next).Ends (StorageOp.execute outside) post world := by
  have read := continued _ rfl
  unfold storeGetNamed
  unfold namedObject at read
  split
  · trivial
  · next noText =>
      rw [noText] at read
      exact read
  · next text isText =>
      rw [isText] at read
      exact Ends.ask_andThen read

theorem ends_call_andThen
    {request : ExternalCall} {next : request.Reply → StorageProgram α} {post : α → World → Prop}
    (continued : (next (outside world.calls request)).Ends (StorageOp.execute outside) post
      { world with calls := request :: world.calls }) :
    ((call request).andThen next).Ends (StorageOp.execute outside) post world :=
  Ends.ask_andThen continued

/-! ## The source -/

/-- Nothing has been stored or copied between two states. -/
structure Untaken (outside : Outside) (before after : World) : Prop where
  store : after.store = before.store
  copies : K1s.Storage.copies outside after.calls = K1s.Storage.copies outside before.calls

theorem ends_hostBacking (root path : Json) :
    (hostBacking controller root path).Ends (StorageOp.execute outside)
      (fun backing reached => Untaken outside world reached ∧ ∀ hostRoot hostPath,
        backing = some (hostRoot, hostPath) → hostRoot = controller.expanduser root.toStr ∧
            hostPath = controller.expanduser path.toStr) world := by
  unfold hostBacking
  refine Checked.ite (fun _ => ⟨⟨rfl, rfl⟩, nofun⟩) fun _ => ends_call_andThen ⟨⟨rfl, rfl⟩, ?_⟩
  intro hostRoot hostPath given
  split at given
  · obtain ⟨rfl, rfl⟩ := Prod.mk.inj (Option.some.inj given)
    exact ⟨rfl, rfl⟩
  · cases given

theorem ends_pvHostBacking (pv : K8sObject) :
    (pvHostBacking controller pv).Ends (StorageOp.execute outside)
      (fun backing reached => Untaken outside world reached ∧ ∀ hostRoot hostPath,
        backing = some (hostRoot, hostPath) → ∃ root path,
          backingAnnotations pv = some (root, path) ∧ hostRoot = controller.expanduser root.toStr ∧
              hostPath = controller.expanduser path.toStr) world := by
  unfold pvHostBacking
  split
  · exact ⟨⟨rfl, rfl⟩, nofun⟩
  · next root path annotated =>
      exact (ends_hostBacking root path).weaken fun backing reached ⟨untaken, given⟩ =>
        ⟨untaken, fun hostRoot hostPath found =>
          ⟨root, path, annotated, given hostRoot hostPath found⟩⟩

theorem ends_snapshotContentBacking (content : K8sObject) :
    (snapshotContentBacking controller content).Ends (StorageOp.execute outside)
      (fun backing reached => Untaken outside world reached ∧ ∀ hostRoot hostPath,
        backing = some (hostRoot, hostPath) → ∃ entries, annotations content = some entries ∧
          hostRoot = controller.expanduser (Dict.get entries snapHostRootKey).toStr ∧
            hostPath = controller.expanduser (Dict.get entries snapHostPathKey).toStr) world := by
  unfold snapshotContentBacking
  split
  · exact ⟨⟨rfl, rfl⟩, nofun⟩
  · next entries annotated =>
      exact (ends_hostBacking _ _).weaken fun backing reached ⟨untaken, given⟩ =>
        ⟨untaken, fun hostRoot hostPath found =>
          ⟨entries, annotated, given hostRoot hostPath found⟩⟩

/-- What is known of a source when a volume is to be made. -/
def Resolved
    (controller : StorageController) (store : ObjectStore)
    (pvc : K8sObject) : Option SourceInfo → Prop
  | some info => ∃ source, givenSource pvc = .dict source ∧ SupportedKind source ∧
      LiesAt controller store pvc source info
  | none => ¬ SupportedSource pvc

/-- What the search for the source promises: unless it blocks, it has only looked. -/
def Answered
    (controller : StorageController) (outside : Outside) (pvc : K8sObject) (world : World)
    (answer : Option SourceInfo × Bool)
    (reached : World) : Prop :=
  answer.2 = false → Untaken outside world reached ∧ Resolved controller world.store pvc answer.1

theorem ends_blocked (reason message : String) (reached : World) :
    (giveUp pvc reason message ((none : Option SourceInfo), true)).Ends
      (StorageOp.execute outside) (Answered controller outside pvc world) reached :=
  ends_giveUp fun _ blocked => by cases blocked

variable {source : Dict}

theorem ends_cloneSourceForPvc
    (given : givenSource pvc = .dict source)
    (kind : sourceKind source = "PersistentVolumeClaim") :
    (cloneSourceForPvc controller pvc source).Ends (StorageOp.execute outside)
      (Answered controller outside pvc world) world := by
  refine Checked.ite (fun _ => ends_blocked ..) fun _ =>
    Checked.ofOption_andThen fun targetSc _ => Checked.ofOption_andThen fun targetVm _ =>
      Checked.ite (fun _ => ends_blocked ..) fun _ => ends_storeGet_andThen ?_
  rintro (_ | srcPvc) readClaim
  · exact ends_blocked ..
  refine Checked.ofOption_andThen fun phase readPhase =>
    Checked.ite (fun _ => ends_blocked ..) fun isBound =>
      Checked.ofOption_andThen fun srcSc _ => Checked.ite (fun _ => ends_blocked ..) fun _ =>
        Checked.ofOption_andThen fun srcPvName readName =>
          Checked.ite (fun _ => ends_blocked ..) fun _ => ends_storeGetNamed_andThen ?_
  rintro (_ | srcPv) readVolume
  · exact ends_blocked ..
  refine Checked.ofOption_andThen fun srcVm _ => Checked.ite (fun _ => ends_blocked ..) fun _ =>
    Checked.andThen (ends_pvHostBacking srcPv) ?_
  rintro (_ | ⟨hostRoot, hostPath⟩) reached ⟨untaken, backing⟩
  · exact ends_blocked ..
  refine ends_call_andThen (Checked.ite (fun _ => ends_blocked ..) fun _ _ => ?_)
  obtain ⟨root, path, annotated, rfl, rfl⟩ := backing hostRoot hostPath rfl
  refine ⟨⟨untaken.store, untaken.copies⟩, source, given, .inl kind, ?_⟩
  rw [← Json.item_of_lookup readName] at readVolume
  refine .claim kind readClaim ?_ readVolume annotated
  rw [hasBoundPhase, Json.item_of_lookup readPhase]
  exact decide_eq_true (not_not.mp isBound)

theorem ends_snapshotSourceForPvc
    (given : givenSource pvc = .dict source) (kind : sourceKind source = "VolumeSnapshot")
    (group : sourceGroup source = "" ∨ sourceGroup source = "snapshot.storage.k8s.io") :
    (snapshotSourceForPvc controller pvc source).Ends (StorageOp.execute outside)
      (Answered controller outside pvc world) world := by
  refine Checked.ite (fun _ => ends_blocked ..) fun _ => ends_storeGet_andThen ?_
  rintro (_ | snapshot) readSnapshot
  · exact ends_blocked ..
  refine Checked.ofOption_andThen fun ready readReady =>
    Checked.ite (fun _ => ends_blocked ..) fun isReady =>
      Checked.ofOption_andThen fun contentName readName =>
        Checked.ite (fun _ => ends_blocked ..) fun _ => ends_storeGetNamed_andThen ?_
  rintro (_ | content) readContent
  · exact ends_blocked ..
  refine Checked.andThen (ends_snapshotContentBacking content) ?_
  rintro (_ | ⟨hostRoot, hostPath⟩) reached ⟨untaken, backing⟩
  · exact ends_blocked ..
  refine ends_call_andThen (Checked.ite (fun _ => ends_blocked ..) fun _ _ => ?_)
  obtain ⟨entries, annotated, rfl, rfl⟩ := backing hostRoot hostPath rfl
  refine ⟨⟨untaken.store, untaken.copies⟩, source, given, .inr ⟨kind, group⟩, ?_⟩
  rw [← Json.item_of_lookup readName] at readContent
  refine .snapshot kind readSnapshot ?_ readContent annotated
  rw [Json.item_of_lookup readReady]
  simpa using isReady

theorem ends_restoreSourceForPvc :
    (restoreSourceForPvc controller pvc).Ends (StorageOp.execute outside)
      (Answered controller outside pvc world) world := by
  have passedOver : ¬ SupportedSource pvc →
      (Program.done (none, false) : StorageProgram (Option SourceInfo × Bool)).Ends
        (StorageOp.execute outside) (Answered controller outside pvc world) world :=
    fun unsupported _ => ⟨⟨rfl, rfl⟩, unsupported⟩
  have isGiven : (if ((pvc.spec.or (.dict [])).item "dataSource").isDict then
      (pvc.spec.or (.dict [])).item "dataSource"
      else (pvc.spec.or (.dict [])).item "dataSourceRef") = givenSource pvc := rfl
  simp only [restoreSourceForPvc, isGiven]
  cases given : givenSource pvc with
  | dict source =>
      have only : SupportedSource pvc ↔ SupportedKind source := by
        constructor
        · rintro ⟨other, isOther, supported⟩
          obtain rfl := Json.dict.inj (given.symm.trans isOther)
          exact supported
        · exact fun supported => ⟨source, given, supported⟩
      refine Checked.ite (fun kind => Checked.ite (fun _ => ends_blocked ..)
        fun _ => ends_cloneSourceForPvc given kind) fun noClaim => ?_
      refine Checked.ite (fun noSnapshot => passedOver ?_) fun kind =>
        Checked.ite (fun _ => ends_blocked ..) fun _ => ?_
      · rw [only]
        rintro (claim | ⟨snapshot, -⟩)
        · exact noClaim claim
        · exact noSnapshot snapshot
      · refine Checked.ite (fun foreign => passedOver ?_) fun own =>
          ends_snapshotSourceForPvc given (not_not.mp kind) ?_
        · rw [only]
          rintro (claim | ⟨-, group⟩)
          · exact noClaim claim
          · exact not_or.mpr foreign group
        · by_contra foreign
          exact own (not_or.mp foreign)
  | _ =>
      refine passedOver ?_
      rintro ⟨source, isSource, -⟩
      rw [given] at isSource
      cases isSource

/-! ## The volume -/

/-- The volume was made under the name of the claim's uid. -/
def Fresh (pvc : K8sObject) (store : ObjectStore) (pv : K8sObject) : Prop :=
  ∃ uid, pvcUid pvc = some uid ∧ store.get pvResource none ("pvc-" ++ uid) = none ∧
    pv.key = pvResource.key none ("pvc-" ++ uid)

/-- What a provisioner can come to: a volume that was there, one that is empty, or one that
is filled from the source. -/
inductive ProvisionOutcome
    (controller : StorageController) (outside : Outside) (pvc sc : K8sObject)
    (sourceInfo : Option SourceInfo) (world : World) (pv : K8sObject)
    (reached : World) : Prop
  | existing {uid : String} :
      pvcUid pvc = some uid → world.store.get pvResource none ("pvc-" ++ uid) = some pv →
      ProvisionOutcome controller outside pvc sc sourceInfo world pv reached
  | empty :
      Fresh pvc world.store pv → copies outside reached.calls = copies outside world.calls →
      sourceInfo = none ∨ LacksHostPath controller sc →
      ProvisionOutcome controller outside pvc sc sourceInfo world pv reached
  | filled {info : SourceInfo} {target : String} :
      Fresh pvc world.store pv → sourceInfo = some info → ¬ LacksHostPath controller sc →
      copies outside reached.calls = (info.hostPath, target) :: copies outside world.calls →
      BackedBy pv target → ProvisionOutcome controller outside pvc sc sourceInfo world pv reached

/-- The volume that a provisioner answers with, if any, is one of these. -/
def Provided
    (controller : StorageController) (outside : Outside) (pvc sc : K8sObject)
    (sourceInfo : Option SourceInfo) (world : World) (found : Option K8sObject)
    (reached : World) : Prop :=
  ∀ pv, found = some pv → ProvisionOutcome controller outside pvc sc sourceInfo world pv reached

variable {sourceInfo : Option SourceInfo}

theorem provided_none (reached : World) :
    Provided controller outside pvc sc sourceInfo world none reached :=
  fun _ found => nomatch found

theorem ends_existingOr
    {make : String → StorageProgram (Option K8sObject)}
    (makes : ∀ uid, pvcUid pvc = some uid →
      world.store.get pvResource none ("pvc-" ++ uid) = none →
      (make uid).Ends (StorageOp.execute outside)
        (Provided controller outside pvc sc sourceInfo world) world) :
    (existingOr pvc make).Ends (StorageOp.execute outside)
      (Provided controller outside pvc sc sourceInfo world) world := by
  unfold existingOr
  split
  · exact ends_giveUp provided_none
  · exact ends_giveUp provided_none
  · next uid _ hasUid =>
      refine ends_storeGet_andThen ?_
      rintro (_ | existing) read
      · exact makes uid hasUid read
      · refine Checked.ofOption_andThen fun conflicts _ =>
          Checked.ite (fun _ => ends_giveUp provided_none) fun _ => ?_
        intro pv found
        obtain rfl := Option.some.inj found
        exact .existing hasUid read

variable {entries spec : Dict} {uid : String}

theorem ends_createVolume
    {post : Option K8sObject → World → Prop}
    (holds : ∀ pv reached, pv.key = pvResource.key none ("pvc-" ++ uid) →
      annotations pv = some entries → reached.calls = world.calls → post (some pv) reached) :
    (createVolume uid entries spec).Ends (StorageOp.execute outside) post world := by
  refine Ends.ask_andThen (holds _ _ rfl ?_ rfl)
  rfl

variable {before : World}

/-- Where nothing was copied, the volume is empty. -/
theorem ends_createVolume_empty
    (hasUid : pvcUid pvc = some uid)
    (unused : before.store.get pvResource none ("pvc-" ++ uid) = none)
    (same : copies outside world.calls = copies outside before.calls)
    (reason : sourceInfo = none ∨ LacksHostPath controller sc) :
    (createVolume uid entries spec).Ends (StorageOp.execute outside)
      (Provided controller outside pvc sc sourceInfo before) world := by
  refine ends_createVolume fun pv reached key _ calls => ?_
  intro other found
  obtain rfl := Option.some.inj found
  exact .empty ⟨uid, hasUid, unused, key⟩ (by rw [calls, same]) reason

theorem ends_createVolume_filled
    {info : SourceInfo} (hasUid : pvcUid pvc = some uid)
    (unused : before.store.get pvResource none ("pvc-" ++ uid) = none)
    (hasHostPath : ¬ LacksHostPath controller sc)
    (copied : copies outside world.calls = (info.hostPath, target) :: copies outside before.calls)
    (backed : Dict.get entries nfsHostPathKey = .str target ∨
      Dict.get entries localHostPathKey = .str target) :
    (createVolume uid entries spec).Ends (StorageOp.execute outside)
      (Provided controller outside pvc sc (some info) before) world := by
  refine ends_createVolume fun pv reached key annotated calls => ?_
  intro other found
  obtain rfl := Option.some.inj found
  exact .filled ⟨uid, hasUid, unused, key⟩ rfl hasHostPath (by rw [calls, copied])
    ⟨entries, annotated, backed⟩

/-- A restoration that succeeds has copied the source to the directory. -/
theorem ends_restoreInto (targetRoot targetPath : String) (info : SourceInfo) :
    (restoreInto pvc targetRoot targetPath info).Ends (StorageOp.execute outside)
      (fun restored reached => restored = true → copies outside reached.calls =
        (info.hostPath, targetPath) :: copies outside world.calls) world := by
  have failed : ∀ (reason message : String) (reached : World),
      (giveUp pvc reason message false).Ends (StorageOp.execute outside)
        (fun restored reached => restored = true → copies outside reached.calls =
          (info.hostPath, targetPath) :: copies outside world.calls) reached :=
    fun _ _ _ => ends_giveUp fun _ restored => by cases restored
  refine ends_call_andThen (Checked.ite (fun _ => failed ..) fun _ => ends_call_andThen
    (Checked.ite (fun _ => failed ..) fun _ => ends_call_andThen
      (Checked.ite (fun _ => failed ..) fun _ => ?_)))
  refine Checked.andThen (ends_copyless (.ite trivial ⟨trivial, fun _ => trivial⟩)) fun
    directory reached seen => Checked.ite (fun _ => failed ..) fun _ => ?_
  refine Checked.andThen (ends_copyless (.andThen ⟨trivial, fun _ => trivial⟩ fun _ =>
    .ite ⟨trivial, fun _ => trivial⟩ trivial)) fun cleared later prepared =>
      Checked.ite (fun _ => failed ..) fun _ => ends_call_andThen ?_
  refine Checked.ite (fun _ => failed ..) fun copied => ?_
  refine Checked.andThen (ends_copyless (copyless_recordPvcEvent ..)) fun _ last kept _ => ?_
  have succeeded := Bool.eq_true_of_not_eq_false fun refused => copied (congrArg Bool.not refused)
  rw [kept, copies_copyTree succeeded, prepared, seen]
  rfl

/-- The NFS provisioner fills the volume if it has a directory on the host. -/
theorem ends_provisionNfs (isNfs : provisionerOf sc = nfsProvisioner) :
    (provisionNfs controller pvc sc sourceInfo).Ends (StorageOp.execute outside)
      (Provided controller outside pvc sc sourceInfo world) world := by
  refine Checked.ofOption_andThen fun volumeMode _ =>
    Checked.ite (fun _ => ends_giveUp provided_none) fun _ =>
      ends_existingOr fun uid hasUid unused => ?_
  refine Checked.ite (fun _ => ends_giveUp provided_none) fun _ =>
    Checked.ite (fun hasHostPath => ?_) fun lacksHostPath => ?_
  · have notLacking : ¬ LacksHostPath controller sc := by
      rintro ⟨-, lacking⟩
      rw [lacking] at hasHostPath
      cases hasHostPath
    refine Checked.ofOption_andThen fun hostRoot _ => ends_call_andThen
      (Checked.ite (fun _ => ends_giveUp provided_none) fun _ => ends_call_andThen
        (Checked.ite (fun _ => trivial) fun _ => ?_))
    cases sourceInfo with
    | none =>
        exact Checked.ofOption_andThen fun modes _ => Checked.ofOption_andThen fun spec _ =>
          ends_createVolume_empty hasUid unused rfl (.inl rfl)
    | some info =>
        refine Checked.andThen (ends_restoreInto hostRoot _ info) fun restored reached copied =>
          Checked.ite (fun isRestored => ?_) fun _ => provided_none reached
        exact Checked.ofOption_andThen fun modes _ => Checked.ofOption_andThen fun spec _ =>
          ends_createVolume_filled hasUid unused notLacking (copied isRestored) (.inl rfl)
  · have lacking : LacksHostPath controller sc := ⟨isNfs, by simpa using lacksHostPath⟩
    cases sourceInfo with
    | none =>
        exact Checked.ofOption_andThen fun modes _ => Checked.ofOption_andThen fun spec _ =>
          ends_createVolume_empty hasUid unused rfl (.inl rfl)
    | some info =>
        exact Checked.andThen (ends_copyless (copyless_recordPvcEvent ..)) fun _ reached kept =>
          Checked.ofOption_andThen fun modes _ => Checked.ofOption_andThen fun spec _ =>
            ends_createVolume_empty hasUid unused kept (.inr lacking)

theorem copyless_prepareLocalPath (block : Option Nat) (hostPath : String) :
    (prepareLocalPath block hostPath).Uses Copyless := by
  unfold prepareLocalPath
  split
  · refine .andThen ⟨trivial, fun _ => trivial⟩ fun _ => .ite trivial (.andThen ?_ fun _ =>
      .ite trivial (.andThen ⟨trivial, fun _ => trivial⟩ fun _ => trivial))
    exact .andThen ⟨trivial, fun _ => trivial⟩ fun _ => .ite ⟨trivial, fun _ => trivial⟩ trivial
  · exact .andThen ⟨trivial, fun _ => trivial⟩ fun _ => .ite trivial trivial

theorem ends_provisionLocalPath
    {selected : Option String} (isLocal : provisionerOf sc ≠ nfsProvisioner) :
    (provisionLocalPath controller pvc sc selected sourceInfo).Ends (StorageOp.execute outside)
      (Provided controller outside pvc sc sourceInfo world) world := by
  have notLacking : ¬ LacksHostPath controller sc := fun lacking => isLocal lacking.1
  refine Checked.ofOption_andThen fun bindingMode _ =>
    Checked.ite (fun _ => provided_none world) fun _ =>
      Checked.ofOption_andThen fun rawMode _ =>
        Checked.ite (fun _ => ends_giveUp provided_none) fun _ =>
          ends_existingOr fun uid hasUid unused => ?_
  refine Checked.ofOption_andThen fun hostRoot _ => ends_call_andThen
    (Checked.ite (fun _ => ends_giveUp provided_none) fun _ =>
      Checked.andThen (ends_copyless (copyless_prepareLocalPath ..)) ?_)
  rintro (_ | message) reached kept
  · cases sourceInfo with
    | none =>
        exact Checked.ofOption_andThen fun modes _ => Checked.ofOption_andThen fun spec _ =>
          ends_createVolume_empty hasUid unused kept (.inl rfl)
    | some info =>
        refine Checked.ite (fun _ => ends_giveUp provided_none) fun _ =>
          Checked.andThen (ends_restoreInto hostRoot _ info) fun restored later copied =>
            Checked.ite (fun isRestored => ?_) fun _ => provided_none later
        have onlyCopy := (copied isRestored).trans (congrArg _ kept)
        exact Checked.ofOption_andThen fun modes _ => Checked.ofOption_andThen fun spec _ =>
          ends_createVolume_filled hasUid unused notLacking onlyCopy (.inr rfl)
  · exact ends_giveUp provided_none

theorem copyless_csiSecretFromParams (scSpec : Json) (key : String) :
    (csiSecretFromParams scSpec key).Uses Copyless := by
  refine .ite trivial (.andThen (.ite trivial (.andThen ⟨trivial, fun _ => trivial⟩ ?_))
    fun _ => trivial)
  rintro (_ | secret) <;> trivial

theorem copyless_csiVolumeSecrets (scSpec : Json) :
    (csiVolumeSecrets scSpec).Uses Copyless :=
  .andThen (copyless_csiSecretFromParams ..) fun _ =>
    .andThen (copyless_csiSecretFromParams ..) fun _ =>
      .andThen (copyless_csiSecretFromParams ..) fun _ =>
        .ite trivial (.ite trivial (.ite trivial trivial))

/-- A CSI driver makes no volume for a claim with a source. -/
theorem ends_provisionCsi
    {entry : StorageProvisionerConfig} {sourceInfo : Option SourceInfo} :
    (provisionCsi controller pvc sc entry sourceInfo).Ends (StorageOp.execute outside)
      (Provided controller outside pvc sc sourceInfo world) world := by
  cases sourceInfo with
  | some info => exact Checked.ite (fun _ => ends_giveUp provided_none) fun _ => ends_giveUp provided_none
  | none =>
      refine ends_existingOr fun uid hasUid unused => ?_
      refine Checked.ofOption_andThen fun asked _ => Checked.ofOption_andThen fun rawMode _ =>
        Checked.ite (fun _ => ends_giveUp provided_none) fun _ =>
          Checked.ite (fun _ => ends_giveUp provided_none) fun _ =>
            Checked.andThen (ends_copyless (copyless_csiSecretFromParams ..)) ?_
      rintro ⟨provisionerRef, secret⟩ reached kept
      refine Checked.ite (fun _ => ends_giveUp provided_none) fun _ => ends_call_andThen ?_
      split
      · exact Checked.ite (fun _ => ends_giveUp provided_none) fun _ => ends_giveUp provided_none
      · exact ends_giveUp provided_none
      · refine Checked.ite (fun _ => ends_giveUp provided_none) fun _ =>
          Checked.andThen (ends_copyless (copyless_csiVolumeSecrets ..)) ?_
        rintro (key | references) later still
        · exact ends_giveUp provided_none
        · exact Checked.ofOption_andThen fun spec _ =>
            ends_createVolume_empty hasUid unused (still.trans kept) (.inl rfl)

/-! ## Provisioning -/

variable {pv : K8sObject}

theorem ProvisionOutcome.of_untaken
    {middle reached : World} (untaken : Untaken outside world middle)
    (outcome : ProvisionOutcome controller outside pvc sc sourceInfo middle pv reached) :
    ProvisionOutcome controller outside pvc sc sourceInfo world pv reached := by
  cases outcome with
  | existing hasUid read => exact .existing hasUid (untaken.store ▸ read)
  | empty fresh same reason =>
      exact .empty (untaken.store ▸ fresh) (same.trans untaken.copies) reason
  | filled fresh isInfo notLacking copied backed =>
      refine .filled (untaken.store ▸ fresh) isInfo notLacking ?_ backed
      rw [copied, untaken.copies]

/-- What `_maybe_provision` comes to, for the class of the claim and the source found. -/
def Provisioned
    (controller : StorageController) (outside : Outside) (pvc : K8sObject) (world : World)
    (found : Option K8sObject)
    (reached : World) : Prop :=
  ∀ pv, found = some pv → ∃ scName sc sourceInfo,
    pvcStorageClass controller pvc = some (some scName) ∧
    world.store.get scResource none scName = some sc ∧
    Resolved controller world.store pvc sourceInfo ∧
    ProvisionOutcome controller outside pvc sc sourceInfo world pv reached

theorem ends_maybeProvision :
    (maybeProvision controller pvc).Ends (StorageOp.execute outside)
      (Provisioned controller outside pvc world) world := by
  have nothing : ∀ reached, Provisioned controller outside pvc world none reached :=
    fun _ _ found => nomatch found
  refine Checked.ofOption_andThen fun named readClass => ?_
  split
  · exact nothing world
  · exact nothing world
  · next scName _ =>
      refine ends_storeGet_andThen ?_
      rintro (_ | sc) readSc
      · exact nothing world
      refine Checked.andThen ends_restoreSourceForPvc ?_
      rintro ⟨sourceInfo, blocked⟩ middle answered
      refine Checked.ite (fun _ => nothing middle) fun unblocked => ?_
      obtain ⟨untaken, resolved⟩ := answered (Bool.eq_false_of_not_eq_true unblocked)
      have provided : ∀ found reached,
          Provided controller outside pvc sc sourceInfo middle found reached →
            Provisioned controller outside pvc world found reached :=
        fun found reached outcomes pv isFound =>
          ⟨scName, sc, sourceInfo, readClass, readSc, resolved,
            (outcomes pv isFound).of_untaken untaken⟩
      refine Checked.ofOption_andThen fun bindingMode _ =>
        Checked.ite (fun _ => ends_giveUp nothing) fun _ =>
          Checked.ofOption_andThen fun rawProvisioner readProvisioner => ?_
      have isProvisioner : (rawProvisioner.or (.str "")).toStr = provisionerOf sc := by
        rw [provisionerOf, Json.item_of_lookup readProvisioner]
      refine Checked.ite (fun isNfs => ?_) fun notNfs => Checked.ite (fun isLocal => ?_)
        fun notLocal => ?_
      · exact (ends_provisionNfs (isProvisioner.symm.trans isNfs)).weaken provided
      · refine (ends_provisionLocalPath fun isNfs => ?_).weaken provided
        exact notNfs (isProvisioner.trans isNfs)
      · dsimp only
        split
        · exact Checked.ite (fun _ => ends_giveUp nothing) fun _ =>
            ends_provisionCsi.weaken provided
        · exact Checked.ite (fun _ => ends_giveUp nothing) fun _ => nothing middle

/-! ## The bound volume -/

variable {object : K8sObject} {store : ObjectStore}

theorem row?_of_get
    (read : store.get gvr ns name = some object) : store.row? object.key ≠ none := by
  obtain ⟨row, stored, rfl⟩ := Option.map_eq_some_iff.mp read
  rw [key_object, stored]
  exact Option.some_ne_none row

theorem row?_of_mem_listAll
    (member : object ∈ store.listAll gvr) : store.row? object.key ≠ none := by
  obtain ⟨key, row, stored, -, rfl⟩ := (ObjectStore.mem_listAll _ _ _).mp member
  rw [key_object, stored]
  exact Option.some_ne_none row

theorem Fresh.row?_eq_none (fresh : Fresh pvc store pv) : store.row? pv.key = none := by
  obtain ⟨uid, -, unused, key⟩ := fresh
  rw [key]
  exact Option.map_eq_none_iff.mp unused

variable {after : World}

/-- A claim that names no volume is bound to one that matches, or to what
`_maybe_provision` answers. -/
theorem matched_or_provisioned
    (reaches : ReachesMatching controller outside pvc world)
    (ran : runAlone (StorageOp.execute outside) (matchOrProvision controller pvc) world =
      (some (some pv), after)) :
    (pv ∈ world.store.listAll pvResource ∧
        (pvClaimRefMatches pv pvc = some true ∨ isAvailableFor controller pvc pv = some true)) ∨
      (∀ other ∈ world.store.listAll pvResource, pvClaimRefMatches other pvc ≠ some true ∧
        isAvailableFor controller pvc other ≠ some true) ∧
      runAlone (StorageOp.execute outside) (maybeProvision controller pvc) world =
        (some (some pv), after) := by
  have looks : (runAlone (StorageOp.execute outside) (matchPvForPvc controller pvc) world).2 =
    world := runAlone_matchPvForPvc_world reaches.unnamed
  rw [matchOrProvision, bind_eq, runAlone_andThen] at ran
  generalize searched : runAlone (StorageOp.execute outside) (matchPvForPvc controller pvc) world =
    search at looks ran
  obtain ⟨found, reached⟩ := search
  obtain rfl : reached = world := looks
  cases found with
  | none => cases ran
  | some found =>
      cases found with
      | none =>
          refine .inr ⟨?_, ran⟩
          intro other member
          have noneFound : (runAlone (StorageOp.execute outside) (matchPvForPvc controller pvc)
            reached).1 = some none := congrArg Prod.fst searched
          obtain ⟨notPrebound, notAvailable⟩ :=
            runAlone_matchPvForPvc_none reaches.unnamed noneFound other member
          rw [notPrebound, notAvailable]
          exact ⟨nofun, nofun⟩
      | some matching =>
          obtain rfl : matching = pv := by
            simpa using congrArg Prod.fst ran
          rcases (runAlone_matchPvForPvc reaches.unnamed).mp (congrArg Prod.fst searched) with
            ⟨before, later, split, -, named⟩ | ⟨-, before, later, split, -, available⟩
          · exact .inl ⟨by simp [split], .inl named⟩
          · exact .inl ⟨by simp [split], .inr available⟩

/-- A volume that the claim is bound to is filled from its source exactly if none was there
and the source can be copied. -/
theorem filled_iff_madeFromSource (binds : Binds controller outside pvc world pv after) :
    (∃ source info, givenSource pvc = .dict source ∧
        LiesAt controller world.store pvc source info ∧ Filled outside world after pv info) ↔
      MadeFromSource controller pvc world.store := by
  cases binds with
  | named readName truthy isNamed _ _ _ =>
      obtain ⟨text, -, read⟩ := Option.bind_eq_some_iff.mp isNamed
      apply iff_of_false
      · rintro ⟨source, info, -, -, filled⟩
        exact row?_of_get read filled.made
      · intro fromSource
        obtain ⟨volumeName, readOther, falsy⟩ := fromSource.unnamed
        obtain rfl := Option.some.inj (readName.symm.trans readOther)
        rw [truthy] at falsy
        cases falsy
  | found reaches ran _ =>
      rcases matched_or_provisioned reaches ran with ⟨member, fits⟩ | ⟨unmatched, provisioned⟩
      · apply iff_of_false
        · rintro ⟨source, info, -, -, filled⟩
          exact row?_of_mem_listAll member filled.made
        · intro fromSource
          obtain ⟨notPrebound, notAvailable⟩ := fromSource.unmatched pv member
          exact fits.elim notPrebound notAvailable
      · obtain ⟨scName, sc, sourceInfo, isClass, isSc, resolved, outcome⟩ :=
          ends_maybeProvision.post_of_runAlone provisioned pv rfl
        cases outcome with
        | existing hasUid read =>
            apply iff_of_false
            · rintro ⟨source, info, -, -, filled⟩
              exact row?_of_get read filled.made
            · intro fromSource
              rw [fromSource.fresh _ hasUid] at read
              cases read
        | empty fresh same reason =>
            apply iff_of_false
            · rintro ⟨source, info, -, -, filled⟩
              obtain ⟨target, copied, -⟩ := filled.copied
              exact List.cons_ne_self _ _ (copied.symm.trans same)
            · intro fromSource
              rcases reason with rfl | lacking
              · exact resolved fromSource.supported
              · exact fromSource.hostPath scName sc isClass isSc lacking
        | @filled info target fresh isInfo notLacking copied backed =>
            subst isInfo
            obtain ⟨source, given, supported, liesAt⟩ := resolved
            apply iff_of_true
            · exact ⟨source, info, given, liesAt, fresh.row?_eq_none, target, copied, backed⟩
            · refine ⟨reaches.unnamed, unmatched, ?_, ⟨source, given, supported⟩, ?_⟩
              · intro uid hasUid
                obtain ⟨other, hasOther, unused, -⟩ := fresh
                obtain rfl := Option.some.inj (hasUid.symm.trans hasOther)
                exact unused
              · intro otherName other isOtherClass isOther
                obtain rfl := Option.some.inj (Option.some.inj (isClass.symm.trans isOtherClass))
                obtain rfl := Option.some.inj (isSc.symm.trans isOther)
                exact notLacking

end Steps

/-! ## The condition -/

/-- Every volume that a claim with a source is bound to was filled from it, before or now,
exactly if none is there for the claim unless it was filled before, the kind of the source
is supported, and the class has a directory to copy to. -/
theorem restoresBeforeBind_iff
    (controller : StorageController) (outside : Outside) (filledBefore : K8sObject → Prop)
    (pvc : K8sObject) (world : World) :
    RestoresBeforeBind controller outside filledBefore pvc world ↔
      TakesSource controller outside filledBefore pvc world := by
  constructor
  · intro restores gives pv after binds
    exact (restores gives pv after binds).imp_right (filled_iff_madeFromSource binds).mp
  · intro takes gives pv after binds
    exact (takes gives pv after binds).imp_right (filled_iff_madeFromSource binds).mpr

def snapshotController : StorageController := { plainController with enableSnapshots := true }

/-- A claim that asks for the data of a snapshot, in an NFS class. -/
def restoringClaim : K8sObject where
  gvr := pvcResource
  ns := some "default"
  name := "restored"
  metadata := .dict [("name", .str "restored"), ("namespace", .str "default"),
    ("uid", .str "uid-9")]
  spec := .dict [("storageClassName", .str "nfs"), ("dataSource", .dict
    [("apiGroup", .str "snapshot.storage.k8s.io"), ("kind", .str "VolumeSnapshot"),
      ("name", .str "snap")])]
  status := .dict [("phase", .str "Pending")]
  resourceVersion := 4

/-- A snapshot of a directory, and an NFS class without one. -/
def snapshotStore : ObjectStore :=
  let store := ObjectStore.empty
  let store := (store.upsert scResource none "nfs" (.dict [("name", .str "nfs")])
    (.dict [("provisioner", .str nfsProvisioner), ("parameters", .dict
      [("server", .str "10.0.0.1"), ("path", .str "/export")])]) (.dict [])).2
  let store := (store.upsert snapshotResource (some "default") "snap"
    (.dict [("name", .str "snap")]) (.dict []) (.dict [("readyToUse", .bool true),
      ("boundVolumeSnapshotContentName", .str "vsc-pv1")])).2
  (store.upsert snapContentResource none "vsc-pv1" (.dict [("annotations", .dict
    [(snapHostRootKey, .str "/srv"), (snapHostPathKey, .str "/srv/.snapshots/snap")])])
    (.dict []) (.dict [])).2

/-- The claim is bound to an empty volume on the export. -/
theorem not_restoresBeforeBind_nfsWithoutHostPath :
    ¬ RestoresBeforeBind snapshotController plainOutside (fun _ => False) restoringClaim
      ⟨snapshotStore, []⟩ := by
  intro restores
  have provided : ((runAlone (StorageOp.execute plainOutside)
      (matchOrProvision snapshotController restoringClaim) ⟨snapshotStore, []⟩).1.join.map fun pv =>
        (boundClaim snapshotController restoringClaim pv).isSome &&
          (boundVolume restoringClaim pv).isSome) = some true := by decide +kernel
  generalize ran : runAlone (StorageOp.execute plainOutside)
    (matchOrProvision snapshotController restoringClaim) ⟨snapshotStore, []⟩ = run at provided
  obtain ⟨found, after⟩ := run
  obtain ⟨pv, isFound, bindable⟩ := Option.map_eq_some_iff.mp provided
  obtain rfl : found = some (some pv) := Option.join_eq_some_iff.mp isFound
  rw [Bool.and_eq_true] at bindable
  have binds : Binds snapshotController plainOutside restoringClaim ⟨snapshotStore, []⟩ pv after :=
    .found ⟨⟨.null, rfl, rfl⟩, ⟨.str "Pending", rfl, by decide⟩, rfl⟩ ran bindable
  rcases restores (.inl (by decide)) pv after binds with before | filled
  · exact before
  · refine ((filled_iff_madeFromSource binds).mp filled).hostPath "nfs" _ rfl rfl ?_
    exact ⟨by decide +kernel, by decide +kernel⟩

end Storage
end K1s
