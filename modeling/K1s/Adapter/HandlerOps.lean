import K1s.Adapter.Services

/-!
# Which operations the handlers use

Each handler is described once by the operations that it can come to.  Later
modules take from these descriptions what they need: that handlers of workloads
leave the maps of specs alone, or that a status write has the metadata and spec
of the copy it is based on.
-/

namespace K1s
namespace Adapter

open Py ApiShim Program

/-- The operations of the handlers of workloads. -/
inductive WorkloadOp : AdapterOp → Prop
  | get (gvr : Gvr) (ns : Option String) (name : String) :
      WorkloadOp (.get gvr ns name)
  | list (gvr : Gvr) (ns : Option String) : WorkloadOp (.list gvr ns)
  | listAll (gvr : Gvr) : WorkloadOp (.listAll gvr)
  /-- A status is written over the object that was read. -/
  | status (basis : K8sObject) (gvr : Gvr) (status : Json) :
      WorkloadOp (.upsert true (some basis) gvr basis.ns basis.name basis.metadata
        basis.spec status)
  /-- A claim of a StatefulSet is created. -/
  | claim (ns : Option String) (name : String) (metadata spec : Json) :
      WorkloadOp (.upsert false none pvcsResource ns name metadata spec (.dict []))
  /-- The memory is read, or an app is noted as pending or not pending. -/
  | pending
      (update : Memory → Memory)
      (only : ∀ memory, ∃ apps, update memory = { memory with pendingPvcApps := apps }) :
      WorkloadOp (.memory update)
  | registerApp (manifest : Manifest) : WorkloadOp (.registerApp manifest)
  | deleteRegisteredApp (app : String) : WorkloadOp (.deleteRegisteredApp app)
  | deleteAppState (app : String) : WorkloadOp (.deleteAppState app)
  | removeApp (app : String) : WorkloadOp (.removeApp app)
  | startPod (app name : String) : WorkloadOp (.startPod app name)
  | stopPod (app name : String) : WorkloadOp (.stopPod app name)
  | recordRow (row : StateRow) : WorkloadOp (.recordRow row)
  | call (request : Call) : WorkloadOp (.call request)

section Workloads

variable {allowed : AdapterOp → Prop}

theorem uses_perform {operation : AdapterOp} (holds : allowed operation) :
    (perform operation).Uses allowed :=
  ⟨holds, fun _ => trivial⟩

theorem uses_storeGet (gvr : Gvr) (ns : Option String) (name : String) :
    (storeGet gvr ns name).Uses WorkloadOp :=
  uses_perform (.get gvr ns name)

theorem uses_storeGetNamed (gvr : Gvr) (ns : Option String) (name : Json) :
    (storeGetNamed gvr ns name).Uses WorkloadOp := by
  unfold storeGetNamed
  split
  · trivial
  · trivial
  · exact uses_storeGet ..

theorem uses_storeListAll (gvr : Gvr) : (storeListAll gvr).Uses WorkloadOp :=
  uses_perform (.listAll gvr)

theorem uses_remembered : remembered.Uses WorkloadOp :=
  uses_perform (.pending _ fun memory => ⟨memory.pendingPvcApps, rfl⟩)

theorem uses_call (request : Call) : (call request).Uses WorkloadOp :=
  uses_perform (.call request)

variable (object : K8sObject)

theorem uses_upsertCurrentWorkloadStatus (gvr : Gvr) (status : Json) :
    (upsertCurrentWorkloadStatus object gvr status).Uses WorkloadOp := by
  refine (uses_storeGet gvr object.ns object.name).andThen fun current => ?_
  cases current with
  | none => trivial
  | some current =>
      refine Uses.ite trivial ?_
      exact (uses_perform (.status current gvr status)).andThen fun _ => trivial

theorem uses_pendingMounts (ns : String) (mounts : List PvcMount) :
    (pendingMounts ns mounts).Uses WorkloadOp := by
  induction mounts with
  | nil => trivial
  | cons mount rest ih =>
      rw [pendingMounts]
      refine Uses.ite ih ?_
      refine (uses_storeGet ..).andThen fun pvc => ?_
      refine ih.andThen fun others => ?_
      exact Uses.ite trivial trivial

theorem uses_pendingPvcMounts (manifest : Manifest) :
    (pendingPvcMounts manifest).Uses WorkloadOp :=
  (uses_pendingMounts ..).andThen fun _ => trivial

theorem uses_updateWorkloadPendingStatus
    (desired : Int) (pending : List String) (kind : WaitingKind) :
    (updateWorkloadPendingStatus object desired pending kind).Uses WorkloadOp := by
  refine (Uses.ofOption _).andThen fun status => ?_
  refine (uses_storeGet ..).andThen fun stillExists => ?_
  exact Uses.ite (uses_upsertCurrentWorkloadStatus ..) trivial

theorem uses_updatePending
    (update : String × String → List (String × String) → List (String × String)) :
    (updatePending object update).Uses WorkloadOp := by
  unfold updatePending
  split
  · trivial
  · refine Uses.ite trivial ?_
    exact (uses_perform (.pending _ fun memory => ⟨_, rfl⟩)).andThen fun _ => trivial

theorem uses_reconcileApp
    {α : Type} (app : String) (program : Program ReconcileOp ReconcileOp.Reply α) :
    (reconcileApp app program).Uses WorkloadOp := by
  induction program with
  | done value => trivial
  | raise => trivial
  | perform operation next ih =>
      cases operation with
      | startPod name => exact ⟨.startPod app name, ih⟩
      | stopPod name => exact ⟨.stopPod app name, ih⟩
      | recordRow table content => exact ⟨.recordRow _, ih⟩
      | call request => exact ⟨.call request, ih⟩

theorem uses_removeAppFor : (removeAppFor object).Uses WorkloadOp := by
  refine (uses_perform (.removeApp _)).andThen fun _ => ?_
  refine (uses_perform (.deleteRegisteredApp _)).andThen fun _ => ?_
  exact uses_perform (.deleteAppState _)

theorem uses_reflectStatus
    (gvr : Gvr) (app : String) (statusFor : AppStatus → Option Json) :
    (reflectStatus object gvr app statusFor).Uses WorkloadOp := by
  refine (uses_call _).andThen fun answered => ?_
  refine (Uses.ofOption _).andThen fun row => ?_
  cases row with
  | none => trivial
  | some row =>
      refine (Uses.ofOption _).andThen fun status => ?_
      exact uses_upsertCurrentWorkloadStatus ..

variable (worker : Worker)

theorem uses_applyManifest
    (manifest : Manifest) (desired : Int) (kind : WaitingKind)
    (statusFor : AppStatus → Option Json) :
    (applyManifest worker object manifest desired kind statusFor).Uses
      WorkloadOp := by
  refine (uses_perform (.registerApp _)).andThen fun _ => ?_
  refine (uses_pendingPvcMounts manifest).andThen fun pending => ?_
  refine Uses.ite ?_ ?_
  · refine (uses_updatePending ..).andThen fun _ => ?_
    refine (uses_reconcileApp ..).andThen fun _ => ?_
    exact uses_reflectStatus ..
  · refine (uses_updateWorkloadPendingStatus ..).andThen fun _ => ?_
    exact uses_updatePending ..

theorem uses_applyWorkload
    (object converted : K8sObject) (templates : Json) (desired : Int) (kind : WaitingKind)
    (statusFor : AppStatus → Option Json) :
    (applyWorkload worker object converted templates desired kind statusFor).Uses
      WorkloadOp := by
  refine uses_remembered.andThen fun services => ?_
  refine uses_remembered.andThen fun ingresses => ?_
  refine (Uses.ofOption _).andThen fun manifest => ?_
  exact uses_applyManifest ..

theorem uses_applyDeployment (dep : K8sObject) :
    (applyDeployment worker dep).Uses WorkloadOp := by
  refine (Uses.ofOption _).andThen fun desired => ?_
  refine Uses.ite ?_ (uses_applyWorkload ..)
  refine (uses_perform (.removeApp _)).andThen fun _ => ?_
  refine (uses_perform (.deleteRegisteredApp _)).andThen fun _ => ?_
  exact uses_upsertCurrentWorkloadStatus ..

/-- The claims of a StatefulSet are read and created. -/
theorem uses_ensureStatefulsetClaims
    (gets : ∀ gvr ns name, allowed (.get gvr ns name))
    (claims : ∀ ns name metadata spec,
      allowed (.upsert false none pvcsResource ns name metadata spec (.dict [])))
    (sts : K8sObject) : (ensureStatefulsetClaims sts).Uses allowed := by
  refine (Uses.ofOption _).andThen fun templates => ?_
  split
  · refine (Uses.ofOption _).andThen fun uid => ?_
    refine Uses.forEach fun tpl _ => ?_
    refine Uses.ite (Uses.forEach fun ordinal _ => ?_) trivial
    refine (uses_perform (gets ..)).andThen fun existing => ?_
    refine Uses.ite trivial ?_
    exact (uses_perform (claims ..)).andThen fun _ => trivial
  · trivial

theorem uses_applyStatefulset (sts : K8sObject) :
    (applyStatefulset worker sts).Uses WorkloadOp := by
  refine (Uses.ofOption _).andThen fun desired => ?_
  refine Uses.ite ?_ ?_
  · refine (uses_removeAppFor sts).andThen fun _ => ?_
    refine (Uses.ofOption _).andThen fun generation => ?_
    exact uses_upsertCurrentWorkloadStatus ..
  · refine (uses_ensureStatefulsetClaims .get .claim sts).andThen fun _ => ?_
    refine (Uses.ofOption _).andThen fun templates => ?_
    exact uses_applyWorkload ..

theorem uses_daemonsetDesired (ds : K8sObject) : (daemonsetDesired ds).Uses WorkloadOp := by
  refine (uses_call _).andThen fun nodes => ?_
  split
  · trivial
  · exact (Uses.ofOption _).andThen fun replicas => trivial

theorem uses_applyDaemonset (ds : K8sObject) :
    (applyDaemonset worker ds).Uses WorkloadOp := by
  refine (uses_daemonsetDesired ds).andThen fun desired => ?_
  refine Uses.ite ?_ ?_
  · refine (uses_removeAppFor ds).andThen fun _ => ?_
    exact uses_upsertCurrentWorkloadStatus ..
  · refine (Uses.ofOption _).andThen fun converted => ?_
    exact uses_applyWorkload ..

theorem uses_triggerReconcile (target : TargetRef) :
    (triggerReconcile worker target).Uses WorkloadOp := by
  unfold triggerReconcile
  split
  · trivial
  · refine (uses_storeGetNamed ..).andThen fun dep => ?_
    cases dep with
    | some dep => exact uses_applyDeployment worker dep
    | none =>
        refine (uses_storeGetNamed ..).andThen fun sts => ?_
        cases sts with
        | some sts => exact uses_applyStatefulset worker sts
        | none =>
            refine (uses_storeGetNamed ..).andThen fun ds => ?_
            cases ds with
            | some ds => exact uses_applyDaemonset worker ds
            | none => trivial

end Workloads

/-! ## Services -/

/-- The operations that computing the spec of a Service comes to. -/
inductive ServiceOp (svc : K8sObject) : AdapterOp → Prop
  | list (gvr : Gvr) (ns : Option String) : ServiceOp svc (.list gvr ns)
  | listAll (gvr : Gvr) : ServiceOp svc (.listAll gvr)
  | ports (operation : PortOp) : ServiceOp svc (.ports operation)
  /-- An unresolved port is noted in the status of the Service. -/
  | status (status : Json) :
      ServiceOp svc (.upsert false (some svc) servicesResource svc.ns svc.name
        svc.metadata svc.spec status)
  | call (request : Call) : ServiceOp svc (.call request)

section Services

variable (worker : Worker) (svc : K8sObject)

theorem uses_onPorts (operation : PortOp) : (onPorts operation).Uses (ServiceOp svc) :=
  (uses_perform (.ports operation)).andThen fun _ => trivial

theorem uses_candidatesOfKind
    (selector : Dictionary String String) (order : Nat) (gvr : Gvr) :
    (candidatesOfKind svc selector order gvr).Uses (ServiceOp svc) := by
  have listed : (candidatesOfKind.listed svc gvr).Uses (ServiceOp svc) := by
    unfold candidatesOfKind.listed
    split
    · exact uses_perform (.list gvr _)
    · exact uses_perform (.listAll gvr)
  refine listed.andThen fun objects => ?_
  exact (Uses.ofOption _).andThen fun found => trivial

theorem uses_serviceTarget (selector : Dictionary String String) :
    (serviceTarget svc selector).Uses (ServiceOp svc) := by
  have resolved : (resolveServiceTarget svc selector).Uses (ServiceOp svc) := by
    refine Uses.ite trivial ?_
    refine (uses_candidatesOfKind ..).andThen fun deployments => ?_
    refine (uses_candidatesOfKind ..).andThen fun statefulsets => ?_
    exact (uses_candidatesOfKind ..).andThen fun daemonsets => trivial
  refine resolved.andThen fun found => ?_
  cases found <;> trivial

theorem uses_exposePort (svcKey portId : String) (entry : Dict) :
    (exposePort svcKey portId entry).Uses (ServiceOp svc) := by
  have allocated : (allocatePort svcKey portId).Uses (ServiceOp svc) :=
    (uses_perform (.ports _)).andThen fun port => Uses.ofOption _
  refine Uses.ite (allocated.andThen fun port => trivial) ?_
  split
  · exact (uses_onPorts svc _).andThen fun _ => trivial
  · refine allocated.andThen fun port => ?_
    exact (uses_onPorts svc _).andThen fun _ => trivial

theorem uses_preparePort (svcKey : String) (exposeHost : Bool) (index : Nat) (raw : Json) :
    (preparePort svcKey exposeHost index raw).Uses (ServiceOp svc) := by
  refine (Uses.ofOption _).andThen fun copied => ?_
  refine Uses.ite ?_ ?_
  · exact (uses_exposePort ..).andThen fun exposed => trivial
  · exact (uses_onPorts svc _).andThen fun _ => trivial

theorem uses_preparePorts
    (svcKey : String) (exposeHost : Bool) (index : Nat) (entries : List Json) :
    (preparePorts svcKey exposeHost index entries).Uses (ServiceOp svc) := by
  induction entries generalizing index with
  | nil => trivial
  | cons raw rest ih =>
      refine (uses_preparePort ..).andThen fun entry => ?_
      exact (ih (index + 1)).andThen fun others => trivial

theorem uses_prepareServicePorts (spec : Json) (exposeHost : Bool) :
    (prepareServicePorts svc spec exposeHost).Uses (ServiceOp svc) := by
  refine Uses.ite ?_ ?_
  · refine (Uses.ofOption _).andThen fun entries => ?_
    refine (uses_preparePorts ..).andThen fun prepared => ?_
    exact (uses_onPorts svc _).andThen fun _ => trivial
  · exact (uses_onPorts svc _).andThen fun _ => trivial

theorem uses_specForPorts
    (spec svcType target : Json) (portsByName : Dictionary String Int) (exposeHost : Bool)
    (prepared : List Dict) :
    (specForPorts worker svc spec svcType target portsByName exposeHost
      prepared).Uses (ServiceOp svc) := by
  refine (Uses.ofOption _).andThen fun reading => ?_
  rcases reading with ports | ⟨entry, targetPort⟩
  · cases ports with
    | nil => trivial
    | cons first rest => exact (Uses.ofOption _).andThen fun valid => trivial
  · have marked : (markServiceInvalidTargetPort svc target entry targetPort).Uses
        (ServiceOp svc) := by
      refine (Uses.ofOption _).andThen fun status => ?_
      refine (uses_perform (.status status)).andThen fun _ => ?_
      exact (uses_perform (.call _)).andThen fun _ => trivial
    exact marked.andThen fun _ => trivial

theorem uses_serviceSpecFor : (serviceSpecFor worker svc).Uses (ServiceOp svc) := by
  refine (Uses.ofOption _).andThen fun spec => ?_
  refine (uses_serviceTarget ..).andThen fun found => ?_
  refine Uses.ite ?_ trivial
  refine (Uses.ofOption _).andThen fun exposeHost => ?_
  refine (uses_prepareServicePorts ..).andThen fun prepared => ?_
  exact Uses.ite trivial (uses_specForPorts ..)

end Services

end Adapter
end K1s
