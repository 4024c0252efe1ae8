import K1s.Adapter.Autoscaling

/-!
# The threads of the adapter

A watch thread handles one event after the other, the requeue and rescan loops
make one pass after the other, and clients write and delete objects.  A call is
one such event, pass or request; the calls of all threads interleave operation
by operation.
-/

namespace K1s
namespace Adapter

open Py ApiShim Program

/-- The body of the loop `_watch_pvcs`. -/
def handlePvcEvent (worker : Worker) (type : EventType) (pvc : K8sObject) :
    AdapterProgram Unit :=
  match type with
  | .added | .modified => reconcileDependentsForPvc worker pvc
  | .deleted | .bookmark => .done ()

/-- An event for one of the watches, a pass of a loop, or a request of a client. -/
inductive AdapterCall
  | workload (kind : WorkloadKind) (type : EventType) (object : K8sObject)
  | service (type : EventType) (svc : K8sObject)
  | ingress (type : EventType) (ing : K8sObject)
  | pvc (type : EventType) (object : K8sObject)
  | hpa (type : EventType) (object : K8sObject)
  | requeue
  | rescan
  | clientWrite
      (gvr : Gvr)
      (ns : Option String)
      (name : String)
      (metadata spec status : Json)
  | clientDelete (gvr : Gvr) (ns : Option String) (name : String)

/-- What a call does. -/
def AdapterCall.body (worker : Worker) : AdapterCall → AdapterProgram Unit
  | .workload kind type object => handleWorkloadEvent worker kind type object
  | .service type svc => handleServiceEvent worker type svc
  | .ingress type ing => handleIngressEvent worker type ing
  | .pvc type object => handlePvcEvent worker type object
  | .hpa type object => handleHpaEvent worker type object
  | .requeue => requeuePending worker
  | .rescan => rescanPvcWorkloads worker
  | .clientWrite gvr ns name metadata spec status =>
      (storeUpsert none gvr ns name metadata spec status).andThen fun _ => .done ()
  | .clientDelete gvr ns name =>
      (perform (.delete gvr ns name)).andThen fun _ => .done ()

/-! ## The operations of the remaining handlers -/

section Handlers

variable (worker : Worker)

theorem uses_reflectJob (job : K8sObject) (app : String) (parallelism completions : Int) :
    (reflectJob job app parallelism completions).Uses WorkloadOp := by
  refine (uses_call _).andThen fun answered => ?_
  refine (Uses.ofOption _).andThen fun row => ?_
  refine (uses_call _).andThen fun listed => ?_
  refine Uses.ite (uses_upsertCurrentWorkloadStatus ..) ?_
  exact (uses_call _).andThen fun _ => uses_upsertCurrentWorkloadStatus ..

theorem uses_applyJob (job : K8sObject) : (applyJob worker job).Uses WorkloadOp := by
  refine (Uses.ofOption _).andThen fun parallelism => ?_
  refine (Uses.ofOption _).andThen fun completions => ?_
  refine Uses.ite ?_ ?_
  · refine (uses_removeAppFor job).andThen fun _ => ?_
    exact uses_upsertCurrentWorkloadStatus ..
  · refine (Uses.ofOption _).andThen fun converted => ?_
    refine (Uses.ofOption _).andThen fun plain => ?_
    refine (uses_perform (.registerApp _)).andThen fun _ => ?_
    refine (uses_reconcileApp ..).andThen fun _ => ?_
    exact uses_reflectJob ..

theorem uses_requeuePending : (requeuePending worker).Uses WorkloadOp :=
  uses_remembered.andThen fun _ => Uses.forEach fun _ _ => uses_triggerReconcile ..

theorem uses_rescanWorkload
    (object : K8sObject) (templates : Json) {apply : K8sObject → AdapterProgram Unit}
    (applied : ∀ object, (apply object).Uses WorkloadOp) :
    (rescanWorkload worker object templates apply).Uses WorkloadOp := by
  refine uses_remembered.andThen fun services => ?_
  refine uses_remembered.andThen fun ingresses => ?_
  refine (Uses.ofOption _).andThen fun manifest => ?_
  refine (uses_pendingPvcMounts manifest).andThen fun pending => ?_
  exact Uses.ite (applied object) trivial

theorem uses_rescanPvcWorkloads : (rescanPvcWorkloads worker).Uses WorkloadOp := by
  refine (uses_storeListAll _).andThen fun deps => ?_
  refine (Uses.forEach fun dep _ =>
    uses_rescanWorkload worker dep .null (uses_applyDeployment worker)).andThen
      fun _ => ?_
  refine (uses_storeListAll _).andThen fun stss => ?_
  refine (Uses.forEach fun sts _ => (Uses.ofOption _).andThen fun templates =>
    uses_rescanWorkload worker sts templates (uses_applyStatefulset worker)).andThen
      fun _ => ?_
  refine (uses_storeListAll _).andThen fun dss => ?_
  exact Uses.forEach fun ds _ =>
    uses_rescanWorkload worker ds .null (uses_applyDaemonset worker)

theorem uses_applyDependents
    (gvr : Gvr) (ns claimName : String) {apply : K8sObject → AdapterProgram Unit}
    (applied : ∀ object, (apply object).Uses WorkloadOp) :
    (applyDependents gvr ns claimName apply).Uses WorkloadOp := by
  refine (uses_storeListAll gvr).andThen fun objects => ?_
  refine Uses.forEach fun object _ => Uses.ite ?_ trivial
  exact (Uses.ofOption _).andThen fun uses => Uses.ite (applied object) trivial

theorem uses_handlePvcEvent (type : EventType) (pvc : K8sObject) :
    (handlePvcEvent worker type pvc).Uses WorkloadOp := by
  have dependents : (reconcileDependentsForPvc worker pvc).Uses WorkloadOp := by
    unfold reconcileDependentsForPvc
    split
    · trivial
    · refine Uses.ite trivial ?_
      refine (uses_applyDependents _ _ _ (uses_applyDeployment worker)).andThen
        fun _ => ?_
      refine (uses_applyDependents _ _ _ (uses_applyStatefulset worker)).andThen
        fun _ => ?_
      exact uses_applyDependents _ _ _ (uses_applyDaemonset worker)
  cases type with
  | added | modified => exact dependents
  | deleted | bookmark => trivial

end Handlers

end Adapter
end K1s
