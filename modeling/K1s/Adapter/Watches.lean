import K1s.Adapter.HandlerOps

/-!
# The watches of workloads

Each kind of workload has a watch whose loop applies the objects of ADDED and
MODIFIED events and removes the app of a deleted object.  All kinds take the
app's name from the namespace and name alone and share one removal routine.
-/

namespace K1s
namespace Adapter

open Py ApiShim Program

inductive WorkloadKind
  | deployment
  | statefulset
  | daemonset
  | job
  | cronjob
  deriving DecidableEq

namespace WorkloadKind

def gvr : WorkloadKind → Gvr
  | .deployment => deploymentsResource
  | .statefulset => statefulsetsResource
  | .daemonset => daemonsetsResource
  | .job => jobsResource
  | .cronjob => cronjobsResource

/-- The handler of an object that is there. -/
def apply (worker : Worker) : WorkloadKind → K8sObject → AdapterProgram Unit
  | .deployment => applyDeployment worker
  | .statefulset => applyStatefulset worker
  | .daemonset => applyDaemonset worker
  | .job => applyJob worker
  | .cronjob => applyCronjob worker

/-- Objects of the kind register an app under their name.  A CronJob only has
the apps of the Jobs that it fires, whose names are longer. -/
def registersApp : WorkloadKind → Bool
  | .cronjob => false
  | _ => true

end WorkloadKind

/-- Forget the last run of a CronJob. -/
def forgetCronjob (object : K8sObject) : AdapterProgram Unit := do
  let _ ← locked fun memory =>
    { memory with cronjobJobs := memory.cronjobJobs.drop (object.ns, object.name) }
  return ()

/-- The handler of an object that was deleted. -/
def removeWorkload (kind : WorkloadKind) (object : K8sObject) : AdapterProgram Unit :=
  if kind = .cronjob then do
    forgetCronjob object
    removeAppFor object
  else removeAppFor object

/-- The body of the loops `run`, `_watch_statefulsets`, `_watch_daemonsets`,
`_watch_jobs` and `_watch_cronjobs`. -/
def handleWorkloadEvent
    (worker : Worker) (kind : WorkloadKind) (type : EventType)
    (object : K8sObject) : AdapterProgram Unit :=
  match type with
  | .added | .modified => kind.apply worker object
  | .deleted => removeWorkload kind object
  | .bookmark => .done ()

/-! ## What a deletion removes -/

/-- A controller has the pods, the registration and the rows of an app that it
had before. -/
structure AppKept (app : String) (before after : Controller) : Prop where
  pods : after.pods.filter (fun pod => pod.app = app) = before.pods.filter fun pod => pod.app = app
  registration : after.registered.find? app = before.registered.find? app
  rows : after.rows.filter (fun row => row.app = app) = before.rows.filter fun row => row.app = app

/-- There is an object of another kind with the same namespace and name, whose
app this is. -/
def OtherOwner (kind : WorkloadKind) (object : K8sObject) (world : World) : Prop :=
  ∃ other : WorkloadKind, other ≠ kind ∧ other.registersApp = true ∧
    (world.store.get other.gvr object.ns object.name).isSome = true

/-- The three calls of a removal, each of which can fail, find nothing of the
app. -/
structure NothingToRemove
    (outside : Outside) (world : World)
    (app : String) : Prop where
  pods : outside.succeeds world.calls (.removeApp app) = true →
    ∀ pod ∈ world.controller.pods, pod.app ≠ app
  registration : outside.succeeds (.control (.removeApp app) :: world.calls)
      (.deleteRegisteredApp app) = true →
    world.controller.registered.find? app = none
  rows : outside.succeeds
      (.control (.deleteRegisteredApp app) :: .control (.removeApp app) :: world.calls)
      (.deleteAppState app) = true →
    ∀ row ∈ world.controller.rows, row.app ≠ app

def controllerAfterRemoval (outside : Outside) (world : World) (app : String) :
    Controller where
  registered :=
    if outside.succeeds (.control (.removeApp app) :: world.calls)
        (.deleteRegisteredApp app) then world.controller.registered.drop app
    else world.controller.registered
  rows :=
    if outside.succeeds
        (.control (.deleteRegisteredApp app) :: .control (.removeApp app) ::
          world.calls) (.deleteAppState app) then
      world.controller.rows.filter fun row => row.app ≠ app
    else world.controller.rows
  pods :=
    if outside.succeeds world.calls (.removeApp app) then
      world.controller.pods.filter fun pod => pod.app ≠ app
    else world.controller.pods

@[simp] theorem calls_control
    (world : World) (outside : Outside) (request : ControllerCall)
    (change : Controller → Controller) :
    (world.control outside request change).calls = .control request :: world.calls := by
  unfold World.control
  split <;> rfl

theorem controller_control
    (world : World) (outside : Outside) (request : ControllerCall)
    (change : Controller → Controller) :
    (world.control outside request change).controller =
      if outside.succeeds world.calls request then change world.controller
      else world.controller := by
  unfold World.control
  split <;> rfl

theorem controller_removeAppFor
    (settings : Settings) (outside : Outside) (object : K8sObject) (world : World) :
    ((removeAppFor object).runAlone (AdapterOp.execute settings outside) world).2.controller =
      controllerAfterRemoval outside world (appName object) := by
  change ((world.control outside _ _).control outside _ _ |>.control outside _ _).controller = _
  simp only [controller_control, calls_control, controllerAfterRemoval,
    Controller.removePods, Controller.unregister, Controller.purge]
  split <;> split <;> split <;> rfl

theorem controller_removeWorkload
    (settings : Settings) (outside : Outside) (kind : WorkloadKind) (object : K8sObject)
    (world : World) :
    ((removeWorkload kind object).runAlone (AdapterOp.execute settings outside)
      world).2.controller =
      controllerAfterRemoval outside world (appName object) := by
  unfold removeWorkload
  split
  · exact controller_removeAppFor settings outside object _
  · exact controller_removeAppFor settings outside object world

/-- Filtering away what has the app changes nothing of the app only where nothing
has it. -/
theorem filter_filter_ne_eq_iff
    {α : Type} (items : List α) (appOf : α → String) (app : String) :
    (items.filter fun item => appOf item ≠ app).filter (fun item => appOf item = app) =
        items.filter (fun item => appOf item = app) ↔
      ∀ item ∈ items, appOf item ≠ app := by
  have none : (items.filter fun item => appOf item ≠ app).filter
      (fun item => appOf item = app) = [] := by
    simp [List.filter_filter]
  rw [none, eq_comm, List.filter_eq_nil_iff]
  simp only [decide_eq_true_eq, ne_eq]

theorem appKept_iff (outside : Outside) (world : World) (app : String) :
    AppKept app world.controller (controllerAfterRemoval outside world app) ↔
      NothingToRemove outside world app := by
  have podsKept := filter_filter_ne_eq_iff world.controller.pods Pod.app app
  have rowsKept := filter_filter_ne_eq_iff world.controller.rows StateRow.app app
  constructor
  · rintro ⟨pods, registration, rows⟩
    refine ⟨fun succeeds => podsKept.mp ?_, fun succeeds => ?_,
      fun succeeds => rowsKept.mp ?_⟩
    · simpa only [controllerAfterRemoval, succeeds, if_true] using pods
    · simpa [controllerAfterRemoval, succeeds] using registration.symm
    · simpa only [controllerAfterRemoval, succeeds, if_true] using rows
  · rintro ⟨pods, registration, rows⟩
    refine ⟨?_, ?_, ?_⟩
    · simp only [controllerAfterRemoval]
      split
      · next succeeds => exact podsKept.mpr (pods succeeds)
      · rfl
    · simp only [controllerAfterRemoval]
      split
      · next succeeds => simp [registration succeeds]
      · rfl
    · simp only [controllerAfterRemoval]
      split
      · next succeeds => exact rowsKept.mpr (rows succeeds)
      · rfl

/-- The handler of a DELETED event leaves the app of an existing object of another
kind alone exactly when there is no such object or nothing of the app that the
calls would remove. -/
theorem otherOwner_imp_appKept_iff
    (worker : Worker) (outside : Outside) (kind : WorkloadKind) (object : K8sObject)
    (world : World) :
    (OtherOwner kind object world → AppKept (appName object) world.controller
        ((handleWorkloadEvent worker kind .deleted object).runAlone
          (AdapterOp.execute worker.settings outside) world).2.controller) ↔
      (OtherOwner kind object world → NothingToRemove outside world (appName object)) := by
  have removed := controller_removeWorkload worker.settings outside kind object world
  simp only [handleWorkloadEvent, removed, appKept_iff]

/-- A workload without a spec. -/
def bareWorkload (kind : WorkloadKind) (name : String) : K8sObject where
  gvr := kind.gvr
  ns := some "default"
  name := name
  metadata := .dict [("name", .str name)]
  spec := .dict []
  status := .dict []
  resourceVersion := 1

/-- A Deployment whose app has a pod, a registration and a row. -/
def runningDeployment : World :=
  let written := (World.startedOn .empty).write deploymentsResource (some "default")
    "web" (.dict [("name", .str "web")]) (.dict []) (.dict [])
  { written.2 with
    controller :=
      ⟨Dictionary.empty.set "web" ⟨"web", some "default", [], .null⟩,
        [⟨.appRevisions, "web", "1"⟩], [⟨"web", "web-0"⟩]⟩ }

/-- The deletion of a CronJob removes the app of a Deployment of the same name. -/
theorem not_appKept_runningDeployment :
    OtherOwner .cronjob (bareWorkload .cronjob "web") runningDeployment ∧
      ¬ AppKept "web" runningDeployment.controller
        ((handleWorkloadEvent plainWorker .cronjob .deleted (bareWorkload .cronjob "web")).runAlone
          (AdapterOp.execute plainSettings plainOutside)
          runningDeployment).2.controller := by
  refine ⟨⟨.deployment, by decide, rfl, by decide +kernel⟩, fun kept => ?_⟩
  have gone : (runningDeployment.controller.pods.filter fun pod => pod.app = "web") ≠ [] := by
    decide +kernel
  refine gone (kept.pods.symm.trans ?_)
  decide +kernel

end Adapter
end K1s
