import K1s.Adapter.HandlerOps
import K1s.ApiShim.Documents
import K1s.Py.Documents

/-!
# The number of replicas of a workload

The number is read anew wherever a workload is applied, converted or shown.  Most of these
places take zero for a missing number, so that a workload is never scaled to zero.
-/

namespace K1s
namespace Adapter

open Py ApiShim Program

/-! ## Where the number is shown -/

def toScale (o : K8sObject) : Option Json :=
  (o.spec.getD "replicas" (.int 1)).bind fun raw =>
  raw.toInt.map fun replicas =>
    .dict [("apiVersion", .str "autoscaling/v1"), ("kind", .str "Scale"),
      ("metadata", .dict (("name", .str o.name) ::
        match o.ns with
        | some ns => if ns = "" then [] else [("namespace", .str ns)]
        | none => [])),
      ("spec", .dict [("replicas", .int replicas)]),
      ("status", .dict [("replicas", .int replicas), ("selector", .str "")])]

def replicasetSpec (dep : K8sObject) : Option Dict := do
  let replicas ← countOf dep.spec "replicas" 1
  let selector ← dep.spec.lookup "selector"
  let template ← dep.spec.lookup "template"
  return [("replicas", .int replicas), ("selector", selector.or (.dict [])),
    ("template", template.or (.dict []))]

def replicasetStatus (dep : K8sObject) : Option Dict :=
  (replicasetSpec dep).map fun spec =>
    let replicas := Dict.get spec "replicas"
    [("replicas", replicas), ("readyReplicas", replicas), ("availableReplicas", replicas),
      ("observedGeneration", .int (ApiShim.generationOf dep.metadata.entries))]

/-- The replicas of the manifest that `manifest_from_k8s_workload` makes. -/
def manifestReplicas (spec : Json) : Option Int :=
  (countOf spec "replicas" 1).map (max 1)

/-! ## Workloads with a number -/

/-- The kinds that have a number of replicas. -/
inductive CountedKind
  | deployment
  | statefulset
  | job
  deriving DecidableEq

namespace CountedKind

/-- Where the number is. -/
def key : CountedKind → String
  | .deployment | .statefulset => "replicas"
  | .job => "parallelism"

def apply (worker : Worker) (object : K8sObject) : CountedKind → AdapterProgram Unit
  | .deployment => applyDeployment worker object
  | .statefulset => applyStatefulset worker object
  | .job => applyJob worker object

/-- Reconcile the app of a converted object, and write a status for a number. -/
def broughtUp
    (worker : Worker) (object converted : K8sObject)
    (count : Int) : CountedKind → AdapterProgram Unit
  | .deployment =>
      applyWorkload worker object converted .null count .deployment
        fun row => some (deploymentStatus row)
  | .statefulset => do
      ensureStatefulsetClaims object
      let templates ← .ofOption (object.spec.lookup "volumeClaimTemplates")
      applyWorkload worker object converted templates count .statefulset (statefulsetStatus object)
  | .job => do
      let completions ← .ofOption (countOf object.spec "completions" count)
      let plain ← .ofOption (worker.manifestFrom converted none none .null)
      let manifest := worker.asJob object plain
      perform (.registerApp manifest)
      reconcileApp (appKeyForManifest manifest) (worker.reconcile manifest)
      reflectJob object (appKeyForManifest manifest) count completions

end CountedKind

/-- A stored workload with a number of replicas. -/
structure CountedWorkload where
  kind : CountedKind
  object : K8sObject
  entries : Dict
  count : Nat
  spec_eq : object.spec = .dict entries
  counted : Dict.find? entries kind.key = some (.int count)

namespace CountedWorkload

/-- The number of completions of a job can be read. -/
def Readable (workload : CountedWorkload) : Prop :=
  workload.kind = .job → (countOf workload.object.spec "completions" workload.count).isSome

/-- The app is removed for no replicas, and brought to the number otherwise. -/
def Brought (workload : CountedWorkload) (worker : Worker) : Prop :=
  if workload.count = 0 then
    ∃ next, workload.kind.apply worker workload.object =
      .perform (.removeApp (appName workload.object)) next
  else workload.Readable ∧ ∃ converted, manifestReplicas converted.spec = some ↑workload.count ∧
    workload.kind.apply worker workload.object =
      workload.kind.broughtUp worker workload.object converted workload.count

/-- The number is in the status for a row of the app, and in that while claims are missing. -/
def Reports
    (workload : CountedWorkload) (kind : WaitingKind)
    (statusFor : AppStatus → Option Json) : Prop :=
  ∀ row pending status, row.desiredReplicas = (workload.count : Int) →
    statusFor row = some status ∨
      pendingStatus workload.object workload.count pending kind = some status →
    status.item "replicas" = .int workload.count

/-- The status that is written reports the number; that of a job has it as active until
there are pods. -/
def Reported (workload : CountedWorkload) : Prop :=
  match workload.kind with
  | .deployment => workload.Reports .deployment fun row => some (deploymentStatus row)
  | .statefulset => workload.Reports .statefulset (statefulsetStatus workload.object)
  | .job => ∀ completions,
      (jobCounts [] none workload.count completions).active = workload.count

/-- The documents of a Deployment show the number. -/
def Shown (workload : CountedWorkload) : Prop :=
  workload.kind = .deployment → (∀ shown, toDeployment workload.object = some shown →
      (shown.item "spec").item "replicas" = .int workload.count ∧
        (shown.item "status").item "replicas" = .int workload.count) ∧
    (∀ shown, toScale workload.object = some shown →
      (shown.item "spec").item "replicas" = .int workload.count ∧
        (shown.item "status").item "replicas" = .int workload.count) ∧
    (∀ spec, replicasetSpec workload.object = some spec →
      Dict.get spec "replicas" = .int workload.count) ∧
    ∀ status, replicasetStatus workload.object = some status →
      Dict.get status "replicas" = .int workload.count

/-- The number is kept to everywhere. -/
structure Faithful (workload : CountedWorkload) (worker : Worker) : Prop where
  brought : workload.Brought worker
  reported : workload.Reported
  shown : workload.Shown

variable {workload : CountedWorkload}

/-- Zero is taken for a missing number. -/
theorem countOf_dict
    {entries : Dict} {key : String} {count : Int}
    (counted : Dict.find? entries key = some (.int count)) :
    countOf (.dict entries) key 1 = some (if count = 0 then 1 else count) := by
  rw [countOf, Json.lookupD, Json.or_dict_nil, Json.getD, counted]
  by_cases zero : count = 0 <;> simp [zero, Json.or, Json.truthy, Json.toInt]

theorem reported (workload : CountedWorkload) : workload.Reported := by
  unfold Reported
  cases workload.kind with
  | deployment =>
      rintro row pending status desired (same | same)
      · rw [← Option.some.inj same, deploymentStatus]
        simp [Dict.get, Dict.find?_cons, desired]
      · rw [← Option.some.inj same]
        simp [Dict.get, Dict.find?_cons]
  | statefulset =>
      rintro row pending status desired (same | same)
      · obtain ⟨generation, -, same⟩ := Option.bind_eq_some_iff.mp same
        rw [← Option.some.inj same]
        simp [Dict.get, Dict.find?_cons, desired]
      · obtain ⟨generation, -, same⟩ := Option.bind_eq_some_iff.mp same
        rw [← Option.some.inj same]
        simp [Dict.get, Dict.find?_cons]
  | job => simp [jobCounts]

/-- Read with the number, the handler does what is asked for. -/
theorem apply_eq_broughtUp
    (worker : Worker) {entries : Dict} {object : K8sObject} {kind : CountedKind}
    {count desired : Int} (spec_eq : object.spec = .dict entries)
    (counted : Dict.find? entries kind.key = some (.int count))
    (read : (if count = 0 then 1 else count) = desired) (positive : 0 < desired) :
    ∃ converted, manifestReplicas converted.spec = some desired ∧
      kind.apply worker object = kind.broughtUp worker object converted desired := by
  have read : countOf object.spec kind.key 1 = some desired := by
    rw [spec_eq, countOf_dict counted, read]
  have above : ¬ desired ≤ 0 := not_le.mpr positive
  have kept : max 1 desired = desired := max_eq_right positive
  cases kind with
  | deployment =>
      have read : countOf object.spec "replicas" 1 = some desired := read
      refine ⟨object, by rw [manifestReplicas, read, Option.map_some, kept], ?_⟩
      simp only [CountedKind.apply, applyDeployment, read]
      exact if_neg above
  | statefulset =>
      have read : countOf object.spec "replicas" 1 = some desired := read
      refine ⟨object, by rw [manifestReplicas, read, Option.map_some, kept], ?_⟩
      simp only [CountedKind.apply, applyStatefulset, read]
      exact if_neg above
  | job =>
      have read : countOf object.spec "parallelism" 1 = some desired := read
      refine ⟨{ object with spec := .dict (Dict.set entries "replicas" (.int desired)) }, ?_, ?_⟩
      · rw [manifestReplicas, countOf_dict (Dict.find?_set_self ..), if_neg (by omega),
          Option.map_some, kept]
      · have converted : withReplicas object desired =
            some { object with spec := .dict (Dict.set entries "replicas" (.int desired)) } := by
          rw [withReplicas, spec_eq]
          simp [Json.asDict]
        simp [CountedKind.apply, applyJob, read, CountedKind.broughtUp, ofOption, above, converted]

/-- Bringing an app up does not begin with its removal. -/
theorem broughtUp_ne_removal
    (worker : Worker) (object converted : K8sObject) (kind : CountedKind) (count : Int)
    (app : String) (next : Unit → AdapterProgram Unit) :
    kind.broughtUp worker object converted count ≠ .perform (.removeApp app) next := by
  cases kind with
  | deployment =>
      intro same
      cases same
  | statefulset =>
      have uses : (ensureStatefulsetClaims object).Uses fun op => ∀ app, op ≠ .removeApp app :=
        uses_ensureStatefulsetClaims (by simp) (by simp) object
      cases claims : ensureStatefulsetClaims object with
      | done _ =>
          simp only [CountedKind.broughtUp, claims]
          cases object.spec.lookup "volumeClaimTemplates" <;> (intro same; cases same)
      | raise => simp [CountedKind.broughtUp, claims]
      | perform op rest =>
          rw [claims] at uses
          simp only [CountedKind.broughtUp, claims]
          intro same
          injection same with isRemoval
          exact uses.1 app isRemoval
  | job =>
      cases read : countOf object.spec "completions" count with
      | none => simp [CountedKind.broughtUp, read, ofOption]
      | some completions =>
          cases made : worker.manifestFrom converted none none .null with
          | none => simp [CountedKind.broughtUp, read, made, ofOption]
          | some plain =>
              simp only [CountedKind.broughtUp, read, made]
              intro same
              cases same

theorem brought_iff (workload : CountedWorkload) (worker : Worker) :
    workload.Brought worker ↔ workload.count ≠ 0 ∧ workload.Readable := by
  unfold Brought
  by_cases zero : workload.count = 0
  · rw [if_pos zero]
    refine iff_of_false ?_ (fun both => both.1 zero)
    rintro ⟨next, removal⟩
    obtain ⟨converted, -, same⟩ := apply_eq_broughtUp worker workload.spec_eq workload.counted
      (if_pos (by omega)) one_pos
    exact broughtUp_ne_removal _ _ _ _ _ _ _ (same.symm.trans removal)
  · rw [if_neg zero]
    refine ⟨fun brought => ⟨zero, brought.1⟩, fun both => ⟨both.2, ?_⟩⟩
    exact apply_eq_broughtUp worker workload.spec_eq workload.counted (if_neg (by omega)) (by omega)

theorem shown_of_ne_zero (workload : CountedWorkload) (positive : workload.count ≠ 0) :
    workload.Shown := by
  intro isDeployment
  have counted : Dict.find? workload.entries "replicas" = some (.int workload.count) := by
    simpa [isDeployment, CountedKind.key] using workload.counted
  have current : Dict.get workload.entries "replicas" = .int workload.count := by
    rw [Dict.get, counted, Option.getD_some]
  have read : countOf workload.object.spec "replicas" 1 = some ↑workload.count := by
    rw [workload.spec_eq, countOf_dict counted, if_neg (by omega)]
  have specced : ∀ spec, replicasetSpec workload.object = some spec →
      Dict.get spec "replicas" = .int workload.count := by
    intro spec made
    rw [replicasetSpec, read] at made
    obtain ⟨replicas, same, made⟩ := Option.bind_eq_some_iff.mp made
    obtain ⟨selector, -, made⟩ := Option.bind_eq_some_iff.mp made
    obtain ⟨template, -, made⟩ := Option.bind_eq_some_iff.mp made
    rw [← Option.some.inj made, ← Option.some.inj same]
    rfl
  refine ⟨fun shown made => ?_, fun shown made => ?_, specced, fun status made => ?_⟩
  · obtain ⟨metadata, -, made⟩ := Option.bind_eq_some_iff.mp made
    simp only [workload.spec_eq, dictOf, Option.bind_some, current] at made
    obtain ⟨status, synthesized, rfl⟩ := Option.map_eq_some_iff.mp made
    obtain ⟨former, -, rfl⟩ : ∃ former, dictOf workload.object.status = some former ∧ _ := by
      simpa [synthesizeDeployStatus, Json.getD, counted, Json.toInt] using synthesized
    simp [ApiShim.shown, dictUpdate, Dict.get, Dict.find?_cons, Dict.find?_set, counted]
  · simp only [toScale, workload.spec_eq, Json.getD, counted, Option.getD_some, Json.toInt,
      Option.bind_some, Option.map_some, Option.some.injEq] at made
    rw [← made]
    exact ⟨rfl, rfl⟩
  · obtain ⟨spec, found, rfl⟩ := Option.map_eq_some_iff.mp made
    simpa [Dict.get, Dict.find?_cons] using specced spec found

def scaledToZero : CountedWorkload where
  kind := .deployment
  object := ⟨deploymentsResource, some "default", "web", .dict [],
    .dict [("replicas", .int 0)], .dict [], 1⟩
  entries := [("replicas", .int 0)]
  count := 0
  spec_eq := rfl
  counted := rfl

end CountedWorkload

end Adapter
end K1s
