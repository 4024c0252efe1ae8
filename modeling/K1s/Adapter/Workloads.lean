import K1s.Adapter.Operations
import K1s.Lib.Program

/-!
# Applying workloads

The handlers of Deployments, StatefulSets, DaemonSets, Jobs and CronJobs.  Each
takes the copy of the object that came with an event or was read from the
store, registers an app for it, reconciles the app and writes a status back.

The conversion of an object to a manifest and the reconciliation of an app
belong to other components and are parameters of the worker.
-/

namespace K1s
namespace Adapter

open Py ApiShim Program

def deploymentsResource : Gvr := ⟨"apps", "v1", "deployments"⟩
def statefulsetsResource : Gvr := ⟨"apps", "v1", "statefulsets"⟩
def daemonsetsResource : Gvr := ⟨"apps", "v1", "daemonsets"⟩
def jobsResource : Gvr := ⟨"batch", "v1", "jobs"⟩
def cronjobsResource : Gvr := ⟨"batch", "v1", "cronjobs"⟩
def pvcsResource : Gvr := ⟨"", "v1", "persistentvolumeclaims"⟩

/-- What the reconciliation of an app does: it starts and stops pods of the app,
records rows of it and makes calls. -/
inductive ReconcileOp
  | startPod (name : String)
  | stopPod (name : String)
  | recordRow (table : StateTable) (content : String)
  | call (request : Call)

/-- What such an operation returns. -/
def ReconcileOp.Reply : ReconcileOp → Type
  | .startPod _ => Unit
  | .stopPod _ => Unit
  | .recordRow _ _ => Unit
  | .call request => request.Reply

/-- The reconciliation of an app, as a part of the adapter's programs. -/
def reconcileApp (app : String) {α : Type} :
    Program ReconcileOp ReconcileOp.Reply α → AdapterProgram α
  | .done value => .done value
  | .raise => .raise
  | .perform (.startPod name) next =>
      .perform (.startPod app name) fun reply => reconcileApp app (next reply)
  | .perform (.stopPod name) next =>
      .perform (.stopPod app name) fun reply => reconcileApp app (next reply)
  | .perform (.recordRow table content) next =>
      .perform (.recordRow ⟨table, app, content⟩)
        fun reply => reconcileApp app (next reply)
  | .perform (.call request) next =>
      .perform (.call request) fun reply => reconcileApp app (next reply)

/-- The settings of an adapter, `manifest_from_k8s_workload` with its optional
service, ingress and claim templates, the marking of a manifest as a job, and
`reconcile`. -/
structure Worker where
  settings : Settings
  manifestFrom : K8sObject → Option ServiceSpec → Option IngressSpec → Json → Option Manifest
  asJob : K8sObject → Manifest → Manifest
  reconcile : Manifest → Program ReconcileOp ReconcileOp.Reply Unit

variable (object : K8sObject) (worker : Worker) (sts cj : K8sObject)

def appName : String :=
  appKey object.name object.ns

/-- `int(spec.get(key, default) or default)`. -/
def countOf (spec : Json) (key : String) (default : Int) : Option Int := do
  let value ← spec.lookupD key (.int default)
  (value.or (.int default)).toInt

/-- `obj.metadata.get("generation", 1)`. -/
def generationOf : Option Json :=
  object.metadata.getD "generation" (.int 1)

def condition (type status : String) (reason : Option String) : Json :=
  .dict ([("type", .str type), ("status", .str status)] ++
    match reason with
    | some reason => [("reason", .str reason)]
    | none => [])

def truthText (value : Bool) : String :=
  if value then "True" else "False"

/-! ## Writing a status -/

/-- `(obj.metadata or {}).get("uid")`, with `None` where that raises. -/
def uidOf : Json :=
  (object.metadata.lookup "uid").getD .null

/-- The current object is another one than the copy. -/
def uidChanged (stale current : K8sObject) : Bool :=
  (uidOf stale).truthy && (uidOf current).truthy && decide (uidOf stale ≠ uidOf current)

def upsertCurrentWorkloadStatus
    (gvr : Gvr)
    (status : Json) : AdapterProgram Unit := do
  let current ← storeGet gvr object.ns object.name
  match current with
  | none => return ()
  | some current =>
      if uidChanged object current then return ()
      else
        let _ ← storeUpsertIfNotDeleted (some current) gvr current.ns current.name
          current.metadata current.spec status
        return ()

/-! ## Waiting for claims -/

def pvcIsBound (pvc : K8sObject) : Bool :=
  (pvc.spec.item "volumeName").truthy || decide (pvc.status.item "phase" = .str "Bound")

/-- The names of the claims of a manifest that are not bound. -/
def pendingMounts (ns : String) : List PvcMount → AdapterProgram (List String)
  | [] => .done []
  | mount :: rest =>
      if mount.claimTemplate || mount.claimName = "" then pendingMounts ns rest
      else
        let claimNs :=
          match mount.ns with
          | some own => if own = "" then ns else own
          | none => ns
        (storeGet pvcsResource (some claimNs) mount.claimName).andThen fun pvc =>
          (pendingMounts ns rest).andThen fun others =>
            if pvc.any pvcIsBound then .done others
            else .done ((claimNs ++ "/" ++ mount.claimName) :: others)

def manifestNamespace (manifest : Manifest) : String :=
  match manifest.ns with
  | some ns => if ns = "" then "default" else ns
  | none => "default"

/-- `sorted(_pending_pvc_mounts(manifest))`. -/
def pendingPvcMounts (manifest : Manifest) : AdapterProgram (List String) :=
  (pendingMounts (manifestNamespace manifest) manifest.pvcMounts).andThen
    fun pending => .done (pending.dedup.mergeSort fun first second => first ≤ second)

inductive WaitingKind
  | deployment
  | statefulset
  | daemonset
  deriving DecidableEq

def WaitingKind.gvr : WaitingKind → Gvr
  | .deployment => deploymentsResource
  | .statefulset => statefulsetsResource
  | .daemonset => daemonsetsResource

def pendingStatus
    (desired : Int)
    (pending : List String) : WaitingKind → Option Json
  | .deployment =>
      some (.dict [("replicas", .int desired), ("updatedReplicas", .int 0),
          ("readyReplicas", .int 0), ("availableReplicas", .int 0),
          ("unavailableReplicas", .int desired),
          ("conditions", .list [condition "Available" "False" (some "PVCsNotBound"),
              condition "Progressing" "False" (some "PVCsNotBound")]),
          ("message", .str message)])
  | .statefulset => do
      let generation ← generationOf object
      return .dict [("replicas", .int desired), ("readyReplicas", .int 0),
          ("currentReplicas", .int 0), ("updatedReplicas", .int 0),
          ("currentRevision", generation), ("updateRevision", generation),
          ("conditions", .list [condition "Ready" "False" (some "PVCsNotBound")]),
          ("message", .str message)]
  | .daemonset =>
      some (.dict [("desiredNumberScheduled", .int desired), ("currentNumberScheduled", .int 0),
          ("numberReady", .int 0), ("numberAvailable", .int 0),
          ("updatedNumberScheduled", .int 0), ("message", .str message)])
where
  message : String := "waiting on PVC(s): " ++ String.intercalate ", " pending

def updateWorkloadPendingStatus
    (desired : Int) (pending : List String)
    (kind : WaitingKind) : AdapterProgram Unit := do
  let status ← .ofOption (pendingStatus object desired pending kind)
  let stillExists ← storeGet kind.gvr object.ns object.name
  if stillExists.isSome then upsertCurrentWorkloadStatus object kind.gvr status
  else return ()

/-- Change the set of pending apps, unless the namespace or name is empty. -/
def updatePending
    (update : String × String → List (String × String) →
      List (String × String)) : AdapterProgram Unit :=
  match object.ns with
  | none => .done ()
  | some ns =>
      if ns = "" || object.name = "" then .done ()
      else (locked fun memory =>
        { memory with
          pendingPvcApps := update (ns, object.name) memory.pendingPvcApps }).andThen
        fun _ => .done ()

def recordPendingApp : AdapterProgram Unit :=
  updatePending object fun app pending => pending.insert app

def clearPendingApp : AdapterProgram Unit :=
  updatePending object fun app pending => pending.erase app

/-! ## Removing an app -/

def removeAppFor : AdapterProgram Unit := do
  perform (.removeApp (appName object))
  perform (.deleteRegisteredApp (appName object))
  perform (.deleteAppState (appName object))

/-! ## Deployments, StatefulSets and DaemonSets -/

/-- The key under which the specs of a workload's service and ingress are. -/
def targetRef : TargetRef :=
  (object.ns, .str object.name)

/-- Write the status for the row that the controller has of an app. -/
def reflectStatus
    (gvr : Gvr) (app : String)
    (statusFor : AppStatus → Option Json) : AdapterProgram Unit := do
  let answered : Option (Option AppStatus) ← call (.getStatus app)
  let row ← .ofOption answered
  match row with
  | none => return ()
  | some row => do
      let status ← .ofOption (statusFor row)
      upsertCurrentWorkloadStatus object gvr status

/-- Register and reconcile the app of a manifest and write the status back,
unless claims are missing. -/
def applyManifest
    (object : K8sObject) (manifest : Manifest) (desired : Int) (kind : WaitingKind)
    (statusFor : AppStatus → Option Json) : AdapterProgram Unit := do
  perform (.registerApp manifest)
  let pending ← pendingPvcMounts manifest
  if pending.isEmpty then do
    clearPendingApp object
    reconcileApp (appKeyForManifest manifest) (worker.reconcile manifest)
    reflectStatus object kind.gvr (appKeyForManifest manifest) statusFor
  else do
    updateWorkloadPendingStatus object desired pending kind
    recordPendingApp object

/-- Convert an object with the specs of its service and its ingress and apply
the manifest. -/
def applyWorkload
    (object converted : K8sObject) (templates : Json) (desired : Int) (kind : WaitingKind)
    (statusFor : AppStatus → Option Json) : AdapterProgram Unit := do
  let services ← remembered
  let ingresses ← remembered
  let manifest ← .ofOption (worker.manifestFrom converted
    (services.serviceSpecs.find? (targetRef object))
    (ingresses.ingressSpecs.find? (targetRef object)) templates)
  applyManifest worker object manifest desired kind statusFor

def deploymentStatus (row : AppStatus) : Json :=
  .dict [("replicas", .int row.desiredReplicas), ("updatedReplicas", .int row.liveReplicas),
      ("readyReplicas", .int row.readyReplicas),
      ("availableReplicas", .int row.readyReplicas),
      ("unavailableReplicas", .int (max 0 (row.desiredReplicas - row.readyReplicas))),
      ("conditions", .list [condition "Available"
            (truthText (decide (row.desiredReplicas ≤ row.readyReplicas)))
            (some "MinimumReplicasAvailable"),
          condition "Progressing" "True" (some progress)]),
      ("observedGeneration", .int row.revision)]
where
  progress : String :=
    match row.revisionStatus with
    | some "live" => "NewReplicaSetAvailable"
    | some "" | none => "Progressing"
    | some status => status

def applyDeployment (dep : K8sObject) : AdapterProgram Unit := do
  let desired ← .ofOption (countOf dep.spec "replicas" 1)
  if desired ≤ 0 then do
    perform (.removeApp (appName dep))
    perform (.deleteRegisteredApp (appName dep))
    upsertCurrentWorkloadStatus dep deploymentsResource (.dict
      [("replicas", .int 0), ("updatedReplicas", .int 0), ("readyReplicas", .int 0),
        ("availableReplicas", .int 0),
        ("conditions", .list [condition "Available" "False" (some "ScaledDown"),
            condition "Progressing" "False" (some "ScaledDown")])])
  else
    applyWorkload worker dep dep .null desired .deployment
      fun row => some (deploymentStatus row)

/-- The claim for one ordinal of a StatefulSet's template. -/
def claimMetadata
    (tplMeta ownerRef : Json)
    (ns pvcName : String) : Json :=
  let copied (key : String) : Dict :=
    match tplMeta.item key with
    | .dict [] => []
    | .dict entries => [(key, .dict entries)]
    | _ => []
  .dict ([("name", .str pvcName), ("namespace", .str ns)] ++ copied "labels" ++
    copied "annotations" ++ [("ownerReferences", .list [ownerRef])])

/-- `namespace or "default"`. -/
def nsOrDefault (ns : Option String) : String :=
  match ns with
  | some ns => if ns = "" then "default" else ns
  | none => "default"

/-- Create a claim that is missing. -/
def ensureClaim
    (tpl ownerRef : Json) (tplName : String)
    (ordinal : Nat) : AdapterProgram Unit := do
  let ns := nsOrDefault sts.ns
  let pvcName := tplName ++ "-" ++ sts.name ++ "-" ++ toString ordinal
  let existing ← storeGet pvcsResource (some ns) pvcName
  if existing.isSome then return ()
  else
    let spec : Json := .dict (tpl.item "spec").entries
    let _ ← storeUpsert none pvcsResource (some ns) pvcName
      (claimMetadata (.dict (tpl.item "metadata").entries) ownerRef ns pvcName)
      spec (.dict [])
    return ()

def ensureStatefulsetClaims : AdapterProgram Unit := do
  let templates ← .ofOption (sts.spec.lookup "volumeClaimTemplates")
  match templates with
  | .list (first :: rest) => do
      let replicas := ((countOf sts.spec "replicas" 1).getD 1).toNat
      let uid ← .ofOption (sts.metadata.lookup "uid")
      let ownerRef : Json := .dict
        ([("apiVersion", .str "apps/v1"), ("kind", .str "StatefulSet"),
          ("name", .str sts.name), ("controller", .bool true),
          ("blockOwnerDeletion", .bool true)] ++
          (if uid.truthy then [("uid", uid)] else []))
      forEach (first :: rest) fun tpl =>
        let tplName := (tpl.item "metadata").item "name"
        if tplName.truthy then
          forEach (List.range (max 1 replicas)) fun ordinal =>
            ensureClaim sts tpl ownerRef tplName.toStr ordinal
        else .done ()
  | _ => return ()

def statefulsetStatus (row : AppStatus) : Option Json := do
  let generation ← generationOf sts
  return .dict [("replicas", .int row.desiredReplicas), ("readyReplicas", .int row.readyReplicas),
      ("currentReplicas", .int row.liveReplicas),
      ("updatedReplicas", .int row.liveReplicas),
      ("currentRevision", generation), ("updateRevision", generation),
      ("conditions", .list [condition "Ready"
          (truthText (decide (row.desiredReplicas ≤ row.readyReplicas))) none])]

def applyStatefulset : AdapterProgram Unit := do
  let desired ← .ofOption (countOf sts.spec "replicas" 1)
  if desired ≤ 0 then do
    removeAppFor sts
    let generation ← .ofOption (generationOf sts)
    upsertCurrentWorkloadStatus sts statefulsetsResource (.dict
      [("replicas", .int 0), ("readyReplicas", .int 0), ("currentReplicas", .int 0),
        ("updatedReplicas", .int 0), ("currentRevision", generation),
        ("updateRevision", generation)])
  else do
    ensureStatefulsetClaims sts
    let templates ← .ofOption (sts.spec.lookup "volumeClaimTemplates")
    applyWorkload worker sts sts templates desired .statefulset (statefulsetStatus sts)

/-- The number of replicas of a DaemonSet. -/
def daemonsetDesired (ds : K8sObject) : AdapterProgram Int := do
  let nodes : Option Nat ← call .listNodes
  match nodes with
  | some count => return max 1 (count : Int)
  | none => do
      let replicas ← .ofOption (countOf ds.spec "replicas" 1)
      return max 1 replicas

/-- A copy of an object whose spec has another number of replicas. -/
def withReplicas (replicas : Int) : Option K8sObject :=
  object.spec.asDict.map fun spec =>
    { object with spec := .dict (Dict.set spec "replicas" (.int replicas)) }

def applyDaemonset (ds : K8sObject) : AdapterProgram Unit := do
  let desired ← daemonsetDesired ds
  if desired ≤ 0 then do
    removeAppFor ds
    upsertCurrentWorkloadStatus ds daemonsetsResource (.dict
      [("desiredNumberScheduled", .int 0), ("currentNumberScheduled", .int 0),
        ("numberReady", .int 0), ("numberAvailable", .int 0)])
  else do
    let converted ← .ofOption (withReplicas ds desired)
    applyWorkload worker ds converted .null desired .daemonset fun row =>
      some (.dict [("desiredNumberScheduled", .int desired),
          ("currentNumberScheduled", .int row.liveReplicas),
          ("numberReady", .int row.readyReplicas),
          ("numberAvailable", .int row.readyReplicas),
          ("updatedNumberScheduled", .int row.liveReplicas)])

/-! ## Jobs -/

/-- How many pods of a job run, have succeeded and have failed. -/
structure JobCounts where
  active : Int
  succeeded : Int
  failed : Int

/-- The counts from the pods, or from the row of the app where there are no
pods. -/
def jobCounts
    (pods : List PodStatus) (row : Option AppStatus)
    (parallelism completions : Int) : JobCounts :=
  if pods.isEmpty then
    let succeeded :=
      match row with
      | some row => min row.readyReplicas completions
      | none => 0
    ⟨max 0 (parallelism - succeeded), succeeded, 0⟩
  else
    ⟨(pods.filter fun pod => pod.status = "running").length,
      (pods.filter fun pod => pod.exitCode = some 0).length,
      (pods.filter fun pod =>
        pod.exitCode ≠ none ∧ pod.exitCode ≠ some 0).length⟩

def jobConditions (counts : JobCounts) (completions : Int) : List Json :=
  if completions ≤ counts.succeeded then [condition "Complete" "True" none]
  else if 0 < counts.failed && counts.active = 0 then
    [condition "Failed" "True" none]
  else []

def reflectJob
    (job : K8sObject) (app : String)
    (parallelism completions : Int) : AdapterProgram Unit := do
  let answered : Option (Option AppStatus) ← call (.getStatus app)
  let row ← .ofOption answered
  let listed : Option (List PodStatus) ← call (.listPods app)
  let pods := listed.getD []
  let counts := jobCounts pods row parallelism completions
  let conditions := jobConditions counts completions
  if conditions.isEmpty then writeStatus counts conditions
  else do
    let _ : Unit ← call (.recordEvent app)
    writeStatus counts conditions
where
  writeStatus (counts : JobCounts) (conditions : List Json) : AdapterProgram Unit :=
    upsertCurrentWorkloadStatus job jobsResource (.dict
      [("active", .int counts.active), ("succeeded", .int counts.succeeded),
        ("failed", .int counts.failed), ("conditions", .list conditions)])

def applyJob (job : K8sObject) : AdapterProgram Unit := do
  let parallelism ← .ofOption (countOf job.spec "parallelism" 1)
  let completions ← .ofOption (countOf job.spec "completions" parallelism)
  if parallelism ≤ 0 then do
    removeAppFor job
    upsertCurrentWorkloadStatus job jobsResource (.dict
      [("active", .int 0), ("succeeded", .int 0), ("failed", .int 0), ("conditions", .list [])])
  else do
    let converted ← .ofOption (withReplicas job parallelism)
    let plain ← .ofOption (worker.manifestFrom converted none none .null)
    let manifest := worker.asJob job plain
    perform (.registerApp manifest)
    reconcileApp (appKeyForManifest manifest) (worker.reconcile manifest)
    reflectJob job (appKeyForManifest manifest) parallelism completions

/-! ## CronJobs -/

/-- What to do about a CronJob now. -/
inductive CronDecision
  | fire (conditions : List Json)
  | wait (conditions : List Json)
  | invalid (message : String)

/-- `str(value or "").strip().lower() in {"1", "true", "yes", "on"}`. -/
def truthyText (value : Json) : Bool :=
  ["1", "true", "yes", "on"].contains (lower (strip (value.or (.str "")).toStr))

/-- The condition of a CronJob whose schedule is invalid. -/
def scheduleInvalid (reason message : String) : Json :=
  .dict [("type", .str "ScheduleValid"), ("status", .str "False"), ("reason", .str reason),
    ("message", .str (if message = "" then "invalid cron schedule" else message))]

/-- Fire if enough time has passed. -/
def fireAfter (now last interval : Rat) (conditions : List Json) : CronDecision :=
  if interval ≤ now - last then .fire conditions else .wait conditions

def decideCron
    (annotations schedule : Json) (record : Option CronRecord)
    (now : Rat) : AdapterProgram CronDecision := do
  let last := (record.map CronRecord.lastRun).getD 0
  let interval := annotations.item "cronjob.k1s.dev/intervalSeconds"
  let expression := (annotations.item "cronjob.k1s.dev/schedule").or schedule
  if interval ≠ .null then
    return fireAfter now last (interval.toInt.getD 60) []
  else if expression.truthy then do
    let base :=
      match record.map CronRecord.lastRun with
      | some run => if run = 0 then now - 60 else run
      | none => now - 60
    let next : Except String Rat ← call (.cronNext expression base)
    match next with
    | .ok next => return if next ≤ now then .fire [] else .wait []
    | .error message =>
        if worker.settings.allowInvalidCron ||
            truthyText (annotations.item "cronjob.k1s.dev/allowInvalidScheduleFallback") then
          return fireAfter now last 60 [scheduleInvalid "InvalidScheduleFallback" message]
        else return .invalid message
  else return fireAfter now last 60 []

/-- `spec.get("jobTemplate", {}).get("spec", {})`. -/
def jobTemplateSpec (spec : Json) : Option Json := do
  let template ← spec.lookupD "jobTemplate" (.dict [])
  template.getD "spec" (.dict [])

/-- The spec of the job that a CronJob fires. -/
def firedSpec (spec : Json) : Option Json := do
  let inner ← jobTemplateSpec spec
  let template ← inner.get "template"
  let parallelism ← inner.getD "parallelism" (.int 1)
  let completions ← inner.getD "completions" (.int 1)
  return .dict [("template", template), ("parallelism", parallelism), ("completions", completions)]

/-- The metadata of the job that a CronJob fires. -/
def firedMetadata (name : String) : Option Json := do
  let uid ← cj.metadata.getD "uid" (.str cj.name)
  return .dict [("name", .str name), ("namespace", .str (nsOrDefault cj.ns)),
      ("ownerReferences", .list [.dict [("apiVersion", .str "batch/v1"), ("kind", .str "CronJob"),
          ("name", .str cj.name), ("uid", uid), ("controller", .bool true),
          ("blockOwnerDeletion", .bool true)]])]

/-- Create the job of a CronJob, apply it and remember the time. -/
def fireCronjob (now : Rat) :
    AdapterProgram String := do
  let name := cj.name ++ "-run-" ++ toString (now.num.tdiv now.den)
  let spec ← .ofOption (firedSpec cj.spec)
  let metadata ← .ofOption (firedMetadata cj name)
  let created ← storeUpsert none jobsResource cj.ns name metadata spec (.dict [])
  let job ← .ofOption created
  applyJob worker job
  let schedule : String ← call .timestamp
  let _ ← locked fun memory =>
    { memory with
      cronjobJobs :=
        memory.cronjobJobs.set (cj.ns, cj.name) ⟨name, now, schedule, schedule⟩ }
  return schedule

/-- A text, or `None`. -/
def textOrNull : Option String → Json
  | some text => .str text
  | none => .null

def cronStatus (lastSchedule lastSuccess : Option String) (conditions : List Json) : Json :=
  .dict ([("active", .list []), ("lastScheduleTime", textOrNull lastSchedule),
    ("lastSuccessfulTime", textOrNull lastSuccess)] ++
    if conditions.isEmpty then [] else [("conditions", .list conditions)])

/-- Write a CronJob back as it came with the event, with a new status. -/
def writeCronjob (status : Json) : AdapterProgram Unit := do
  let _ ← storeUpsert (some cj) cronjobsResource cj.ns cj.name cj.metadata cj.spec
    status
  return ()

/-- Whether a CronJob that is not suspended fires. -/
def decideUnsuspended
    (suspend : Bool) (record : Option CronRecord)
    (now : Rat) : AdapterProgram CronDecision :=
  if suspend then .done (.wait [])
  else do
    let annotations ← .ofOption ((cj.metadata.get "annotations").bind fun value =>
      if (value.or (.dict [])).isDict then some (value.or (.dict [])) else none)
    let schedule ← .ofOption (cj.spec.lookup "schedule")
    decideCron worker annotations schedule record now

def applyCronjob : AdapterProgram Unit := do
  let suspend ← .ofOption (cj.spec.lookupD "suspend" (.bool false))
  let now : Rat ← call .now
  let memory ← remembered
  let record := memory.cronjobJobs.find? (cj.ns, cj.name)
  let decision ← decideUnsuspended worker cj suspend.truthy record now
  match decision with
  | .invalid message =>
      writeCronjob cj (cronStatus (record.map CronRecord.lastSchedule)
        (record.map CronRecord.lastSuccess)
        [scheduleInvalid "InvalidSchedule" message])
  | .wait conditions =>
      writeCronjob cj (cronStatus (record.map CronRecord.lastSchedule)
        (record.map CronRecord.lastSuccess) conditions)
  | .fire conditions => do
      let schedule ← fireCronjob worker cj now
      writeCronjob cj (cronStatus (some schedule) (some schedule) conditions)

/-! ## Reconciling again -/

/-- `store.get` with a name that need not be a text. -/
def storeGetNamed (gvr : Gvr) (ns : Option String) (name : Json) :
    AdapterProgram (Option K8sObject) :=
  match name.sqlText with
  | none => .raise
  | some none => .done none
  | some (some text) => storeGet gvr ns text

def triggerReconcile (target : TargetRef) : AdapterProgram Unit :=
  match target.1 with
  | none => .done ()
  | some ns => do
      let dep ← storeGetNamed deploymentsResource (some ns) target.2
      match dep with
      | some dep => applyDeployment worker dep
      | none => do
          let sts ← storeGetNamed statefulsetsResource (some ns) target.2
          match sts with
          | some sts => applyStatefulset worker sts
          | none => do
              let ds ← storeGetNamed daemonsetsResource (some ns) target.2
              match ds with
              | some ds => applyDaemonset worker ds
              | none => return ()

/-- One pass of `_pvc_requeue_loop`, in some order of the set. -/
def requeuePending : AdapterProgram Unit := do
  let memory ← remembered
  forEach memory.pendingPvcApps fun app =>
    triggerReconcile worker (some app.1, .str app.2)

def rescanWorkload
    (object : K8sObject) (templates : Json)
    (apply : K8sObject → AdapterProgram Unit) : AdapterProgram Unit := do
  let services ← remembered
  let ingresses ← remembered
  let manifest ← .ofOption (worker.manifestFrom object
    (services.serviceSpecs.find? (targetRef object))
    (ingresses.ingressSpecs.find? (targetRef object)) templates)
  let pending ← pendingPvcMounts manifest
  if pending.isEmpty then apply object else return ()

def rescanPvcWorkloads : AdapterProgram Unit := do
  let deps ← storeListAll deploymentsResource
  forEach deps fun dep => rescanWorkload worker dep .null (applyDeployment worker)
  let stss ← storeListAll statefulsetsResource
  forEach stss fun sts => do
    let templates ← .ofOption (sts.spec.lookup "volumeClaimTemplates")
    rescanWorkload worker sts templates (applyStatefulset worker)
  let dss ← storeListAll daemonsetsResource
  forEach dss fun ds => rescanWorkload worker ds .null (applyDaemonset worker)

/-- The volumes of a workload's pods, and none where reading them raises. -/
def podVolumes : Option (List Json) :=
  match volumes with
  | some value => value.asList
  | none => some []
where
  volumes : Option Json := do
    let template ← object.spec.lookup "template"
    let spec ← template.lookup "spec"
    spec.lookup "volumes"

def workloadUsesPvc (claimName : String) : Option Bool :=
  (podVolumes object).map fun volumes => volumes.any fun volume =>
    let claim := (volume.item "persistentVolumeClaim").item "claimName"
    claim.truthy && decide (claim.toStr = claimName)

def applyDependents
    (gvr : Gvr) (ns claimName : String)
    (apply : K8sObject → AdapterProgram Unit) : AdapterProgram Unit := do
  let objects ← storeListAll gvr
  forEach objects fun object =>
    if object.ns = some ns then do
      let uses ← .ofOption (workloadUsesPvc object claimName)
      if uses then apply object else .done ()
    else .done ()

def reconcileDependentsForPvc (pvc : K8sObject) : AdapterProgram Unit :=
  match pvc.ns with
  | none => .done ()
  | some ns =>
      if ns = "" || pvc.name = "" then .done ()
      else do
        applyDependents deploymentsResource ns pvc.name (applyDeployment worker)
        applyDependents statefulsetsResource ns pvc.name (applyStatefulset worker)
        applyDependents daemonsetsResource ns pvc.name (applyDaemonset worker)

end Adapter
end K1s
