import K1s.Adapter.Watches

/-!
# Horizontal pod autoscalers

`_apply_hpa` compares the measured load of a workload with the targets of an
autoscaler, writes the new number of replicas to the workload and a status to
the autoscaler.  The measured values are rationals.
-/

namespace K1s
namespace Adapter

open Py ApiShim Program

def hpasResource : Gvr := ⟨"autoscaling", "v2", "horizontalpodautoscalers"⟩

/-! ## Numbers -/

/-- `int(value)` of a finite float. -/
def truncated (value : Rat) : Int :=
  value.num.tdiv value.den

variable (replicas desired : Int) (measured : Metrics) (worker : Worker)

/-- `max(1, math.ceil(replicas * float(current) / float(target)))`. -/
def scaledReplicas (current : Rat) : PyFloat → Option Int
  | .finite target =>
      if target = 0 then none else some (max 1 ⌈replicas * current / target⌉)
  | .inf _ => some 1
  | .nan => none

def unitFactor (unit : String) : Option Nat :=
  if unit = "b" then some 1
  else if ["k", "kb", "ki"].contains unit then some 1024
  else if ["m", "mb", "mi"].contains unit then some (1024 ^ 2)
  else if ["g", "gb", "gi"].contains unit then some (1024 ^ 3)
  else none

def parseQuantityBytes (raw : String) : Option Int :=
  let text := strip raw
  if isDigits text then some (digitsValue text.toList)
  else do
    let isNumber (character : Char) : Bool := character.isDigit || character = '.'
    let factor ← unitFactor (lower (String.ofList (text.toList.filter (!isNumber ·))))
    match ← floatOfText (String.ofList (text.toList.filter isNumber)) with
    | .finite value => return truncated (value * factor)
    | _ => none

def fmtBytes (value : Rat) : String :=
  if 1024 ^ 2 ≤ value then toString (truncated (value / 1024 ^ 2)) ++ "Mi"
  else if 1024 ≤ value then toString (truncated (value / 1024)) ++ "Ki"
  else toString (truncated value)

/-! ## Metrics -/

def metricEntry (name : String) (current : Dict) (target : Json) : Json :=
  .dict [("type", .str "Resource"), ("resource", .dict
    [("name", .str name), ("current", .dict current), ("target", target)])]

/-- The replicas for a target that is a number, or the given ones where there is
no measurement, no target, or no number. -/
def replicasFor
    (current : Option Rat)
    (target : Json) : Int :=
  match current with
  | some current =>
      if target.truthy then
        (target.toFloat.bind (scaledReplicas replicas current)).getD desired
      else desired
  | none => desired

/-- The measured utilization, as the status has it. -/
def utilization : Option Rat → Dict
  | some value => [("averageUtilization", .int (truncated value))]
  | none => []

def cpuMetric (target : Json) :
    Option (Int × Json) := do
  let wanted := firstTrue
    [← target.get "averageUtilization", ← target.get "value", ← target.get "averageValue"]
  return (replicasFor replicas desired measured.cpuUtil wanted,
    metricEntry "cpu" (utilization measured.cpuUtil) target)

/-- The branch for memory with a target in bytes. -/
def memoryBytesMetric (target : Json) :
    Option (Int × Json) := do
  let wanted := (← target.get "averageValue").or (← target.get "value")
  match measured.memBytes with
  | some bytes =>
      if wanted = .null then return (desired, metricEntry "memory" [] target)
      else
        let scaled :=
          match parseQuantityBytes wanted.toStr with
          | some limit =>
              if limit = 0 then desired
              else (scaledReplicas replicas bytes (.finite limit)).getD desired
          | none => desired
        return (scaled, metricEntry "memory" [("averageValue", .str (fmtBytes bytes))] target)
  | none => return (desired, metricEntry "memory" [] target)

/-- The branch for memory with a target in percent. -/
def memoryUtilMetric (target : Json) :
    Option (Int × Json) := do
  let wanted ← target.get "averageUtilization"
  return (replicasFor replicas desired measured.memUtil wanted,
    metricEntry "memory" (utilization measured.memUtil) target)

def lowered (value : Json) (default : String) : Option String :=
  match value.or (.str default) with
  | .str text => some (lower text)
  | _ => none

/-- One turn of the loop over the metrics: the replicas that the metric asks for
and its entry, unless it is left out. -/
def readMetric (metric : Json) :
    Option (Option (Int × Json)) := do
  if (← metric.get "type") = .str "Resource" then
    let resource := (← metric.get "resource").or (.dict [])
    let name ← lowered (← resource.get "name") ""
    let target := (← resource.get "target").or (.dict [])
    let targetType ← lowered (← target.get "type") "Utilization"
    if name = "cpu" then
      return some (← cpuMetric replicas desired measured target)
    else if name = "memory" then
      if targetType = "value" ∨ targetType = "averagevalue" then
        return some (← memoryBytesMetric replicas desired measured target)
      else return some (← memoryUtilMetric replicas desired measured target)
    else return none
  else return none

/-- The loop over the metrics. -/
def readMetrics (replicas : Int) (measured : Metrics) :
    Int → List Json → Option (Int × List Json)
  | desired, [] => some (desired, [])
  | desired, metric :: rest => do
      match ← readMetric replicas desired measured metric with
      | none => readMetrics replicas measured desired rest
      | some (wanted, entry) => do
          let (final, entries) ←
            readMetrics replicas measured (max desired wanted) rest
          return (final, entry :: entries)

/-! ## Scaling -/

/-- `_resolve_target_gvr`, with a kind in lower case. -/
def resolveTargetGvr (apiVersion : Json) (kind : String) : Option (Option Gvr) :=
  if kind = "deployment" then some (some deploymentsResource)
  else if kind = "statefulset" then some (some statefulsetsResource)
  else if kind = "daemonset" then some (some daemonsetsResource)
  else if kind = "replicaset" then some (some ⟨"apps", "v1", "replicasets"⟩)
  else if kind = "job" then some (some jobsResource)
  else do
    let slash ← apiVersion.contains "/"
    match apiVersion with
    | .str text =>
        if kind = "" then return none
        else if slash then
          return some ⟨String.ofList (text.toList.takeWhile (· ≠ '/')),
              String.ofList ((text.toList.dropWhile (· ≠ '/')).drop 1), kind ++ "s"⟩
        else return some ⟨"", text, kind ++ "s"⟩
    -- A list or a dictionary has no `split` and cannot be bound to a statement.
    | _ => if slash then none else if kind = "" then return none else none

/-- The workload that an autoscaler scales. -/
structure ScaleTarget where
  gvr : Gvr
  kind : String
  name : String
  app : String
  object : K8sObject

/-- Look the workload of an autoscaler up. -/
def scaleTargetOf (hpa : K8sObject) : AdapterProgram (Option ScaleTarget) := do
  let ref ← .ofOption (hpa.spec.lookup "scaleTargetRef")
  let name ← .ofOption (ref.lookup "name")
  let kind ← .ofOption ((ref.lookup "kind").bind (lowered · ""))
  let apiVersion ← .ofOption (ref.lookupD "apiVersion" (.str "apps/v1"))
  if name.truthy then do
    let resolved ← .ofOption (resolveTargetGvr apiVersion kind)
    match resolved with
    | none => return none
    | some gvr => do
        let found ← storeGetNamed gvr hpa.ns name
        return found.map fun object =>
          ⟨gvr, kind, (name.sqlText.join).getD "", appKey name.toStr hpa.ns, object⟩
  else return none

/-- The current, least and greatest number of replicas. -/
def scaleLimits (hpa target : K8sObject) : Option (Int × Int × Int) := do
  let replicas ← target.spec.getD "replicas" (.int 1)
  let current ← (replicas.or (.int 1)).toInt
  let least ← hpa.spec.lookupD "minReplicas" (.int current)
  let minimum ← (firstTrue [least, .int current, .int 1]).toInt
  let greatest ← hpa.spec.lookupD "maxReplicas" (.int (max minimum current))
  let maximum ← (greatest.or (.int (max minimum current))).toInt
  return (current, minimum, maximum)

def applyScaled (kind : String) (object : K8sObject) : AdapterProgram Unit :=
  if kind = "deployment" then applyDeployment worker object
  else if kind = "statefulset" then applyStatefulset worker object
  else if kind = "daemonset" then applyDaemonset worker object
  else .done ()

/-- Record that an app was scaled, unless its status cannot be read. -/
def recordScaled (app : String) : AdapterProgram Unit := do
  let answered : Option (Option AppStatus) ← call (.getStatus app)
  match answered with
  | none => return ()
  | some _ => do
      let _ : Unit ← call (.recordEvent app)
      return ()

/-- Write the new number of replicas and apply the workload. -/
def rescale
    (hpa : K8sObject) (target : ScaleTarget) (desired : Int)
    (now : Rat) : AdapterProgram String := do
  let _ ← locked fun memory =>
    { memory with hpaLastScale := memory.hpaLastScale.set target.app now }
  let time : String ← call .timestamp
  let spec ← .ofOption target.object.spec.asDict
  let written ← storeUpsert (some target.object) target.gvr hpa.ns target.name
    target.object.metadata (.dict (Dict.set spec "replicas" (.int desired)))
    target.object.status
  let updated ← .ofOption written
  applyScaled worker target.kind updated
  recordScaled target.app
  return time

/-- Scale the workload unless it was scaled a short time ago: whether it was, and
the time of the scaling. -/
def scaleUnlessLimited
    (hpa : K8sObject) (target : ScaleTarget)
    (current desired : Int) : AdapterProgram (Bool × Option String) := do
  let now : Rat ← call .now
  let memory ← remembered
  let last := (memory.hpaLastScale.find? target.app).getD 0
  if desired = current then return (false, none)
  else if now - last < worker.settings.hpaCooldownSeconds then return (true, none)
  else do
    let time ← rescale worker hpa target desired now
    return (false, some time)

/-- The time of the last scaling, in the status. -/
def lastScaleTime (hpa : K8sObject) (time : Option String) : Option Dict :=
  match time with
  | some time => some [("lastScaleTime", .str time)]
  | none => do
      let former ← hpa.status.lookup "lastScaleTime"
      return if former.truthy then [("lastScaleTime", former)] else []

def hpaStatus
    (hpa : K8sObject) (current minimum maximum desired : Int) (active limited : Bool)
    (metrics : List Json)
    (time : Option String) : Option Json := do
  let last ← lastScaleTime hpa time
  let generation :=
    if hpa.metadata.isDict then
      (Dict.find? hpa.metadata.entries "generation").getD (.int 1)
    else .int 1
  return .dict ([("currentReplicas", .int current), ("desiredReplicas", .int desired),
    ("conditions", .list [condition "AbleToScale" "True" none,
        condition "ScalingActive" (truthText active) none,
        condition "ScalingLimited"
          (truthText (limited || desired = minimum || desired = maximum)) none]),
    ("currentMetrics", .list metrics), ("observedGeneration", generation)] ++ last)

/-- Evaluate an autoscaler whose workload is there. -/
def evaluateHpa (hpa : K8sObject) (target : ScaleTarget) :
    AdapterProgram Unit := do
  let (current, minimum, maximum) ← .ofOption (scaleLimits hpa target.object)
  let metricsSpec ← .ofOption (hpa.spec.lookup "metrics")
  let measured : Metrics ← call (.metrics target.app)
  let metrics ← .ofOption (metricsSpec.or (.list [])).iterate
  let (wanted, entries) ← .ofOption (readMetrics current measured current metrics)
  let desired := min (max wanted minimum) maximum
  let (limited, time) ← scaleUnlessLimited worker hpa target current desired
  let status ← .ofOption (hpaStatus hpa current minimum maximum desired
    metricsSpec.truthy limited entries time)
  let _ ← storeUpsert (some hpa) hpasResource hpa.ns hpa.name hpa.metadata hpa.spec
    status
  return ()

def applyHpa (hpa : K8sObject) : AdapterProgram Unit := do
  let target ← scaleTargetOf hpa
  match target with
  | none => return ()
  | some target => evaluateHpa worker hpa target

/-- The body of the loop `_watch_hpa`. -/
def handleHpaEvent (type : EventType) (hpa : K8sObject) : AdapterProgram Unit :=
  if type = .deleted then .done () else applyHpa worker hpa

end Adapter
end K1s
