import K1s.Adapter.Autoscaling
import K1s.Controllers.CronJobs
import K1s.Lib.RunningMax

/-!
# The autoscaler of the controllers

`HPAAuthorityController._reconcile_hpa` folds the metrics of an autoscaler into a number
of replicas, clamps it to the bounds and registers the workload with it.  The fold starts
with the present number of replicas.

The main result says when the number is the clamp of the greatest one that a usable metric
asks for: exactly if the present number, as far as the upper bound allows it, is within
the lower bound or within what some metric asks for.
-/

namespace K1s
namespace Controllers

open Py
open Adapter (appKey fmtBytes metricEntry scaledReplicas truncated)

/-! ## Workloads and their metrics -/

/-- `WorkloadMetricsSnapshot`, with its time in microseconds. -/
structure WorkloadMetricsSnapshot where
  controllerEpoch : Int
  collectedAt : Int
  cpuUtilization : Option Rat
  memoryUtilization : Option Rat
  memoryBytes : Int
  podCount : Int

/-- The `requests` of a `ResourcesSpec`. -/
structure ResourceQuantities where
  cpu : Option PyFloat
  memory : Option String

/-- What the autoscaler reads of an `AppManifest`. -/
structure ScaledManifest where
  replicas : Nat
  resources : Option ResourceQuantities
  containers : List (Option ResourceQuantities)

/-- The sum of two floats. -/
def addFloats : PyFloat → PyFloat → PyFloat
  | .finite first, .finite second => .finite (first + second)
  | .nan, _ | _, .nan => .nan
  | .inf first, .inf second => if first = second then .inf first else .nan
  | .inf negative, .finite _ | .finite _, .inf negative => .inf negative

/-- The factor of a unit, `suffixes.get(unit)`. -/
def byteFactor (unit : String) : Option Nat :=
  if ["t", "tb", "ti"].contains unit then some (1024 ^ 4) else Adapter.unitFactor unit

def parseQuantityBytes (raw : String) : Option Int :=
  let text := strip raw
  if isDigits text then some (digitsValue text.toList)
  else do
    let isNumber (character : Char) : Bool := character.isDigit || character = '.'
    let factor ← byteFactor (lower (String.ofList (text.toList.filter (!isNumber ·))))
    match ← floatOfText (String.ofList (text.toList.filter isNumber)) with
    | .finite value => return truncated (value * factor)
    | _ => none

namespace ScaledManifest

variable (manifest : ScaledManifest)

/-- `_iter_request_specs`, as far as there are requests. -/
def requestSpecs : List ResourceQuantities :=
  (manifest.resources :: manifest.containers).filterMap id

/-- `_manifest_has_cpu_requests`.  The text of a float reads as that float. -/
def hasCpuRequests : Bool :=
  let parsed := manifest.requestSpecs.filterMap ResourceQuantities.cpu
  !parsed.isEmpty && (PyFloat.finite 0).lt (parsed.foldl addFloats (.finite 0))

/-- `_manifest_has_memory_requests`. -/
def hasMemoryRequests : Bool :=
  let parsed := manifest.requestSpecs.filterMap fun spec => spec.memory.bind parseQuantityBytes
  !parsed.isEmpty && decide (0 < parsed.sum)

end ScaledManifest

/-! ## One metric -/

/-- What one turn of the loop over the metrics adds. -/
structure MetricReport where
  desired : Int
  active : Bool
  entry : Option Json
  message : String

/-- `float(target_pct)`, which an integer beyond all floats refuses. -/
def targetFloat : Json → Option PyFloat
  | .int value => if floatLimit ≤ |(value : Rat)| then none else some (.finite value)
  | value => value.toFloat

/-- A metric that says how many percent of what is requested is used. -/
def utilizationReport
    (name : String) (replicas : Nat) (measured : Option Rat) (requested : Bool)
    (target : Json) : MetricReport :=
  let unusable (message : String) : MetricReport :=
    ⟨replicas, false, some (metricEntry name [] target), message⟩
  match measured with
  | none => unusable (name ++ " metrics unavailable")
  | some current =>
      if !requested then unusable (name ++ " requests required for HPA utilization")
      else
        match (targetFloat (target.item "averageUtilization")).bind
            (scaledReplicas replicas current) with
        | none => unusable ("invalid " ++ name ++ " target")
        | some desired =>
            ⟨desired, true,
              some (metricEntry name [("averageUtilization", .int (truncated current))] target), ""⟩

/-- The bytes of a pod. -/
def WorkloadMetricsSnapshot.averageBytes (snapshot : WorkloadMetricsSnapshot) : Option Rat :=
  if 0 < snapshot.podCount then some (snapshot.memoryBytes / snapshot.podCount) else none

/-- The bytes that a pod should use. -/
def targetBytes (target : Json) : Option Int :=
  (parseQuantityBytes
    ((target.item "averageValue").or ((target.item "value").or (.str ""))).toStr).filter
      fun bytes => decide (0 < bytes)

/-- A metric that says how many bytes a pod uses. -/
def averageValueReport
    (replicas : Nat) (snapshot : WorkloadMetricsSnapshot)
    (target : Json) : MetricReport :=
  match snapshot.averageBytes, targetBytes target with
  | some average, some limit =>
      ⟨max 1 ⌈replicas * average / limit⌉, true,
        some (metricEntry "memory" [("averageValue", .str (fmtBytes average))] target), ""⟩
  | _, _ =>
      ⟨replicas, false, some (metricEntry "memory" [] target),
        "memory average value metrics unavailable"⟩

section Metrics

variable (snapshot : WorkloadMetricsSnapshot) (manifest : ScaledManifest)

/-- The name and the target of a metric that the loop does not skip. -/
def resourceMetric (metric : Json) : Option (String × Json) :=
  if metric.isDict ∧ ((metric.item "type").or (.str "")).toStr = "Resource" ∧
      (metric.item "resource").isDict ∧ ((metric.item "resource").item "target").isDict then
    some (lower (strip (((metric.item "resource").item "name").or (.str "")).toStr),
      (metric.item "resource").item "target")
  else none

/-- Whether the target of a memory metric is a number of bytes. -/
def isAverageValue (target : Json) : Bool :=
  lower (strip ((target.item "type").or (.str "")).toStr) = "averagevalue"

/-- One turn of the loop over the metrics, for a metric that it does not skip. -/
def metricReport (replicas : Nat) (metric : String × Json) : MetricReport :=
  if metric.1 = "cpu" then
    utilizationReport "cpu" replicas snapshot.cpuUtilization manifest.hasCpuRequests metric.2
  else if metric.1 = "memory" then
    if isAverageValue metric.2 then averageValueReport replicas snapshot metric.2
    else
      utilizationReport "memory" replicas snapshot.memoryUtilization manifest.hasMemoryRequests
        metric.2
  else ⟨replicas, false, none, ""⟩

/-- What the loop over the metrics has so far. -/
structure Evaluation where
  desired : Int
  active : Bool
  currentMetrics : List Json
  message : String

/-- The loop takes the report of a metric. -/
def Evaluation.add (evaluation : Evaluation) (report : MetricReport) : Evaluation where
  desired := max evaluation.desired report.desired
  active := evaluation.active || report.active
  currentMetrics := evaluation.currentMetrics ++ report.entry.toList
  message := if evaluation.message = "" then report.message else evaluation.message

/-- The metrics of an autoscaler that the loop does not skip, with `none` for an exception. -/
def specMetrics (spec : Dict) : Option (List (String × Json)) :=
  (((Dict.get spec "metrics").or (.list [])).iterate).map (·.filterMap resourceMetric)

/-- `_desired_replicas`, for the metrics that the loop does not skip. -/
def desiredReplicas (replicas : Nat) (metrics : List (String × Json)) : Evaluation :=
  (metrics.map (metricReport snapshot manifest replicas)).foldl Evaluation.add
    ⟨replicas, false, [], ""⟩

end Metrics

/-! ## One pass -/

/-- The store, as a pass reads it: whether the registration of the workload changes before
the pass writes it. -/
structure HpaStore where
  registered : String → Option ScaledManifest
  snapshots : String → Option WorkloadMetricsSnapshot
  changes : Bool

/-- `AuthorityObjectEntry` of an autoscaler. -/
structure HpaEntry where
  ns : String
  spec : Dict
  lastScaleTime : StatusTime

/-- `_reconcile_hpa` of an entry: the epoch of the leader, if the controller leads, the
time, and the greatest age of a snapshot and the cooldown in microseconds. -/
structure HpaPass where
  store : HpaStore
  entry : HpaEntry
  leaderEpoch : Option Int
  now : Int
  metricsMaxAge : Int
  cooldown : Int

/-- What `_reconcile_hpa` writes to the status, and the replicas that it registers. -/
structure HpaOutcome where
  currentReplicas : Nat
  desiredReplicas : Int
  currentMetrics : List Json
  lastScaleTime : StatusTime
  able : Bool
  active : Bool
  limited : Bool
  message : String
  registered : Option Int

/-- The bounds of the replicas, with `none` for an exception. -/
def replicaBounds (spec : Dict) (current : Nat) : Option (Int × Int) := do
  let default : Int := max 1 current
  let least ← (((Dict.find? spec "minReplicas").getD (.int default)).or (.int default)).toInt
  let default : Int := max least current
  let greatest ← (((Dict.find? spec "maxReplicas").getD (.int default)).or (.int default)).toInt
  return (least, greatest)

namespace HpaPass

variable (pass : HpaPass)

/-- `scaleTargetRef`. -/
def target : Json :=
  let ref := Dict.get pass.entry.spec "scaleTargetRef"
  if ref.isDict then ref else .dict []

def appName : Option String :=
  let name := strip ((pass.target.item "name").or (.str "")).toStr
  if name = "" then none
  else some (appKey name (some (if pass.entry.ns = "" then "default" else pass.entry.ns)))

/-- The registration of the workload. -/
def registryEntry : Option ScaledManifest :=
  pass.appName.bind pass.store.registered

/-- The present number of replicas. -/
def currentReplicas : Nat :=
  (pass.registryEntry.map ScaledManifest.replicas).getD 0

/-- Whether the kind of the workload is one of `_TARGET_RESOURCES`. -/
def supported : Bool :=
  ["deployment", "statefulset", "daemonset"].contains
    (lower (strip ((pass.target.item "kind").or (.str "")).toStr))

def isFresh (epoch : Int) (snapshot : WorkloadMetricsSnapshot) : Bool :=
  snapshot.controllerEpoch = epoch ∧ pass.now - snapshot.collectedAt ≤ max 0 pass.metricsMaxAge

def evaluated (epoch : Int) : Option (ScaledManifest × WorkloadMetricsSnapshot) :=
  (if pass.supported then pass.registryEntry else none).bind fun manifest =>
    ((pass.appName.bind pass.store.snapshots).filter (pass.isFresh epoch)).map fun snapshot =>
      (manifest, snapshot)

/-- The number of replicas before the clamp, with `none` for an exception. -/
def evaluate (epoch : Int) : Option Evaluation :=
  let unscaled (message : String) : Evaluation := ⟨pass.currentReplicas, false, [], message⟩
  if !pass.supported || pass.registryEntry.isNone then
    some (unscaled "target workload not found or unsupported")
  else
    match pass.evaluated epoch with
    | none => some (unscaled "fresh workload metrics unavailable")
    | some (manifest, snapshot) =>
        (specMetrics pass.entry.spec).map (desiredReplicas snapshot manifest pass.currentReplicas)

/-- The clamped number of replicas is registered, unless it is the present one, the last
scaling is recent, or the registration has changed. -/
def scale (evaluation : Evaluation) (desired : Int) : Option HpaOutcome :=
  let able := pass.supported && pass.registryEntry.isSome
  let unscaled : HpaOutcome :=
    { currentReplicas := pass.currentReplicas
      desiredReplicas := desired
      currentMetrics := evaluation.currentMetrics
      lastScaleTime := pass.entry.lastScaleTime
      able := able
      active := evaluation.active
      limited := decide (desired ≠ evaluation.desired)
      message := evaluation.message
      registered := none }
  if able ∧ evaluation.active ∧ desired ≠ pass.currentReplicas then
    pass.entry.lastScaleTime.parse.map fun last =>
      if last.any fun last => decide (pass.now - last < pass.cooldown) then
        { unscaled with limited := true }
      else if pass.store.changes then
        { unscaled with
          able := false
          message := "target workload changed during HPA reconcile" }
      else
        { unscaled with
          lastScaleTime := .written (wholeSeconds pass.now)
          registered := some desired }
  else some unscaled

/-- `_reconcile_hpa`: nothing unless the controller leads, with an outer `none` for an
exception. -/
def reconcile : Option (Option HpaOutcome) :=
  match pass.leaderEpoch with
  | none => some none
  | some epoch => do
      let evaluation ← pass.evaluate epoch
      let (least, greatest) ← replicaBounds pass.entry.spec pass.currentReplicas
      let outcome ← pass.scale evaluation (min (max evaluation.desired least) greatest)
      return some outcome

def measuring (snapshot : WorkloadMetricsSnapshot) : HpaPass :=
  { pass with store := { pass.store with snapshots := fun _ => some snapshot } }

end HpaPass

/-! ## What the metrics ask for -/

/-- The measured value over its target, which is zero for an infinite target, with `none`
for a target that cannot be used. -/
def loadOf (value : Rat) : PyFloat → Option Rat
  | .finite target => if target = 0 then none else some (value / target)
  | .inf _ => some 0
  | .nan => none

/-- The load of a metric in percent of what is requested. -/
def utilizationLoad (measured : Option Rat) (requested : Bool) (target : Json) : Option Rat := do
  let value ← measured
  let limit ← if requested then targetFloat (target.item "averageUtilization") else none
  loadOf value limit

/-- The load of a metric in bytes of a pod. -/
def averageValueLoad (snapshot : WorkloadMetricsSnapshot) (target : Json) : Option Rat := do
  let average ← snapshot.averageBytes
  let limit ← targetBytes target
  return average / limit

def metricLoad
    (snapshot : WorkloadMetricsSnapshot) (manifest : ScaledManifest)
    (metric : String × Json) : Option Rat :=
  if metric.1 = "cpu" then
    utilizationLoad snapshot.cpuUtilization manifest.hasCpuRequests metric.2
  else if metric.1 = "memory" then
    if isAverageValue metric.2 then averageValueLoad snapshot metric.2
    else utilizationLoad snapshot.memoryUtilization manifest.hasMemoryRequests metric.2
  else none

/-- `max(1, ceil(current * value / target))`. -/
def wantedReplicas (replicas : Nat) (load : Rat) : Int := max 1 ⌈replicas * load⌉

/-- The numbers of replicas that the usable metrics ask for. -/
def wishes
    (snapshot : WorkloadMetricsSnapshot) (manifest : ScaledManifest) (replicas : Nat)
    (metrics : List (String × Json)) : Set Int :=
  {wish | ∃ metric ∈ metrics, ∃ load,
    metricLoad snapshot manifest metric = some load ∧ wantedReplicas replicas load = wish}

/-- A value that is not measured, or one that has grown. -/
inductive Grown : Option Rat → Option Rat → Prop
  | unmeasured : Grown none none
  | measured {first second : Rat} (less : first ≤ second) : Grown (some first) (some second)

/-- The measured values are not negative. -/
structure WorkloadMetricsSnapshot.Nonnegative (snapshot : WorkloadMetricsSnapshot) : Prop where
  cpu : ∀ value ∈ snapshot.cpuUtilization, 0 ≤ value
  memory : ∀ value ∈ snapshot.memoryUtilization, 0 ≤ value
  average : ∀ value ∈ snapshot.averageBytes, 0 ≤ value

/-- The target in percent is positive. -/
def PositiveTarget (target : Json) : Prop :=
  ∀ limit ∈ targetFloat (target.item "averageUtilization"), (PyFloat.finite 0).lt limit = true

/-- The measured values of an evaluation have grown, where a greater value is a greater
load: the values are not negative, or the targets are positive. -/
structure Raised
    (metrics : List (String × Json))
    (first second : WorkloadMetricsSnapshot) : Prop where
  controllerEpoch : second.controllerEpoch = first.controllerEpoch
  collectedAt : second.collectedAt = first.collectedAt
  cpu : Grown first.cpuUtilization second.cpuUtilization
  memory : Grown first.memoryUtilization second.memoryUtilization
  average : Grown first.averageBytes second.averageBytes
  sense : first.Nonnegative ∨ ∀ metric ∈ metrics, PositiveTarget metric.2

/-- The number of replicas is the clamp of the greatest one that a usable metric asks for,
it is the one that is registered, and it does not fall when a value grows. -/
structure FollowsMetrics
    (pass : HpaPass) (manifest : ScaledManifest) (snapshot : WorkloadMetricsSnapshot)
    (metrics : List (String × Json)) (least greatest : Int)
    (outcome : HpaOutcome) : Prop where
  clamped : ∀ top, IsGreatest (wishes snapshot manifest pass.currentReplicas metrics) top →
    outcome.desiredReplicas = min (max top least) greatest
  registers : ∀ replicas ∈ outcome.registered, replicas = outcome.desiredReplicas
  monotone : ∀ higher later, Raised metrics snapshot higher →
    (pass.measuring higher).reconcile = some (some later) →
      outcome.desiredReplicas ≤ later.desiredReplicas

/-- The present number, as far as the upper bound allows it, is within the lower bound, or
within what a usable metric asks for. -/
def HeldUp
    (snapshot : WorkloadMetricsSnapshot) (manifest : ScaledManifest) (replicas : Nat)
    (metrics : List (String × Json))
    (least greatest : Int) : Prop :=
  min (replicas : Int) greatest ≤ max 1 least ∨
    ∃ metric ∈ metrics, ∃ load, metricLoad snapshot manifest metric = some load ∧
      ((min (replicas : Int) greatest : Int) : Rat) - 1 < replicas * load

/-! ## The loop -/

theorem loadOf_finite (value target : Rat) :
    loadOf value (.finite target) = if target = 0 then none else some (value / target) := rfl

theorem scaledReplicas_eq (replicas : Nat) (value : Rat) (target : PyFloat) :
    scaledReplicas replicas value target =
      (loadOf value target).map (wantedReplicas replicas) := by
  cases target with
  | finite limit =>
      by_cases zero : limit = 0
      · simp [scaledReplicas, loadOf, zero]
      · simp [scaledReplicas, loadOf, zero, wantedReplicas, mul_div_assoc]
  | inf negative => simp [scaledReplicas, loadOf, wantedReplicas]
  | nan => rfl

theorem utilizationReport_desired
    (name : String) (replicas : Nat) (measured : Option Rat) (requested : Bool) (target : Json) :
    (utilizationReport name replicas measured requested target).desired =
      ((utilizationLoad measured requested target).map (wantedReplicas replicas)).getD
        replicas := by
  cases measured with
  | none => rfl
  | some value =>
      cases requested with
      | false => rfl
      | true =>
          cases limit : targetFloat (target.item "averageUtilization") with
          | none => simp [utilizationReport, utilizationLoad, limit]
          | some limit' =>
              cases load : loadOf value limit' <;>
                simp [utilizationReport, utilizationLoad, limit, scaledReplicas_eq, load]

theorem averageValueReport_desired
    (replicas : Nat) (snapshot : WorkloadMetricsSnapshot) (target : Json) :
    (averageValueReport replicas snapshot target).desired =
      ((averageValueLoad snapshot target).map (wantedReplicas replicas)).getD replicas := by
  cases average : snapshot.averageBytes with
  | none => simp [averageValueReport, averageValueLoad, average]
  | some average' =>
      cases limit : targetBytes target <;>
        simp [averageValueReport, averageValueLoad, average, limit, wantedReplicas, mul_div_assoc]

section Evaluate

variable (snapshot : WorkloadMetricsSnapshot) (manifest : ScaledManifest) (replicas : Nat)

/-- A metric asks for the replicas of its load, or for the present ones. -/
theorem metricReport_desired (metric : String × Json) :
    (metricReport snapshot manifest replicas metric).desired =
      ((metricLoad snapshot manifest metric).map (wantedReplicas replicas)).getD replicas := by
  unfold metricReport metricLoad
  split
  · exact utilizationReport_desired ..
  · split
    · split
      · exact averageValueReport_desired ..
      · exact utilizationReport_desired ..
    · rfl

/-- The loop keeps the greatest number. -/
theorem foldl_add_desired (reports : List MetricReport) (start : Evaluation) :
    (reports.foldl Evaluation.add start).desired =
      RunningMax.ceiling MetricReport.desired start.desired reports := by
  induction reports generalizing start with
  | nil => rfl
  | cons report rest ih =>
      rw [List.foldl_cons, ih, RunningMax.ceiling_cons]
      rfl

/-- The loop's number is within a bound if the present one and all wishes are. -/
theorem desired_le_iff (metrics : List (String × Json)) (bound : Int) :
    (desiredReplicas snapshot manifest replicas metrics).desired ≤ bound ↔
      (replicas : Int) ≤ bound ∧
        ∀ wish ∈ wishes snapshot manifest replicas metrics, wish ≤ bound := by
  unfold desiredReplicas
  rw [foldl_add_desired, RunningMax.ceiling_le_iff, List.forall_mem_map]
  apply and_congr_right
  intro present
  constructor
  · rintro within wish ⟨metric, member, load, usable, rfl⟩
    have := within metric member
    rwa [metricReport_desired, usable] at this
  · intro within metric member
    rw [metricReport_desired]
    cases usable : metricLoad snapshot manifest metric with
    | none => exact present
    | some load => exact within _ ⟨metric, member, load, usable, rfl⟩

/-- The loop's number is the greater of the present one and the greatest wish. -/
theorem desired_eq_max
    {metrics : List (String × Json)} {top : Int}
    (greatest : IsGreatest (wishes snapshot manifest replicas metrics) top) :
    (desiredReplicas snapshot manifest replicas metrics).desired = max (replicas : Int) top := by
  apply eq_of_forall_ge_iff
  intro bound
  rw [desired_le_iff, max_le_iff]
  apply and_congr_right
  intro _
  exact (isLUB_le_iff greatest.isLUB).symm

theorem exists_isGreatest_wishes
    {metrics : List (String × Json)}
    (usable : (wishes snapshot manifest replicas metrics).Nonempty) :
    ∃ top, IsGreatest (wishes snapshot manifest replicas metrics) top := by
  have within := (desired_le_iff snapshot manifest replicas metrics _).mp le_rfl
  exact Int.exists_greatest_of_bdd ⟨_, within.2⟩ usable

end Evaluate

/-! ## Growing values -/

/-- The clamp differs from that of a lower number only below the greater one. -/
theorem clamp_max_eq_iff {least greatest current top : Int} (ordered : least ≤ greatest) :
    min (max (max current top) least) greatest = min (max top least) greatest ↔
      min current greatest ≤ max top least := by
  omega

theorem wantedReplicas_mono {replicas : Nat} {first second : Rat} (less : first ≤ second) :
    wantedReplicas replicas first ≤ wantedReplicas replicas second := by
  unfold wantedReplicas
  gcongr

/-- A load below zero asks for one replica. -/
theorem wantedReplicas_of_nonpos {replicas : Nat} {load : Rat} (nonpositive : load ≤ 0) :
    wantedReplicas replicas load = 1 := by
  have ceiling : ⌈(replicas : Rat) * load⌉ ≤ 0 :=
    Int.ceil_le.mpr (by simpa using mul_nonpos_of_nonneg_of_nonpos (Nat.cast_nonneg _) nonpositive)
  unfold wantedReplicas
  omega

/-- A greater value over the same target asks for no less. -/
theorem wantedReplicas_loadOf_le
    {replicas : Nat} {first second firstLoad secondLoad : Rat} {target : PyFloat}
    (less : first ≤ second) (sense : 0 ≤ first ∨ (PyFloat.finite 0).lt target = true)
    (firstUsable : loadOf first target = some firstLoad)
    (secondUsable : loadOf second target = some secondLoad) :
    wantedReplicas replicas firstLoad ≤ wantedReplicas replicas secondLoad := by
  cases target with
  | nan => cases firstUsable
  | inf negative =>
      obtain rfl := Option.some.inj firstUsable
      obtain rfl := Option.some.inj secondUsable
      exact le_rfl
  | finite limit =>
      rw [loadOf_finite] at firstUsable secondUsable
      split at firstUsable
      · cases firstUsable
      · next nonzero =>
          rw [if_neg nonzero] at secondUsable
          obtain rfl := Option.some.inj firstUsable
          obtain rfl := Option.some.inj secondUsable
          rcases lt_or_gt_of_ne nonzero with negative | positive
          · -- Over a negative target only values that are not negative may grow.
            rcases sense with nonnegative | positive
            · rw [wantedReplicas_of_nonpos (div_nonpos_of_nonneg_of_nonpos nonnegative negative.le),
                wantedReplicas_of_nonpos
                  (div_nonpos_of_nonneg_of_nonpos (nonnegative.trans less) negative.le)]
            · exact absurd (of_decide_eq_true positive) (not_lt.mpr negative.le)
          · exact wantedReplicas_mono (by gcongr)

/-- A measured value that has grown asks for no less. -/
theorem exists_utilizationLoad
    {replicas : Nat} {first second : Option Rat} {requested : Bool} {target : Json}
    {load : Rat} (grown : Grown first second)
    (sense : (∀ value ∈ first, 0 ≤ value) ∨ PositiveTarget target)
    (usable : utilizationLoad first requested target = some load) :
    ∃ later, utilizationLoad second requested target = some later ∧
      wantedReplicas replicas load ≤ wantedReplicas replicas later := by
  cases grown with
  | unmeasured => cases usable
  | @measured value grownValue less =>
      cases requested with
      | false => cases usable
      | true =>
          unfold utilizationLoad at usable ⊢
          cases limit : targetFloat (target.item "averageUtilization") with
          | none => simp [limit] at usable
          | some limit' =>
              simp only [limit, if_true, Option.bind_eq_bind, Option.bind_some] at usable ⊢
              have direction : 0 ≤ value ∨ (PyFloat.finite 0).lt limit' = true :=
                sense.imp (fun nonnegative => nonnegative value rfl)
                  (fun positive => positive limit' limit)
              have isUsable : ∃ later, loadOf grownValue limit' = some later := by
                cases limit' with
                | nan => cases usable
                | inf negative => exact ⟨0, rfl⟩
                | finite number =>
                    rw [loadOf_finite] at usable ⊢
                    split at usable
                    · cases usable
                    · next nonzero => exact ⟨_, if_neg nonzero⟩
              obtain ⟨later, laterUsable⟩ := isUsable
              exact ⟨later, laterUsable,
                wantedReplicas_loadOf_le less direction usable laterUsable⟩

/-- Bytes of a pod that have grown ask for no less. -/
theorem exists_averageValueLoad
    {replicas : Nat} {first second : WorkloadMetricsSnapshot} {target : Json} {load : Rat}
    (grown : Grown first.averageBytes second.averageBytes)
    (usable : averageValueLoad first target = some load) :
    ∃ later, averageValueLoad second target = some later ∧
      wantedReplicas replicas load ≤ wantedReplicas replicas later := by
  unfold averageValueLoad at usable ⊢
  cases limit : targetBytes target with
  | none => simp [limit] at usable
  | some limit' =>
      have positive : (0 : Rat) < limit' := by
        have := (Option.filter_eq_some_iff.mp limit).2
        exact_mod_cast of_decide_eq_true this
      generalize first.averageBytes = before at grown usable
      generalize second.averageBytes = after at grown ⊢
      cases grown with
      | unmeasured => cases usable
      | @measured value grownValue less =>
          obtain rfl : value / limit' = load := by simpa [limit] using usable
          exact ⟨grownValue / limit', rfl, wantedReplicas_mono (by gcongr)⟩

/-- A metric whose value has grown asks for no less. -/
theorem exists_metricLoad
    (replicas : Nat) {manifest : ScaledManifest} {metrics : List (String × Json)}
    {first second : WorkloadMetricsSnapshot} {metric : String × Json} {load : Rat}
    (raised : Raised metrics first second) (member : metric ∈ metrics)
    (usable : metricLoad first manifest metric = some load) :
    ∃ later, metricLoad second manifest metric = some later ∧
      wantedReplicas replicas load ≤ wantedReplicas replicas later := by
  unfold metricLoad at usable ⊢
  split at usable
  · next isCpu =>
      rw [if_pos isCpu]
      exact exists_utilizationLoad raised.cpu (raised.sense.imp (·.cpu) (· metric member)) usable
  · next notCpu =>
      rw [if_neg notCpu]
      split at usable
      · next isMemory =>
          rw [if_pos isMemory]
          split at usable
          · next bytes =>
              rw [if_pos bytes]
              exact exists_averageValueLoad raised.average usable
          · next percent =>
              rw [if_neg percent]
              exact exists_utilizationLoad raised.memory
                (raised.sense.imp (·.memory) (· metric member)) usable
      · cases usable

/-- The loop's number does not fall when values grow. -/
theorem desired_mono
    (replicas : Nat) (manifest : ScaledManifest) {metrics : List (String × Json)}
    {first second : WorkloadMetricsSnapshot} (raised : Raised metrics first second) :
    (desiredReplicas first manifest replicas metrics).desired ≤
      (desiredReplicas second manifest replicas metrics).desired := by
  have within := (desired_le_iff second manifest replicas metrics _).mp le_rfl
  refine (desired_le_iff first manifest replicas metrics _).mpr ⟨within.1, ?_⟩
  rintro wish ⟨metric, member, load, usable, rfl⟩
  obtain ⟨later, laterUsable, less⟩ := exists_metricLoad replicas raised member usable
  exact less.trans (within.2 _ ⟨metric, member, later, laterUsable, rfl⟩)

/-! ## The pass -/

section Pass

variable {pass : HpaPass} {epoch : Int}

/-- A pass keeps what the clamp says, and registers nothing else. -/
theorem outcome_of_scale
    {evaluation : Evaluation} {desired : Int} {outcome : HpaOutcome}
    (scaled : pass.scale evaluation desired = some outcome) :
    outcome.desiredReplicas = desired ∧ ∀ replicas ∈ outcome.registered, replicas = desired := by
  unfold HpaPass.scale at scaled
  by_cases scales : (pass.supported && pass.registryEntry.isSome) = true ∧
      evaluation.active = true ∧ desired ≠ pass.currentReplicas
  · rw [if_pos scales] at scaled
    obtain ⟨last, -, made⟩ := Option.map_eq_some_iff.mp scaled
    subst made
    split_ifs <;> simp
  · rw [if_neg scales] at scaled
    obtain rfl := Option.some.inj scaled
    simp

variable {manifest : ScaledManifest} {snapshot : WorkloadMetricsSnapshot}
variable {metrics : List (String × Json)} {least greatest : Int} {outcome : HpaOutcome}

/-- A workload that is evaluated is supported and registered. -/
theorem evaluate_of_evaluated
    (evaluated : pass.evaluated epoch = some (manifest, snapshot))
    (read : specMetrics pass.entry.spec = some metrics) :
    pass.evaluate epoch =
      some (desiredReplicas snapshot manifest pass.currentReplicas metrics) := by
  obtain ⟨present, registered, rest⟩ := Option.bind_eq_some_iff.mp evaluated
  have supported : pass.supported = true := by
    by_contra unsupported
    simp [unsupported] at registered
  rw [if_pos supported] at registered
  simp [HpaPass.evaluate, evaluated, read, supported, registered]

theorem desiredReplicas_of_reconcile
    (pass : HpaPass) (led : pass.leaderEpoch = some epoch)
    (evaluated : pass.evaluated epoch = some (manifest, snapshot))
    (read : specMetrics pass.entry.spec = some metrics)
    (bounds : replicaBounds pass.entry.spec pass.currentReplicas = some (least, greatest))
    (ran : pass.reconcile = some (some outcome)) :
    outcome.desiredReplicas =
        min (max (desiredReplicas snapshot manifest pass.currentReplicas metrics).desired least)
          greatest ∧
      ∀ replicas ∈ outcome.registered, replicas = outcome.desiredReplicas := by
  unfold HpaPass.reconcile at ran
  simp only [led, evaluate_of_evaluated evaluated read, bounds, Option.bind_eq_bind,
    Option.bind_some, Option.bind_eq_some_iff] at ran
  obtain ⟨scaled, made, same⟩ := ran
  obtain rfl : scaled = outcome := by simpa using same
  obtain ⟨desired, registers⟩ := outcome_of_scale made
  rw [desired]
  exact ⟨rfl, registers⟩

/-- Other measurements as fresh as the former ones are evaluated with the same workload. -/
theorem evaluated_measuring
    {metrics : List (String × Json)} {higher : WorkloadMetricsSnapshot}
    (evaluated : pass.evaluated epoch = some (manifest, snapshot))
    (raised : Raised metrics snapshot higher) :
    (pass.measuring higher).evaluated epoch = some (manifest, higher) := by
  obtain ⟨present, registered, rest⟩ := Option.bind_eq_some_iff.mp evaluated
  obtain ⟨found, fresh, same⟩ := Option.map_eq_some_iff.mp rest
  obtain ⟨rfl, rfl⟩ := Prod.mk.inj same
  obtain ⟨stored, isFresh⟩ := Option.filter_eq_some_iff.mp fresh
  obtain ⟨app, named, -⟩ := Option.bind_eq_some_iff.mp stored
  have stillFresh : (pass.measuring higher).isFresh epoch higher = true := by
    unfold HpaPass.isFresh at isFresh ⊢
    rw [raised.controllerEpoch, raised.collectedAt]
    exact isFresh
  apply Option.bind_eq_some_iff.mpr
  refine ⟨present, registered, ?_⟩
  apply Option.map_eq_some_iff.mpr
  refine ⟨higher, ?_, rfl⟩
  apply Option.filter_eq_some_iff.mpr
  exact ⟨Option.bind_eq_some_iff.mpr ⟨app, named, rfl⟩, stillFresh⟩

/-- What holds the present number up, by the greatest wish. -/
theorem heldUp_iff
    {replicas : Nat} {top : Int}
    (isGreatest : IsGreatest (wishes snapshot manifest replicas metrics) top) :
    HeldUp snapshot manifest replicas metrics least greatest ↔
      min (replicas : Int) greatest ≤ max top least := by
  obtain ⟨⟨metric, member, load, usable, rfl⟩, bound⟩ := isGreatest
  constructor
  · rintro (low | ⟨other, otherMember, otherLoad, otherUsable, above⟩)
    · unfold wantedReplicas
      omega
    · have wanted : min (replicas : Int) greatest ≤ ⌈(replicas : Rat) * otherLoad⌉ :=
        Int.le_ceil_iff.mpr above
      have less := bound ⟨other, otherMember, otherLoad, otherUsable, rfl⟩
      unfold wantedReplicas at less ⊢
      omega
  · intro within
    by_cases low : min (replicas : Int) greatest ≤ max 1 least
    · exact .inl low
    · refine .inr ⟨metric, member, load, usable, Int.le_ceil_iff.mp ?_⟩
      unfold wantedReplicas at within
      omega

/-- The replicas follow the metrics exactly if the present number is held up. -/
theorem followsMetrics_iff
    (led : pass.leaderEpoch = some epoch)
    (evaluated : pass.evaluated epoch = some (manifest, snapshot))
    (read : specMetrics pass.entry.spec = some metrics)
    (bounds : replicaBounds pass.entry.spec pass.currentReplicas = some (least, greatest))
    (ordered : least ≤ greatest)
    (usable : (wishes snapshot manifest pass.currentReplicas metrics).Nonempty)
    (ran : pass.reconcile = some (some outcome)) :
    FollowsMetrics pass manifest snapshot metrics least greatest outcome ↔
      HeldUp snapshot manifest pass.currentReplicas metrics least greatest := by
  obtain ⟨desired, registers⟩ :=
    desiredReplicas_of_reconcile pass led evaluated read bounds ran
  obtain ⟨top, isGreatest⟩ := exists_isGreatest_wishes snapshot manifest _ usable
  rw [heldUp_iff isGreatest, ← clamp_max_eq_iff ordered,
    ← desired_eq_max snapshot manifest _ isGreatest, ← desired]
  constructor
  · intro follows
    exact follows.clamped top isGreatest
  · intro clamped
    refine ⟨?_, registers, ?_⟩
    · intro other otherGreatest
      rw [otherGreatest.unique isGreatest]
      exact clamped
    · intro higher later raised laterRan
      have laterDesired : later.desiredReplicas =
          min (max (desiredReplicas higher manifest pass.currentReplicas metrics).desired least)
            greatest :=
        (desiredReplicas_of_reconcile (pass.measuring higher) led
          (evaluated_measuring evaluated raised) read bounds laterRan).1
      have less := desired_mono pass.currentReplicas manifest raised
      omega

end Pass

/-! ## A workload of five replicas -/

/-- Half of the requested CPU should be used. -/
def halfTarget : Json :=
  .dict [("type", .str "Utilization"), ("averageUtilization", .int 50)]

/-- Five replicas that request one core each. -/
def fiveReplicas : ScaledManifest := ⟨5, some ⟨some (.finite 1), none⟩, []⟩

def cpuSnapshot (cpu : Rat) : WorkloadMetricsSnapshot := ⟨7, 0, some cpu, none, 0, 5⟩

/-- An autoscaler of the five replicas, between one and ten. -/
def cpuAutoscaler : HpaEntry where
  ns := "default"
  spec :=
    [("minReplicas", .int 1), ("maxReplicas", .int 10),
      ("scaleTargetRef", .dict [("kind", .str "Deployment"), ("name", .str "demo")]),
      ("metrics", .list [.dict [("type", .str "Resource"),
        ("resource", .dict [("name", .str "cpu"), ("target", halfTarget)])]])]
  lastScaleTime := .absent

/-- A pass over the autoscaler. -/
def cpuPass (cpu : Rat) : HpaPass where
  store := ⟨fun _ => some fiveReplicas, fun _ => some (cpuSnapshot cpu), false⟩
  entry := cpuAutoscaler
  leaderEpoch := some 7
  now := 5000000
  metricsMaxAge := 45000000
  cooldown := 30000000

theorem specMetrics_cpuAutoscaler :
    specMetrics cpuAutoscaler.spec = some [("cpu", halfTarget)] := by
  decide +kernel

theorem evaluated_cpuPass (cpu : Rat) :
    (cpuPass cpu).evaluated 7 = some (fiveReplicas, cpuSnapshot cpu) := by
  have named : (cpuPass cpu).appName = some "demo" := by
    change (cpuPass 0).appName = some "demo"
    decide +kernel
  have supported : (cpuPass cpu).supported = true := by
    change (cpuPass 0).supported = true
    decide +kernel
  unfold HpaPass.evaluated HpaPass.registryEntry
  rw [named, supported]
  rfl

theorem metricLoad_cpu (cpu : Rat) :
    metricLoad (cpuSnapshot cpu) fiveReplicas ("cpu", halfTarget) = some (cpu / 50) := by
  have requested : fiveReplicas.hasCpuRequests = true := by decide +kernel
  have target : targetFloat (halfTarget.item "averageUtilization") = some (.finite 50) := by
    decide +kernel
  simp [metricLoad, utilizationLoad, requested, target, cpuSnapshot, loadOf_finite]

/-- The one metric asks for the replicas of its load. -/
theorem wishes_cpu (cpu : Rat) :
    wishes (cpuSnapshot cpu) fiveReplicas 5 [("cpu", halfTarget)] =
      {wantedReplicas 5 (cpu / 50)} := by
  ext wish
  simp [wishes, metricLoad_cpu, eq_comm]

/-- Four fifths of the CPU are used: eight replicas are registered. -/
theorem followsMetrics_highCpu :
    ∃ outcome, (cpuPass 80).reconcile = some (some outcome) ∧
      FollowsMetrics (cpuPass 80) fiveReplicas (cpuSnapshot 80) [("cpu", halfTarget)] 1 10
        outcome := by
  have isSome : ((cpuPass 80).reconcile.join).isSome = true := by decide +kernel
  obtain ⟨outcome, ran⟩ := Option.isSome_iff_exists.mp isSome
  have ran := Option.join_eq_some_iff.mp ran
  refine ⟨outcome, ran, (followsMetrics_iff rfl (evaluated_cpuPass 80)
    specMetrics_cpuAutoscaler (by decide +kernel) (by decide) ?_ ran).mpr ?_⟩
  · change (wishes (cpuSnapshot 80) fiveReplicas 5 [("cpu", halfTarget)]).Nonempty
    rw [wishes_cpu]
    exact Set.singleton_nonempty _
  · refine .inr ⟨_, List.mem_singleton_self _, _, metricLoad_cpu 80, ?_⟩
    change ((min (5 : Int) 10 : Int) : Rat) - 1 < (5 : Nat) * (80 / 50)
    norm_num

/-- A tenth of the CPU is used: one replica is enough, and five are kept. -/
theorem not_followsMetrics_lowCpu :
    ∃ outcome, (cpuPass 10).reconcile = some (some outcome) ∧
      ¬ FollowsMetrics (cpuPass 10) fiveReplicas (cpuSnapshot 10) [("cpu", halfTarget)] 1 10
        outcome := by
  have kept : (cpuPass 10).reconcile.join.map HpaOutcome.desiredReplicas = some 5 := by
    decide +kernel
  obtain ⟨outcome, ran, desired⟩ := Option.map_eq_some_iff.mp kept
  refine ⟨outcome, Option.join_eq_some_iff.mp ran, ?_⟩
  intro follows
  have enough : wantedReplicas 5 (10 / 50) = 1 := by decide +kernel
  have top : IsGreatest (wishes (cpuSnapshot 10) fiveReplicas 5 [("cpu", halfTarget)]) 1 := by
    rw [wishes_cpu, enough]
    exact isGreatest_singleton
  have clamped := follows.clamped 1 top
  omega

end Controllers
end K1s
