import K1s.Adapter.Autoscaling
import K1s.Lib.Machine

/-!
# Probe thresholds

`HealthManager._evaluate_probe` keeps for each pod and each kind of probe the number of
successes and of failures in a row and the effective result.  A run is a sequence of its
calls, with the times and the answers of the probes from outside; `HealthManager.evaluate`
makes such a run.

The main result says when the effective result falls only after enough failures in a row
and rises only after enough successes: exactly if no success that is short of its threshold
comes while the effective result is true.

Times are microseconds.  Without a probe the default of the pod counts as an outcome.
-/

namespace K1s
namespace Controllers

open Adapter (truncated)

/-! ## Probes -/

inductive ProbeType
  | startup
  | readiness
  | liveness
  deriving DecidableEq

def ProbeType.text : ProbeType → String
  | .startup => "startup"
  | .readiness => "readiness"
  | .liveness => "liveness"

/-- `ProbeSpec`: whether it has a handler, and its numbers. -/
structure ProbeSpec where
  handled : Bool
  initialDelaySeconds : Int
  periodSeconds : Int
  successThreshold : Int
  failureThreshold : Int

def ProbeSpec.needSuccesses (probe : ProbeSpec) : Int := max 1 probe.successThreshold

def ProbeSpec.needFailures (probe : ProbeSpec) : Int := max 1 probe.failureThreshold

structure ProbeOutcome where
  success : Bool
  message : String
  deriving DecidableEq

structure ProbeState where
  succ : Nat
  fail : Nat
  last : Option Bool
  effective : Bool
  ts : Option Int
  cooldownUntil : Option Int

/-- A pod and a kind of probe. -/
abbrev ProbeKey := String × ProbeType

/-- A call of `_evaluate_probe`: its arguments, the two times that it reads, and what the
handler of the probe answers. -/
structure ProbeCall where
  podName : String
  type : ProbeType
  startedAt : Option Int
  defaultSuccess : Bool
  probe : Option ProbeSpec
  now : Int
  later : Int
  answer : ProbeOutcome

def ProbeCall.key (call : ProbeCall) : ProbeKey := (call.podName, call.type)

/-- The environment: `AE_PROBE_MAX_BACKOFF`, `AE_PROBE_VERBOSE`, and the jitter of a key. -/
structure ProbeSettings where
  maxBackoff : Int
  verbose : Bool
  jitter : ProbeKey → Rat

/-- An event for `_emit_probe_event`. -/
structure ProbeEvent where
  podName : String
  type : ProbeType
  success : Bool
  message : String
  deriving DecidableEq

/-- The state that a call leaves, what it returns, the event, and the outcome that it has
counted. -/
structure ProbeResult where
  state : Option ProbeState
  outcome : ProbeOutcome
  event : Option ProbeEvent
  counted : Option Bool

/-- The state before the first outcome. -/
def ProbeState.initial (defaultSuccess : Bool) : ProbeState :=
  ⟨0, 0, none, defaultSuccess, none, none⟩

def ProbeState.count (state : ProbeState) (success : Bool) (ts : Int) : ProbeState :=
  if success then
    { state with succ := state.succ + 1, fail := 0, last := some true, ts := some ts }
  else { state with fail := state.fail + 1, succ := 0, last := some false, ts := some ts }

/-- The whole seconds of a duration that is not negative. -/
def secondsText (micros : Int) : String := toString (micros / 1000000)

section Call

variable (settings : ProbeSettings) (call : ProbeCall) (probe : ProbeSpec) (state : ProbeState)

/-- An event, if the effective result has changed. -/
def ProbeCall.event (before after : Bool) (message : String) : Option ProbeEvent :=
  if after = before then none else some ⟨call.podName, call.type, after, message⟩

/-- The period, the backoff or the initial delay is not over. -/
def heldOutcome : Option ProbeOutcome :=
  let period := probe.periodSeconds * 1000000
  let delay := probe.initialDelaySeconds * 1000000
  match state.ts.filter fun ts => decide (0 < period ∧ call.now - ts < period) with
  | some ts => some ⟨state.effective, call.type.text ++ " waiting period (" ++
      secondsText (period - (call.now - ts)) ++ "s)"⟩
  | none =>
  match state.cooldownUntil.filter fun time => decide (call.now < time) with
  | some time => some ⟨state.effective, call.type.text ++ " backoff (" ++
      secondsText (time - call.now) ++ "s)"⟩
  | none =>
  match call.startedAt.filter fun time => decide (0 < delay ∧ call.now - time < delay) with
  | some time => some ⟨false, "waiting initial delay (" ++
      secondsText (delay - (call.now - time)) ++ "s)"⟩
  | none =>
      -- The period is looked at again, with a later time.
      if state.ts.any fun ts => decide (0 < period ∧ call.later - ts < period) then
        some ⟨state.effective, call.type.text ++ " cached"⟩
      else none

/-- The outcome of the handler, or the default without one. -/
def rawOutcome : ProbeOutcome :=
  if probe.handled then call.answer
  else ⟨call.defaultSuccess,
    call.type.text ++ " no-op " ++ if call.defaultSuccess then "ok" else "pending"⟩

/-- The seconds without probes after `fail` failures in a row. -/
def backoffSeconds (fail : Nat) : Int :=
  let base := max 1 (max 0 probe.periodSeconds)
  let exponent := (fail - probe.needFailures).toNat
  let backoff := min settings.maxBackoff (base * 2 ^ exponent)
  max 1 (truncated (backoff * (1 + settings.jitter call.key)))

/-- A success is counted. -/
def succeeded (outcome : ProbeOutcome) : ProbeState × String :=
  let counted := state.count true call.later
  if probe.needSuccesses ≤ counted.succ then ({ counted with effective := true }, outcome.message)
  else
    ({ counted with effective := false },
      call.type.text ++ " waiting successThreshold (" ++ toString counted.succ ++ "/" ++
        toString probe.needSuccesses ++ ")")

def failed (outcome : ProbeOutcome) : ProbeState × String :=
  let counted := state.count false call.later
  if probe.needFailures ≤ counted.fail then
    ({ counted with
        effective := false
        cooldownUntil :=
          some (call.later + 1000000 * backoffSeconds settings call probe counted.fail) },
      outcome.message)
  else
    let message := call.type.text ++ " transient fail (" ++ toString counted.fail ++ "/" ++
      toString probe.needFailures ++ ")"
    (counted,
      if settings.verbose ∨ call.type = .startup then message ++ ": " ++ outcome.message
      else message)

/-- The handler is asked. -/
def judged : ProbeState × String :=
  let outcome := rawOutcome call probe
  if outcome.success then succeeded call probe state outcome
  else failed settings call probe state outcome

/-- A pod without the probe has its default as its result. -/
def defaulted : ProbeState :=
  { state with
    succ := if call.defaultSuccess then 1 else 0
    fail := if call.defaultSuccess then 0 else 1
    last := some call.defaultSuccess
    effective := call.defaultSuccess
    ts := some call.later }

def evaluateProbe (stored : Option ProbeState) : ProbeResult :=
  let state := stored.getD (.initial call.defaultSuccess)
  match call.probe with
  | none =>
      let message := call.type.text ++ " default " ++
        if call.defaultSuccess then "ok" else "pending"
      { state := some (defaulted call state)
        outcome := ⟨call.defaultSuccess, message⟩
        event := call.event state.effective call.defaultSuccess message
        counted := some call.defaultSuccess }
  | some probe =>
      match heldOutcome call probe state with
      | some outcome => ⟨stored, outcome, none, none⟩
      | none =>
          let (after, message) := judged settings call probe state
          { state := some after
            outcome := ⟨after.effective, message⟩
            event := call.event state.effective after.effective message
            counted := some (rawOutcome call probe).success }

end Call

/-! ## Runs -/

/-- The states of a `HealthManager`, the events it has emitted, and the outcomes that were
counted for each key, the last one first. -/
structure HealthWorld where
  states : ProbeKey → Option ProbeState
  events : List ProbeEvent
  history : ProbeKey → List Bool

/-- A new `HealthManager`. -/
def HealthWorld.new : HealthWorld := ⟨fun _ => none, [], fun _ => []⟩

section Runs

variable (settings : ProbeSettings)

/-- What a call makes of the state of its key. -/
def HealthWorld.result (world : HealthWorld) (call : ProbeCall) : ProbeResult :=
  evaluateProbe settings call (world.states call.key)

def HealthWorld.probe (world : HealthWorld) (call : ProbeCall) : HealthWorld where
  states := Function.update world.states call.key (world.result settings call).state
  events := world.events ++ (world.result settings call).event.toList
  history := Function.update world.history call.key
    ((world.result settings call).counted.toList ++ world.history call.key)

/-- The calls as the actions of a machine. -/
def probeStep (world : HealthWorld) (call : ProbeCall) : Option HealthWorld :=
  some (world.probe settings call)

end Runs

/-! ## Thresholds -/

/-- The last outcomes in a row that have a value. -/
def streak (value : Bool) (history : List Bool) : Nat :=
  (history.takeWhile (· = value)).length

/-- The effective result of the key of a call, the default before the first outcome. -/
def HealthWorld.effective (world : HealthWorld) (call : ProbeCall) : Bool :=
  ((world.states call.key).getD (.initial call.defaultSuccess)).effective

/-- A call with a probe changes the effective result only after enough outcomes in a row. -/
structure MeetsThresholds
    (settings : ProbeSettings) (world : HealthWorld)
    (call : ProbeCall) : Prop where
  falls : ∀ probe ∈ call.probe, world.effective call = true →
    (world.probe settings call).effective call = false →
      probe.needFailures ≤ streak false ((world.probe settings call).history call.key)
  rises : ∀ probe ∈ call.probe, world.effective call = false →
    (world.probe settings call).effective call = true →
      probe.needSuccesses ≤ streak true ((world.probe settings call).history call.key)

/-- A success that is counted reaches its threshold, or the effective result is false. -/
def SuccessCounts (world : HealthWorld) (call : ProbeCall) : Prop :=
  ∀ probe ∈ call.probe, heldOutcome call probe
        ((world.states call.key).getD (.initial call.defaultSuccess)) = none →
      (rawOutcome call probe).success = true → probe.needSuccesses ≤
            ((world.states call.key).getD (.initial call.defaultSuccess)).succ + 1 ∨
          world.effective call = false

structure CountsOutcomes (state : ProbeState) (history : List Bool) : Prop where
  successes : state.succ ≤ streak true history
  failures : state.fail ≤ streak false history

/-- The counters of every key are within its outcomes in a row. -/
def Counted (world : HealthWorld) : Prop :=
  ∀ key, ∀ state ∈ world.states key, CountsOutcomes state (world.history key)

@[simp] theorem streak_cons_self (value : Bool) (history : List Bool) :
    streak value (value :: history) = streak value history + 1 := by
  simp [streak]

@[simp] theorem streak_true_cons_false (history : List Bool) :
    streak true (false :: history) = 0 := by
  simp [streak]

@[simp] theorem streak_false_cons_true (history : List Bool) :
    streak false (true :: history) = 0 := by
  simp [streak]

theorem CountsOutcomes.initial (defaultSuccess : Bool) (history : List Bool) :
    CountsOutcomes (.initial defaultSuccess) history :=
  ⟨Nat.zero_le _, Nat.zero_le _⟩

theorem CountsOutcomes.count
    {state : ProbeState} {history : List Bool} (counts : CountsOutcomes state history)
    (success : Bool)
    (ts : Int) : CountsOutcomes (state.count success ts) (success :: history) := by
  have successes := counts.successes
  have failures := counts.failures
  cases success with
  | true => constructor <;> simp [ProbeState.count, successes]
  | false => constructor <;> simp [ProbeState.count, failures]

theorem CountsOutcomes.of_effective
    {state : ProbeState} {history : List Bool} (counts : CountsOutcomes state history)
    (effective : Bool) (cooldownUntil : Option Int) :
    CountsOutcomes { state with effective, cooldownUntil } history :=
  ⟨counts.successes, counts.failures⟩

section Judged

variable (settings : ProbeSettings) (call : ProbeCall) (probe : ProbeSpec) (state : ProbeState)

theorem succeeded_effective (outcome : ProbeOutcome) :
    (succeeded call probe state outcome).1.effective =
      decide (probe.needSuccesses ≤ state.succ + 1) := by
  unfold succeeded ProbeState.count
  by_cases reached : probe.needSuccesses ≤ (state.succ : Int) + 1 <;> simp [reached]

theorem failed_effective (outcome : ProbeOutcome) :
    (failed settings call probe state outcome).1.effective =
      (state.effective && decide ((state.fail : Int) + 1 < probe.needFailures)) := by
  unfold failed ProbeState.count
  by_cases reached : probe.needFailures ≤ (state.fail : Int) + 1
  · simp [reached]
  · simp [reached, not_le.mp reached]

variable {call probe}

theorem judged_of_success (success : (rawOutcome call probe).success = true) :
    judged settings call probe state = succeeded call probe state (rawOutcome call probe) :=
  if_pos success

theorem judged_of_failure (failure : (rawOutcome call probe).success = false) :
    judged settings call probe state = failed settings call probe state (rawOutcome call probe) :=
  if_neg (by simp [failure])

theorem judged_counts {history : List Bool} (counts : CountsOutcomes state history) :
    CountsOutcomes (judged settings call probe state).1
      ((rawOutcome call probe).success :: history) := by
  cases success : (rawOutcome call probe).success with
  | true =>
      have counted := counts.count true call.later
      rw [judged_of_success settings state success]
      simp only [succeeded]
      by_cases reached : probe.needSuccesses ≤ ((state.count true call.later).succ : Int)
      · rw [if_pos reached]
        exact counted.of_effective true _
      · rw [if_neg reached]
        exact counted.of_effective false _
  | false =>
      have counted := counts.count false call.later
      rw [judged_of_failure settings state success]
      simp only [failed]
      by_cases reached : probe.needFailures ≤ ((state.count false call.later).fail : Int)
      · rw [if_pos reached]
        exact counted.of_effective false _
      · rw [if_neg reached]
        exact counted

end Judged

section Calls

variable {settings : ProbeSettings} {world : HealthWorld} {call : ProbeCall} {probe : ProbeSpec}

/-- A call whose probe is held leaves everything as it is. -/
theorem result_of_held
    {outcome : ProbeOutcome} (spec : call.probe = some probe)
    (held : heldOutcome call probe
      ((world.states call.key).getD (.initial call.defaultSuccess)) = some outcome) :
    world.result settings call = ⟨world.states call.key, outcome, none, none⟩ := by
  simp [HealthWorld.result, evaluateProbe, spec, held]

variable (settings) in
/-- A call whose probe is not held counts the outcome of the handler. -/
theorem result_of_judged
    (spec : call.probe = some probe)
    (asked : heldOutcome call probe
      ((world.states call.key).getD (.initial call.defaultSuccess)) = none) :
    (world.result settings call).state = some (judged settings call probe
        ((world.states call.key).getD (.initial call.defaultSuccess))).1 ∧
      (world.result settings call).counted = some (rawOutcome call probe).success := by
  simp [HealthWorld.result, evaluateProbe, spec, asked]

theorem effective_probe :
    (world.probe settings call).effective call =
      ((world.result settings call).state.getD (.initial call.defaultSuccess)).effective := by
  simp [HealthWorld.effective, HealthWorld.probe]

theorem history_probe :
    (world.probe settings call).history call.key =
      (world.result settings call).counted.toList ++ world.history call.key := by
  simp [HealthWorld.probe]

/-- The state of a key before a call is within its history. -/
theorem Counted.at (counted : Counted world) (call : ProbeCall) :
    CountsOutcomes ((world.states call.key).getD (.initial call.defaultSuccess))
      (world.history call.key) := by
  cases stored : world.states call.key with
  | none => exact CountsOutcomes.initial ..
  | some state => exact counted call.key state stored

/-- What a call leaves is within the history. -/
theorem counts_of_result
    (counted : Counted world) {state : ProbeState}
    (left : (world.result settings call).state = some state) :
    CountsOutcomes state
      ((world.result settings call).counted.toList ++ world.history call.key) := by
  have before := counted.at call
  cases spec : call.probe with
  | none =>
      have defaults : world.result settings call =
          evaluateProbe settings call (world.states call.key) := rfl
      simp only [evaluateProbe, spec] at defaults
      rw [defaults] at left ⊢
      obtain rfl := Option.some.inj left
      have counts : CountsOutcomes (.initial false)  (world.history call.key) :=
        CountsOutcomes.initial ..
      have one := counts.count call.defaultSuccess call.later
      constructor
      · cases success : call.defaultSuccess <;> simp [defaulted, success]
      · cases success : call.defaultSuccess <;> simp [defaulted, success]
  | some probe =>
      cases held : heldOutcome call probe
          ((world.states call.key).getD (.initial call.defaultSuccess)) with
      | some outcome =>
          rw [result_of_held spec held] at left ⊢
          exact counted call.key state left
      | none =>
          obtain ⟨judgedState, judgedOutcome⟩ := result_of_judged settings spec held
          rw [judgedState] at left
          obtain rfl := Option.some.inj left
          rw [judgedOutcome]
          exact judged_counts settings _ before

/-- Every call keeps the counters within the histories. -/
theorem Counted.step (counted : Counted world) (call : ProbeCall) :
    Counted (world.probe settings call) := by
  intro key state stored
  by_cases same : key = call.key
  · subst same
    rw [history_probe]
    apply counts_of_result counted
    simpa [HealthWorld.probe] using stored
  · have kept : world.states key = some state := by
      simpa [HealthWorld.probe, Function.update_of_ne same] using stored
    simpa [HealthWorld.probe, Function.update_of_ne same] using counted key state kept

/-- With counters within the histories a call meets the thresholds exactly if it is no
success that is short of its threshold while the effective result is true. -/
theorem meetsThresholds_iff (counted : Counted world) :
    MeetsThresholds settings world call ↔ SuccessCounts world call := by
  have before := counted.at call
  constructor
  · intro meets probe spec asked success
    obtain ⟨state, outcome⟩ := result_of_judged settings spec asked
    by_contra neither
    rw [not_or, not_le, Bool.not_eq_false] at neither
    obtain ⟨short, effective⟩ := neither
    have falls := meets.falls probe spec effective
    rw [effective_probe, history_probe, state, outcome, success] at falls
    have notReached : ¬ probe.needSuccesses ≤
        (((world.states call.key).getD (.initial call.defaultSuccess)).succ : Int) + 1 := by
      omega
    have isFalse : (judged settings call probe
        ((world.states call.key).getD (.initial call.defaultSuccess))).1.effective = false := by
      rw [judged_of_success settings _ success, succeeded_effective]
      exact decide_eq_false notReached
    have zero := falls isFalse
    simp only [Option.toList_some, List.singleton_append, streak_false_cons_true] at zero
    have positive : 1 ≤ probe.needFailures := le_max_left ..
    omega
  · intro counts
    constructor
    · intro probe spec effective fell
      rw [effective_probe] at fell
      rw [history_probe]
      cases held : heldOutcome call probe
          ((world.states call.key).getD (.initial call.defaultSuccess)) with
      | some outcome =>
          rw [result_of_held spec held] at fell
          exact absurd (effective.symm.trans fell) (by decide)
      | none =>
          obtain ⟨state, outcome⟩ := result_of_judged settings spec held
          rw [state] at fell
          rw [outcome]
          cases success : (rawOutcome call probe).success with
          | true =>
              have reached := (counts probe spec held success).resolve_right (by simp [effective])
              rw [judged_of_success settings _ success, Option.getD_some, succeeded_effective,
                decide_eq_false_iff_not] at fell
              exact absurd reached fell
          | false =>
              have reached : probe.needFailures ≤
                  (((world.states call.key).getD (.initial call.defaultSuccess)).fail : Int) + 1 := by
                have isTrue : ((world.states call.key).getD
                    (.initial call.defaultSuccess)).effective = true := effective
                rw [judged_of_failure settings _ success, Option.getD_some, failed_effective,
                  isTrue] at fell
                simpa using fell
              have failures := before.failures
              simp only [Option.toList_some, List.singleton_append, streak_cons_self]
              omega
    · intro probe spec effective rose
      rw [effective_probe] at rose
      rw [history_probe]
      have isFalse : ((world.states call.key).getD
          (.initial call.defaultSuccess)).effective = false := effective
      cases held : heldOutcome call probe
          ((world.states call.key).getD (.initial call.defaultSuccess)) with
      | some outcome =>
          rw [result_of_held spec held] at rose
          exact absurd (effective.symm.trans rose) (by decide)
      | none =>
          obtain ⟨state, outcome⟩ := result_of_judged settings spec held
          rw [state] at rose
          rw [outcome]
          cases success : (rawOutcome call probe).success with
          | true =>
              have reached : probe.needSuccesses ≤
                  (((world.states call.key).getD (.initial call.defaultSuccess)).succ : Int) + 1 := by
                rw [judged_of_success settings _ success, Option.getD_some,
                  succeeded_effective] at rose
                exact of_decide_eq_true rose
              have successes := before.successes
              simp only [Option.toList_some, List.singleton_append, streak_cons_self]
              omega
          | false =>
              rw [judged_of_failure settings _ success, Option.getD_some, failed_effective,
                isFalse] at rose
              cases rose

end Calls

open Machine (Along)

/-- The thresholds hold along exactly those runs in which no success that is short of its
threshold comes while the effective result is true. -/
theorem thresholds_iff (settings : ProbeSettings) (calls : List ProbeCall) :
    Along (probeStep settings) (MeetsThresholds settings) .new calls ↔
      Along (probeStep settings) SuccessCounts .new calls := by
  have initial : Counted .new := by
    intro key state stored
    cases stored
  refine Machine.along_iff_of_invariant ?_ ?_ initial calls
  · intro world call next counted stepped
    obtain rfl := Option.some.inj stepped
    exact counted.step call
  · intro world call counted
    exact meetsThresholds_iff counted

/-- A readiness probe that needs two successes and three failures in a row. -/
def twoOfThree : ProbeSpec := ⟨true, 0, 10, 2, 3⟩

/-- An answer of the probe of a pod, `turn` periods after the first one. -/
def answered (turn : Int) (success : Bool) : ProbeCall where
  podName := "web-rev1-0"
  type := .readiness
  startedAt := none
  defaultSuccess := false
  probe := some twoOfThree
  now := turn * 10000000
  later := turn * 10000000
  answer := ⟨success, "HTTP"⟩

/-- Two successes, a failure and a success. -/
def brokenOff : List ProbeCall :=
  [answered 0 true, answered 1 true, answered 2 false, answered 3 true]

/-- The last success makes the pod unready, after one failure that was retained. -/
theorem not_meetsThresholds_brokenOff :
    ¬ Along (probeStep ⟨30, false, fun _ => 0⟩) (MeetsThresholds ⟨30, false, fun _ => 0⟩) .new
      brokenOff := by
  intro along
  obtain ⟨-, along⟩ := along
  obtain ⟨-, along⟩ := along _ rfl
  obtain ⟨-, along⟩ := along _ rfl
  obtain ⟨meets, -⟩ := along _ rfl
  have falls := meets.falls twoOfThree rfl (by decide +kernel) (by decide +kernel)
  exact absurd falls (by decide +kernel)

/-! ## Pods -/

/-- What `evaluate` reads of a `PodState`. -/
structure PodState where
  podName : String
  ready : Bool
  status : String
  endpoint : Option String
  startedAt : Option Int
  exitCode : Option Int

/-- The probes of a manifest, and whether its workload is a job. -/
structure HealthSpec where
  readiness : Option ProbeSpec
  liveness : Option ProbeSpec
  startup : Option ProbeSpec
  isJob : Bool

structure PodHealth where
  podName : String
  ready : Bool
  live : Bool
  readinessMessage : String
  livenessMessage : String

structure HealthReport where
  readyReplicas : Nat
  liveReplicas : Nat
  pods : List PodHealth

/-- The times of a call, and what the handler answers. -/
structure Sensing where
  now : Int
  later : Int
  answer : ProbeOutcome

section Pods

variable (settings : ProbeSettings) (health : HealthSpec)
variable (senses : ProbeType → PodState → Sensing) (world : HealthWorld)

/-- A call of `_evaluate_probe` for a pod. -/
def callFor
    (pod : PodState) (type : ProbeType) (probe : Option ProbeSpec)
    (defaultSuccess : Bool) : ProbeCall where
  podName := pod.podName
  type := type
  startedAt := pod.startedAt
  defaultSuccess := defaultSuccess
  probe := probe
  now := (senses type pod).now
  later := (senses type pod).later
  answer := (senses type pod).answer

def HealthWorld.ask (call : ProbeCall) : HealthWorld × ProbeOutcome :=
  (world.probe settings call, (world.result settings call).outcome)

/-- The state of a pod whose probes are evaluated: one with an endpoint, or the first. -/
def primaryOf (members : List PodState) : Option PodState :=
  (members.find? fun member => member.endpoint.any (· ≠ "")).or members.head?

/-- All containers of a pod run, or are done if they belong to a job. -/
def sidecarsOk (members : List PodState) : Bool :=
  members.all fun member =>
    member.status = "running" || (health.isJob && decide (member.exitCode = some 0))

def askStartup (pod : PodState) : HealthWorld × Option ProbeOutcome :=
  match health.startup with
  | none => (world, none)
  | some probe =>
      let asked := world.ask settings (callFor senses pod .startup (some probe) false)
      (asked.1, some asked.2)

/-- The body of the loop over the pods. -/
def evaluatePod (podName : String) (members : List PodState) : HealthWorld × Option PodHealth :=
  match primaryOf members with
  | none => (world, none)
  | some pod =>
      let ok := sidecarsOk health members
      let started := askStartup settings health senses world pod
      match started.2.filter fun startup => !startup.success with
      | some startup =>
          (started.1, some
            { podName := podName
              ready := false
              live := ok
              readinessMessage := "startup pending: " ++ startup.message
              livenessMessage :=
                if ok then "liveness gated by startup" else "sidecar not running" })
      | none =>
          let readiness := started.1.ask settings
            (callFor senses pod .readiness health.readiness pod.ready)
          let liveness := readiness.1.ask settings
            (callFor senses pod .liveness health.liveness true)
          (liveness.1, some
            { podName := podName
              ready := readiness.2.success && ok
              live := liveness.2.success && ok
              readinessMessage := readiness.2.message
              livenessMessage :=
                if ok then liveness.2.message else "one or more sidecars not running" })

/-- The loop over the pods. -/
def evaluatePods (pods : List PodState) :
    HealthWorld → List String → HealthWorld × List PodHealth
  | world, [] => (world, [])
  | world, podName :: rest =>
      let first := evaluatePod settings health senses world podName
        (pods.filter fun pod => pod.podName = podName)
      let others := evaluatePods pods first.1 rest
      (others.1, first.2.toList ++ others.2)

/-- `HealthManager.evaluate`. -/
def HealthWorld.evaluate (pods : List PodState) : HealthWorld × HealthReport :=
  let evaluated := evaluatePods settings health senses pods world
    (pods.map PodState.podName).eraseDups
  (evaluated.1,
    { readyReplicas := evaluated.2.countP PodHealth.ready
      liveReplicas := evaluated.2.countP PodHealth.live
      pods := evaluated.2 })

/-- The second world is reached from the first by calls. -/
def RunsTo (first second : HealthWorld) : Prop :=
  ∃ calls, Machine.run (probeStep settings) first calls = some second

end Pods

section RunsTo

variable {settings : ProbeSettings}

theorem RunsTo.refl (world : HealthWorld) : RunsTo settings world world := ⟨[], rfl⟩

theorem RunsTo.trans
    {first second third : HealthWorld} (front : RunsTo settings first second)
    (back : RunsTo settings second third) : RunsTo settings first third := by
  obtain ⟨frontCalls, frontRan⟩ := front
  obtain ⟨backCalls, backRan⟩ := back
  exact ⟨frontCalls ++ backCalls, (Machine.run_append_eq_some ..).mpr ⟨second, frontRan, backRan⟩⟩

theorem runsTo_ask (world : HealthWorld) (call : ProbeCall) :
    RunsTo settings world (world.ask settings call).1 :=
  ⟨[call], rfl⟩

variable (health : HealthSpec) (senses : ProbeType → PodState → Sensing)

theorem runsTo_askStartup (world : HealthWorld) (pod : PodState) :
    RunsTo settings world (askStartup settings health senses world pod).1 := by
  unfold askStartup
  cases health.startup with
  | none => exact .refl world
  | some probe => exact runsTo_ask ..

theorem runsTo_evaluatePod
    (world : HealthWorld) (podName : String) (members : List PodState) :
    RunsTo settings world (evaluatePod settings health senses world podName members).1 := by
  unfold evaluatePod
  cases primaryOf members with
  | none => exact .refl world
  | some pod =>
      have started : RunsTo settings world (askStartup settings health senses world pod).1 :=
        runsTo_askStartup health senses world pod
      dsimp only
      split
      · exact started
      · exact started.trans ((runsTo_ask ..).trans (runsTo_ask ..))

theorem runsTo_evaluatePods
    (pods : List PodState) (world : HealthWorld) (names : List String) :
    RunsTo settings world (evaluatePods settings health senses pods world names).1 := by
  induction names generalizing world with
  | nil => exact .refl world
  | cons podName rest ih =>
      exact (runsTo_evaluatePod health senses world podName _).trans (ih _)

/-- An evaluation is a run of calls. -/
theorem runsTo_evaluate (world : HealthWorld) (pods : List PodState) :
    RunsTo settings world (world.evaluate settings health senses pods).1 :=
  runsTo_evaluatePods ..

end RunsTo

end Controllers
end K1s
