import K1s.Lib.Machine
import K1s.Authority.Service

/-!
# Stepping down

What one call of `run_once` makes of the leadership, for every way in which the
store can answer: when a leader that steps down gives the signal for it, and when
a leader whose lease has run out is no leader any more.
-/

namespace K1s
namespace Authority

/-- How the store answers each call, `none` for a call that raises. -/
abbrev Answers := (call : StoreCall) → Option call.Answer

/-! ## One call under given answers -/

section Result

variable {α β : Type} (answers : Answers) (test : StoreCall → Bool)

/-- What a program ends with when its calls are answered like this, and whether one
of its calls passes the test. -/
def result : ServiceProgram α → Option (α × Bool)
  | .done value => some (value, false)
  | .raise => none
  | .perform operation next =>
      (result (next (answers operation.call))).map fun ended =>
        (ended.1, test operation.call || ended.2)

theorem result_andThen (program : ServiceProgram α) (next : α → ServiceProgram β) :
    result answers test (program.andThen next) = (result answers test program).bind fun ended =>
        (result answers test (next ended.1)).map fun later =>
          (later.1, ended.2 || later.2) := by
  induction program with
  | done value =>
      simp only [Program.done_andThen, result, Option.bind_some, Bool.false_or]
      exact Option.map_id'.symm
  | raise => rfl
  | perform operation rest ih =>
      simp only [Program.perform_andThen, result, ih]
      cases result answers test (rest (answers operation.call)) with
      | none => rfl
      | some ended =>
          simp only [Option.bind_some, Option.map_some, Option.map_map]
          congr 1
          funext later
          simp only [Function.comp_apply, Bool.or_assoc]

variable (fields : Fields)

@[simp] theorem result_pure (value : α) :
    result answers test ((pure value : Routine α) fields) =
      some ((some value, fields), false) := rfl

@[simp] theorem result_throw :
    result answers test ((Routine.throw : Routine α) fields) = some ((none, fields), false) := rfl

@[simp] theorem result_self :
    result answers test (Routine.self fields) = some ((some fields, fields), false) := rfl

@[simp] theorem result_assign (change : Fields → Fields) :
    result answers test (Routine.assign change fields) =
      some ((some (), change fields), false) := rfl

@[simp] theorem result_done (value : α) :
    result answers test (.done value : ServiceProgram α) = some (value, false) := rfl

@[simp] theorem result_perform
    (operation : StoreOp) (next : operation.Reply → ServiceProgram α) :
    result answers test (.perform operation next) =
      (result answers test (next (answers operation.call))).map fun ended =>
        (ended.1, test operation.call || ended.2) := rfl

@[simp] theorem result_attempt (routine : Routine α) :
    result answers test (Routine.attempt routine fields) =
      (result answers test (routine fields)).map fun ended =>
        ((some ended.1.1, ended.1.2), ended.2) := by
  simp only [Routine.attempt, result_andThen, result, Option.map_some, Bool.or_false]
  cases result answers test (routine fields) <;> rfl

/-- A sequence, whose first part raises or gives a value. -/
@[simp] theorem result_bind (routine : Routine α) (next : α → Routine β) :
    result answers test ((routine >>= next) fields) =
      (result answers test (routine fields)).bind fun ended =>
        match ended.1.1 with
        | some value =>
            (result answers test (next value ended.1.2)).map fun later =>
              (later.1, ended.2 || later.2)
        | none => some ((none, ended.1.2), ended.2) := by
  change result answers test ((routine fields).andThen _) = _
  rw [result_andThen]
  congr 1
  funext ended
  obtain ⟨⟨_ | value, after⟩, flag⟩ := ended
  · simp only [result, Option.map_some, Bool.or_false]
  · rfl

end Result

@[mk_iff]
structure SameLeadership (before after : Fields) : Prop where
  isLeader : after.isLeader = before.isLeader
  leaderInfo : after.leaderInfo = before.leaderInfo
  leaderLease : after.leaderLease = before.leaderLease
  leaderLost : after.leaderLost = before.leaderLost

/-- The call gives the controller a leader lease that lasts a TTL from now: a
keepalive that is answered with a TTL that is left, or a grant. -/
def renews (answers : Answers) : StoreCall → Bool
  | .leaderKeepalive leaseId => (answers (.leaderKeepalive leaseId)).any fun ttl => decide (0 < ttl)
  | .electionGrant ttlSeconds => (answers (.electionGrant ttlSeconds)).isSome
  | _ => false

section Service

variable (config : AuthorityConfig) (tick : Tick) (answers : Answers) (fields : Fields)

/-! ## The presence stage -/

/-- A new presence lease is granted and published. -/
def presenceGranted : Bool :=
  (answers (.presenceGrant config.leaseTtlSeconds)).any fun leaseId =>
    (answers (.presencePut leaseId (presenceRecord config tick fields))).isSome

/-- The presence stage does not raise. -/
def presenceKept : Bool :=
  match fields.presenceLease with
  | none => presenceGranted config tick answers fields
  | some lease =>
      decide (tick.now < lease.renewAt) ||
        if (answers (.presenceKeepalive lease.leaseId)).isSome then
          (answers (.presencePut lease.leaseId (presenceRecord config tick fields))).isSome
        else presenceGranted config tick answers fields

theorem result_grantPresence :
    ∃ ended : Option Unit × Fields,
      result answers (renews answers) (grantPresence config tick fields) = some (ended, false) ∧
      SameLeadership fields ended.2 ∧
      ended.1.isSome = presenceGranted config tick answers fields := by
  cases granted : answers (.presenceGrant config.leaseTtlSeconds) with
  | none =>
      simp [grantPresence, presenceGranted, Routine.call, renews, granted, sameLeadership_iff]
  | some leaseId =>
      cases put : answers (.presencePut leaseId (presenceRecord config tick fields)) <;>
        simp [grantPresence, publishPresence, presenceGranted, Routine.call, renews, granted, put,
          sameLeadership_iff]

/-- The presence stage leaves the leadership as it is. -/
theorem result_ensurePresence :
    ∃ ended : Option Unit × Fields,
      result answers (renews answers) (ensurePresence config tick fields) = some (ended, false) ∧
      SameLeadership fields ended.2 ∧
      ended.1.isSome = presenceKept config tick answers fields := by
  obtain ⟨ended, granted, same, success⟩ := result_grantPresence config tick answers fields
  cases held : fields.presenceLease with
  | none =>
      obtain ⟨_ | value, after⟩ := ended
      · simp [ensurePresence, presenceKept, held, granted]
        exact ⟨same, success.symm⟩
      · simp [ensurePresence, presenceKept, held, granted]
        exact ⟨⟨same.1, same.2, same.3, same.4⟩, success.symm⟩
  | some lease =>
      by_cases early : tick.now < lease.renewAt
      · simp [ensurePresence, presenceKept, held, early, sameLeadership_iff]
      · cases kept : answers (.presenceKeepalive lease.leaseId) with
        | none =>
            simp [ensurePresence, presenceKept, Routine.call, renews, held, early, kept, granted]
            exact ⟨same, success⟩
        | some ttl =>
            cases put : answers (.presencePut lease.leaseId
              (presenceRecord config tick fields)) <;>
            simp [ensurePresence, publishPresence, presenceKept, Routine.call, renews, held,
              early, kept, put, sameLeadership_iff]

/-! ## The leader and the followers -/

/-- A leader is still one after the renewal stage. -/
def keepsLeading : Bool :=
  match fields.leaderLease with
  | none => false
  | some lease =>
      decide (tick.now < lease.renewAt) || ((answers (.leaderKeepalive lease.leaseId)).isSome &&
          (answers .renewedRead).all (isOwn config))

/-- A leader that steps down in the renewal stage gives the signal. -/
def signals : Bool :=
  fields.leaderLease.isSome && (answers .lostRead).isSome

def leaseRenewed : Bool :=
  fields.leaderLease.any fun lease =>
    !decide (tick.now < lease.renewAt) && renews answers (.leaderKeepalive lease.leaseId)

theorem result_loseLeadership :
    ∃ ended : Option Unit × Fields,
      result answers (renews answers) (loseLeadership config tick fields) = some (ended, false) ∧
      ended.2.isLeader = false ∧
      ended.2.leaderLost = (fields.leaderLost || (answers .lostRead).isSome) := by
  cases read : answers .lostRead <;>
    simp [loseLeadership, scheduleRetry, Routine.call, renews, read]

theorem result_renewLeader :
    ∃ ended : Option Unit × Fields,
      result answers (renews answers) (renewLeader config tick fields) =
        some (ended, leaseRenewed tick answers fields) ∧
      ended.2.isLeader = (fields.isLeader && keepsLeading config tick answers fields) ∧
      (keepsLeading config tick answers fields = false →
        ended.2.leaderLost = (fields.leaderLost || signals answers fields)) := by
  obtain ⟨ended, lost, stopped, signalled⟩ := result_loseLeadership config tick answers fields
  cases held : fields.leaderLease with
  | none =>
      simp [renewLeader, scheduleRetry, leaseRenewed, keepsLeading, signals, held]
  | some lease =>
      by_cases early : tick.now < lease.renewAt
      · simp [renewLeader, leaseRenewed, keepsLeading, held, early]
      · cases kept : answers (.leaderKeepalive lease.leaseId) with
        | none =>
            simp [renewLeader, leaseRenewed, keepsLeading, signals, Routine.call, renews, held,
              early, kept, lost, stopped, signalled]
        | some ttl =>
            cases read : answers .renewedRead with
            | none =>
                simp [renewLeader, leaseRenewed, keepsLeading, Routine.call, renews, held,
                  early, kept, read]
            | some info =>
                cases own : isOwn config info <;>
                  simp [renewLeader, leaseRenewed, keepsLeading, signals, Routine.call, renews,
                    held, early, kept, read, own, lost, stopped, signalled]

/-- A follower that becomes the leader has been granted a lease. -/
theorem result_attemptLeadership (follower : fields.isLeader = false) :
    ∃ (ended : Option Unit × Fields) (flag : Bool),
      result answers (renews answers) (attemptLeadership config tick fields) = some (ended, flag) ∧
      (ended.2.isLeader = true → flag = true) := by
  cases granted : answers (.electionGrant config.leaseTtlSeconds) with
  | none => simp [attemptLeadership, Routine.call, renews, granted, follower]
  | some leaseId =>
      cases claimed : answers (.claim ⟨config.controllerId, leaseId, tick.acquiredIso,
        config.advertiseAddr, config.version⟩) with
      | none =>
          simp [attemptLeadership, scheduleRetry, Routine.call, renews, granted, claimed]
      | some success =>
          cases success with
          | false =>
              cases read : answers .refusedRead <;>
                simp [attemptLeadership, scheduleRetry, Routine.call, renews, granted, claimed,
                  read]
          | true =>
              cases read : answers .claimedRead with
              | none =>
                  simp [attemptLeadership, Routine.call, renews, granted, claimed, read]
              | some leaderInfo =>
                  cases leaderInfo <;>
                    simp [attemptLeadership, scheduleRetry, Routine.call, renews, granted,
                      claimed, read]

theorem result_follow (follower : fields.isLeader = false) :
    ∃ (ended : Option Unit × Fields) (flag : Bool),
      result answers (renews answers) (follow config tick fields) = some (ended, flag) ∧
      (ended.2.isLeader = true → flag = true) := by
  have claims : ∀ polled : Fields, polled.isLeader = false →
      ∃ (ended : Option Unit × Fields) (flag : Bool), result answers (renews answers)
          ((if polled.leaderInfo = none ∧ polled.nextElectionAttemptAt ≤ tick.now then
            attemptLeadership config tick
          else pure ()) polled) = some (ended, flag) ∧
        (ended.2.isLeader = true → flag = true) := by
    intro polled still
    split
    · exact result_attemptLeadership config tick answers polled still
    · simp [still]
  by_cases due : fields.nextLeaderPollAt ≤ tick.now
  · cases read : answers .pollRead with
    | none => simp [follow, Routine.call, renews, due, read, follower]
    | some leaderInfo =>
        obtain ⟨ended, flag, finished, granted⟩ := claims
          { fields with
            leaderInfo := leaderInfo
            ready := true
            nextLeaderPollAt := tick.now + config.followerPollSeconds } follower
        refine ⟨ended, flag, ?_, granted⟩
        simpa [follow, Routine.call, renews, due, read] using finished
  · obtain ⟨ended, flag, finished, granted⟩ := claims fields follower
    refine ⟨ended, flag, ?_, granted⟩
    simpa [follow, due] using finished

/-! ## One call of `run_once` -/

/-- What a call of `run_once` ends with, by the stage that decides. -/
inductive RunOnceEnds : Option Rat × Fields → Bool → Prop
  /-- The presence stage raised. -/
  | presenceLost {ended : Option Rat × Fields}
      (presence : presenceKept config tick answers fields = false)
      (same : SameLeadership fields ended.2) : RunOnceEnds ended false
  /-- The leader went through the renewal stage. -/
  | leader {ended : Option Rat × Fields}
      (presence : presenceKept config tick answers fields = true)
      (leads : fields.isLeader = true)
      (kept : ended.2.isLeader = keepsLeading config tick answers fields)
      (signalled : keepsLeading config tick answers fields = false →
        ended.2.leaderLost = (fields.leaderLost || signals answers fields)) :
      RunOnceEnds ended (leaseRenewed tick answers fields)
  /-- A follower looked for a leader. -/
  | follower {ended : Option Rat × Fields} {flag : Bool}
      (follows : fields.isLeader = false)
      (granted : ended.2.isLeader = true → flag = true) : RunOnceEnds ended flag

/-- Every call of `run_once` ends, and in one of these ways. -/
theorem result_runOnce (enabled : config.enabled = true) :
    ∃ (ended : Option Rat × Fields) (flag : Bool),
      result answers (renews answers) (runOnce config tick fields) = some (ended, flag) ∧
      RunOnceEnds config tick answers fields ended flag := by
  obtain ⟨⟨value, middle⟩, ensured, same, success⟩ :=
    result_ensurePresence config tick answers fields
  cases value with
  | none =>
      refine ⟨(none, middle), false, ?_, .presenceLost success.symm same⟩
      simp [runOnce, enabled, ensured]
  | some kept =>
      cases leads : fields.isLeader with
      | true =>
          obtain ⟨⟨renewed, after⟩, finished, stays, signalled⟩ :=
            result_renewLeader config tick answers middle
          have sameLease : middle.leaderLease = fields.leaderLease := same.leaderLease
          have sameLost : middle.leaderLost = fields.leaderLost := same.leaderLost
          have sameKeeps : keepsLeading config tick answers middle =
              keepsLeading config tick answers fields := by
            simp only [keepsLeading, sameLease]
          have sameSignals : signals answers middle = signals answers fields := by
            simp only [signals, sameLease]
          have sameRenewed : leaseRenewed tick answers middle =
              leaseRenewed tick answers fields := by
            simp only [leaseRenewed, sameLease]
          have middleLeads : middle.isLeader = true := same.isLeader.trans leads
          rw [sameKeeps, middleLeads, Bool.true_and] at stays
          rw [sameKeeps, sameSignals, sameLost] at signalled
          rw [sameRenewed] at finished
          cases renewed with
          | none =>
              refine ⟨(none, after), _, ?_, .leader success.symm leads stays signalled⟩
              simp [runOnce, enabled, ensured, middleLeads, finished]
          | some done =>
              refine ⟨(some (nextSleep config tick after), after), _, ?_,
                .leader success.symm leads stays signalled⟩
              simp [runOnce, enabled, ensured, middleLeads, finished]
      | false =>
          have middleFollows : middle.isLeader = false := same.isLeader.trans leads
          obtain ⟨⟨followed, after⟩, flag, finished, granted⟩ :=
            result_follow config tick answers middle middleFollows
          cases followed with
          | none =>
              refine ⟨(none, after), flag, ?_, .follower leads granted⟩
              simp [runOnce, enabled, ensured, middleFollows, finished]
          | some done =>
              refine ⟨(some (nextSleep config tick after), after), flag, ?_,
                .follower leads granted⟩
              simp [runOnce, enabled, ensured, middleFollows, finished]

theorem result_runOnce_disabled (disabled : config.enabled = false) :
    result answers (renews answers) (runOnce config tick fields) =
      some ((some 1, { fields with isLeader := true, ready := true }), false) := by
  simp [runOnce, disabled]

/-! ## The signal for a leadership that is lost -/

/-- The leader steps down without giving the signal: it holds no leader lease, or
the lease is due, the leadership turns out to be lost, and the read of the leader
key that comes before the signal raises. -/
structure StepsDownSilently : Prop where
  enabled : config.enabled = true
  leads : fields.isLeader = true
  unsignalled : fields.leaderLost = false
  presence : presenceKept config tick answers fields = true
  silent : fields.leaderLease = none ∨
    ∃ lease, fields.leaderLease = some lease ∧ lease.renewAt ≤ tick.now ∧
      answers .lostRead = none ∧
      (answers (.leaderKeepalive lease.leaseId) = none ∨
        ∃ info, answers .renewedRead = some info ∧ isOwn config info = false)

/-- The renewal stage ends a leadership and gives no signal. -/
theorem silent_iff :
    (keepsLeading config tick answers fields = false ∧ signals answers fields = false) ↔
      (fields.leaderLease = none ∨
        ∃ lease, fields.leaderLease = some lease ∧ lease.renewAt ≤ tick.now ∧
          answers .lostRead = none ∧
          (answers (.leaderKeepalive lease.leaseId) = none ∨
            ∃ info, answers .renewedRead = some info ∧ isOwn config info = false)) := by
  cases held : fields.leaderLease with
  | none => simp [keepsLeading, signals, held]
  | some lease =>
      cases read : answers .renewedRead with
      | none =>
          cases kept : answers (.leaderKeepalive lease.leaseId) <;>
            simp [keepsLeading, signals, held, kept, read]
      | some info =>
          cases kept : answers (.leaderKeepalive lease.leaseId) <;>
            simp [keepsLeading, signals, held, kept, read, and_assoc, and_comm]

/-- Whatever the store answers, a call of `run_once` that ends a leadership has
given the signal, unless it steps down silently. -/
theorem leaderLost_of_stepDown_iff :
    (∃ (value : Option Rat) (after : Fields) (flag : Bool),
      result answers (renews answers) (runOnce config tick fields) = some ((value, after), flag) ∧
      (fields.isLeader = true → after.isLeader = false → after.leaderLost = true)) ↔
    ¬ StepsDownSilently config tick answers fields := by
  cases enabled : config.enabled with
  | false =>
      rw [result_runOnce_disabled config tick answers fields enabled]
      refine iff_of_true ⟨_, _, _, rfl, ?_⟩ fun silently => ?_
      · intro leads stopped
        cases stopped
      · exact Bool.false_ne_true (enabled.symm.trans silently.enabled)
  | true =>
      obtain ⟨ended, flag, finished, ends⟩ :=
        result_runOnce config tick answers fields enabled
      have restated : (∃ (value : Option Rat) (after : Fields) (flag : Bool),
          result answers (renews answers) (runOnce config tick fields) =
            some ((value, after), flag) ∧
          (fields.isLeader = true → after.isLeader = false → after.leaderLost = true)) ↔
          (fields.isLeader = true → ended.2.isLeader = false → ended.2.leaderLost = true) := by
        obtain ⟨value, after⟩ := ended
        rw [finished]
        simp
      rw [restated]
      cases ends with
      | presenceLost presence same =>
          refine iff_of_true ?_ fun silently => ?_
          · intro leads stopped
            rw [same.isLeader, leads] at stopped
            cases stopped
          · exact Bool.false_ne_true (presence.symm.trans silently.presence)
      | leader presence leads kept signalled =>
          have silently : StepsDownSilently config tick answers fields ↔
              fields.leaderLost = false ∧ keepsLeading config tick answers fields = false ∧
                signals answers fields = false := by
            rw [silent_iff]
            exact ⟨fun silently => ⟨silently.unsignalled, silently.silent⟩,
              fun ⟨unsignalled, silent⟩ => ⟨enabled, leads, unsignalled, presence, silent⟩⟩
          rw [silently, kept]
          cases stays : keepsLeading config tick answers fields with
          | true => simp
          | false => simp [signalled stays, leads, or_iff_not_imp_left]
      | follower follows granted =>
          refine iff_of_true ?_ fun silently => ?_
          · intro leads
            exact absurd (follows.symm.trans leads) Bool.false_ne_true
          · exact Bool.false_ne_true (follows.symm.trans silently.leads)

end Service

/-- A controller with a TTL of 15 seconds that keeps its leases alive every 5. -/
def sampleConfig : AuthorityConfig where
  enabled := true
  controllerId := "a"
  advertiseAddr := none
  leaseTtlSeconds := 15
  keepaliveIntervalSeconds := 5
  standbyRetryMinSeconds := 1
  standbyRetryMaxSeconds := 2
  followerPollSeconds := 2
  version := "v1"
  ttl_ge_five := by decide

/-- A call of `run_once` at this time. -/
def tickAt (now : Rat) : Tick := ⟨now, "t", "t", 1⟩

/-- The controller holds the leader key. -/
def sampleLeader : LeaderInfo := ⟨"a", 7, 2, none, "t", "v1"⟩

/-- The store answers every call: leases 1 and 2 are granted, and the claim
succeeds. -/
def allAnswered : Answers
  | .presenceGrant _ => some 1
  | .presenceKeepalive _ => some (15 : Int)
  | .presencePut _ _ => some ()
  | .electionGrant _ => some (2 : Int)
  | .claim _ => some true
  | .revoke _ => some ()
  | .leaderKeepalive _ => some (15 : Int)
  | .pollRead => some none
  | .refusedRead => some none
  | .claimedRead => some (some sampleLeader)
  | .renewedRead => some (some sampleLeader)
  | .lostRead => some (some sampleLeader)

/-- The leases of the presence are kept and the store raises otherwise. -/
def presenceOnly : Answers
  | .presenceKeepalive _ => some (15 : Int)
  | .presencePut _ _ => some ()
  | _ => none

/-- The fields of a controller that became the leader at time 0. -/
def leading : Fields where
  isLeader := true
  leaderInfo := some sampleLeader
  presenceLease := some ⟨1, 5⟩
  leaderLease := some ⟨2, 5⟩
  ready := true
  leaderLost := false
  nextElectionAttemptAt := 0
  nextLeaderPollAt := 2
  presenceObservedAt := some "t"

/-- The first call of `run_once` makes the controller the leader; at the next one
the keepalive and the read of the leader key raise, and it is no leader any more and
has not given the signal. -/
theorem stepsDown_without_leaderLost :
    result allAnswered (renews allAnswered) (runOnce sampleConfig (tickAt 0) .initial) =
      some ((some 1, leading), true) ∧
    ∃ after, result presenceOnly (renews presenceOnly) (runOnce sampleConfig (tickAt 5) leading) =
        some ((none, after), false) ∧
      leading.isLeader = true ∧ after.isLeader = false ∧ after.leaderLost = false := by
  refine ⟨by decide +kernel, _, rfl, rfl, ?_⟩
  decide +kernel

end Authority
end K1s
