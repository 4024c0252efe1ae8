import K1s.Authority.StepDown

/-!
# How long a leadership lasts

The runs of one controller: a sequence of calls of `run_once`, each at its own time
and with its own answers from the store.  The state remembers, beside the fields of
the service, when the leader lease was last granted or kept alive.
-/

namespace K1s
namespace Authority

/-- The fields of the service, and the time of the last call that gave the
controller a leader lease with a TTL ahead of it. -/
structure Tenure where
  fields : Fields
  renewed : Option Rat
  deriving DecidableEq

/-- A new service. -/
def Tenure.initial : Tenure := ⟨.initial, none⟩

/-- One call of `run_once`. -/
def Tenure.step
    (config : AuthorityConfig) (tenure : Tenure)
    (call : Tick × Answers) : Option Tenure :=
  (result call.2 (renews call.2) (runOnce config call.1 tenure.fields)).map fun ended =>
    ⟨ended.1.2, if ended.2 then some call.1.now else tenure.renewed⟩

section Bounded

variable (config : AuthorityConfig) (tenure : Tenure) (call : Tick × Answers)

/-- The TTL of the leader lease has passed. -/
def Tenure.Expired (now : Rat) : Prop :=
  ∃ renewed, tenure.renewed = some renewed ∧ renewed + config.leaseTtlSeconds ≤ now

/-- The call ends, and it does not end with a leader whose lease has run out. -/
def EndsBounded : Prop :=
  ∃ next, tenure.step config call = some next ∧
    (next.Expired config call.1.now → next.fields.isLeader = false)

/-- A leader whose lease has run out does not notice it: the presence stage raises
before the renewal stage, or the renewal is not due, or the keepalive is answered
with no time left and the read of the leader key raises or still shows this
controller. -/
structure Overstays : Prop where
  enabled : config.enabled = true
  leads : tenure.fields.isLeader = true
  expired : tenure.Expired config call.1.now
  unnoticed : presenceKept config call.1 call.2 tenure.fields = false ∨
    ∃ lease, tenure.fields.leaderLease = some lease ∧ (call.1.now < lease.renewAt ∨
        ∃ ttl, call.2 (.leaderKeepalive lease.leaseId) = some ttl ∧ ttl ≤ 0 ∧
          ∀ info, call.2 .renewedRead = some info → isOwn config info = true)

variable {config tenure call}

/-- A lease that is renewed now has not run out. -/
theorem not_expired_of_renewed
    (now : Rat)
    (renewed : tenure.renewed = some now) : ¬ tenure.Expired config now := by
  rintro ⟨last, same, passed⟩
  obtain rfl : now = last := Option.some.inj (renewed.symm.trans same)
  have positive : (5 : Rat) ≤ (config.leaseTtlSeconds : Rat) := by
    exact_mod_cast config.ttl_ge_five
  linarith

/-- What the renewal stage has to answer for a leader to stay one without a new
lease. -/
theorem unnoticed_iff (presence : presenceKept config call.1 call.2 tenure.fields = true) :
    (leaseRenewed call.1 call.2 tenure.fields = false ∧
      keepsLeading config call.1 call.2 tenure.fields = true) ↔
      (presenceKept config call.1 call.2 tenure.fields = false ∨
        ∃ lease, tenure.fields.leaderLease = some lease ∧ (call.1.now < lease.renewAt ∨
            ∃ ttl, call.2 (.leaderKeepalive lease.leaseId) = some ttl ∧ ttl ≤ 0 ∧
              ∀ info, call.2 .renewedRead = some info → isOwn config info = true)) := by
  rw [presence]
  cases held : tenure.fields.leaderLease with
  | none => simp [leaseRenewed, keepsLeading, held]
  | some lease =>
      by_cases early : call.1.now < lease.renewAt
      · simp [leaseRenewed, keepsLeading, held, early]
      · cases kept : call.2 (.leaderKeepalive lease.leaseId) with
        | none => simp [leaseRenewed, keepsLeading, renews, held, early, kept]
        | some ttl =>
            cases read : call.2 .renewedRead <;>
              simp [leaseRenewed, keepsLeading, renews, held, early, kept, read]

/-- One call. -/
theorem endsBounded_iff (untouched : config.enabled = false → tenure.renewed = none) :
    EndsBounded config tenure call ↔ ¬ Overstays config tenure call := by
  cases enabled : config.enabled with
  | false =>
      refine iff_of_true
        ⟨⟨{ tenure.fields with isLeader := true, ready := true }, tenure.renewed⟩, ?_, ?_⟩
        fun overstays => ?_
      · simp [Tenure.step, result_runOnce_disabled _ _ _ _ enabled]
      · rintro ⟨last, same, passed⟩
        rw [untouched enabled] at same
        cases same
      · exact Bool.false_ne_true (enabled.symm.trans overstays.enabled)
  | true =>
      obtain ⟨⟨value, after⟩, flag, finished, ends⟩ :=
        result_runOnce config call.1 call.2 tenure.fields enabled
      have stepped : tenure.step config call =
          some ⟨after, if flag then some call.1.now else tenure.renewed⟩ := by
        simp [Tenure.step, finished]
      have bounded : EndsBounded config tenure call ↔
          (flag = false → tenure.Expired config call.1.now → after.isLeader = false) := by
        constructor
        · rintro ⟨next, made, inTime⟩ unrenewed expired
          obtain rfl := Option.some.inj (stepped.symm.trans made)
          rw [unrenewed] at inTime
          exact inTime expired
        · intro inTime
          refine ⟨_, stepped, fun expired => ?_⟩
          cases flag with
          | true => exact absurd expired (not_expired_of_renewed _ rfl)
          | false => exact inTime rfl expired
      rw [bounded]
      cases ends with
      | presenceLost presence same =>
          have unchanged : after.isLeader = tenure.fields.isLeader := same.isLeader
          rw [unchanged]
          constructor
          · intro inTime overstays
            have stopped := inTime rfl overstays.expired
            exact Bool.false_ne_true (stopped.symm.trans overstays.leads)
          · intro notOverstays _ expired
            by_contra leads
            exact notOverstays
              ⟨enabled, Bool.eq_true_of_not_eq_false leads, expired, .inl presence⟩
      | leader presence leads kept signalled =>
          have stays : after.isLeader = keepsLeading config call.1 call.2 tenure.fields := kept
          rw [stays]
          constructor
          · intro inTime overstays
            obtain ⟨unrenewed, keeps⟩ := (unnoticed_iff presence).mpr overstays.unnoticed
            have stopped := inTime unrenewed overstays.expired
            exact Bool.false_ne_true (stopped.symm.trans keeps)
          · intro notOverstays unrenewed expired
            by_contra keeps
            have unnoticed := (unnoticed_iff presence).mp
              ⟨unrenewed, Bool.eq_true_of_not_eq_false keeps⟩
            exact notOverstays ⟨enabled, leads, expired, unnoticed⟩
      | follower follows granted =>
          refine iff_of_true ?_ fun overstays => ?_
          · intro unrenewed _
            by_contra leads
            have renewed := granted (Bool.eq_true_of_not_eq_false leads)
            exact Bool.false_ne_true (unrenewed.symm.trans renewed)
          · exact Bool.false_ne_true (follows.symm.trans overstays.leads)

/-- A service that is not enabled never has a leader lease. -/
theorem untouched_step
    {next : Tenure} (untouched : config.enabled = false → tenure.renewed = none)
    (stepped : tenure.step config call = some next) :
    config.enabled = false → next.renewed = none := by
  intro disabled
  simp only [Tenure.step, result_runOnce_disabled _ _ _ _ disabled, Option.map_some,
    Bool.false_eq_true, if_false, Option.some.injEq] at stepped
  exact stepped ▸ untouched disabled

end Bounded

/-- Every call of a run ends without a leader whose lease has run out, if and only if
no call of it lets a leader overstay. -/
theorem endsBounded_run_iff (config : AuthorityConfig) (calls : List (Tick × Answers)) :
    Machine.Along (Tenure.step config) (EndsBounded config) .initial calls ↔
      Machine.Along (Tenure.step config) (fun tenure call => ¬ Overstays config tenure call)
        .initial calls := by
  let untouched : Tenure → Prop := fun tenure =>
    config.enabled = false → tenure.renewed = none
  have preserves : ∀ tenure call next, untouched tenure →
      tenure.step config call = some next → untouched next :=
    fun _ _ _ before stepped => untouched_step before stepped
  have same : ∀ tenure call, untouched tenure →
      (EndsBounded config tenure call ↔ ¬ Overstays config tenure call) :=
    fun _ _ before => endsBounded_iff before
  exact Machine.along_iff_of_invariant preserves same (fun _ => rfl) calls

/-- The store raises in the presence stage and in every other one. -/
def noneAnswered : Answers := fun _ => none

/-- A controller becomes the leader at time 0, and from then on the store cannot be
reached.  At time 100, long after its lease of 15 seconds has run out, it still takes
itself for the leader. -/
theorem not_endsBounded_storeUnreachable :
    ¬ Machine.Along (Tenure.step sampleConfig) (EndsBounded sampleConfig) .initial
      [(tickAt 0, allAnswered), (tickAt 100, noneAnswered)] := by
  rintro ⟨_, rest⟩
  obtain ⟨⟨next, stepped, bounded⟩, _⟩ := rest ⟨leading, some 0⟩ (by decide +kernel)
  have stays : Tenure.step sampleConfig ⟨leading, some 0⟩ (tickAt 100, noneAnswered) =
      some ⟨leading, some 0⟩ := by decide +kernel
  obtain rfl := Option.some.inj (stays.symm.trans stepped)
  have expired : Tenure.Expired sampleConfig ⟨leading, some 0⟩ 100 :=
    ⟨0, rfl, by decide +kernel⟩
  exact Bool.false_ne_true (bounded expired).symm

end Authority
end K1s
