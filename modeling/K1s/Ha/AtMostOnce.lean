import K1s.Ha.FenceRuns

/-!
# How often a guarded effect is carried out

A delivery is refused as a duplicate once the operation has been committed.
Between the look-up of one delivery and its commit nothing refuses a second
delivery of the same operation, so the effect is carried out at most once along
those runs in which no delivery looks the operation up while another one of it
is under way.
-/

namespace K1s
namespace Ha

open Machine

/-- The scope and operation of a delivery between its look-up and its
commit. -/
def DeliveryPhase.underWay : DeliveryPhase → Option (String × String)
  | .looked scope envelope _ => some (scope, envelope.operationId)
  | .accepted scope envelope => some (scope, envelope.operationId)
  | .executed scope envelope => some (scope, envelope.operationId)
  | _ => none

namespace FenceSystem

/-! ## `begin` without interruption -/

/-! ## The invariant -/

/-- No delivery looks an operation up while another delivery of the same
operation is between its look-up and its commit. -/
def ExclusiveLookup (system : FenceSystem) (action : FenceAction) : Prop :=
  ∀ delivery scope envelope current, action = .lookup delivery →
    system.deliveries delivery = .selected scope envelope current →
    ∀ other, (system.deliveries other).underWay ≠ some (scope, envelope.operationId)

/-- What holds between the deliveries, the effects and the committed
operations. -/
structure AtMostOnce (system : FenceSystem) : Prop where
  /-- One delivery at a time is under way for an operation. -/
  exclusive : ∀ delivery other operation, (system.deliveries delivery).underWay = some operation →
    (system.deliveries other).underWay = some operation → delivery = other
  /-- No effect has been carried out twice. -/
  once : ∀ operation, system.executions.count operation ≤ 1
  /-- An effect is committed, or its delivery is about to commit it. -/
  settled : ∀ scope operationId, (scope, operationId) ∈ system.executions →
    (system.store.fenceOperations scope operationId).isSome ∨ ∃ delivery envelope,
        system.deliveries delivery = .executed scope envelope ∧
        envelope.operationId = operationId
  /-- A delivery under way has not been carried out before. -/
  pending : ∀ delivery operation, (system.deliveries delivery).underWay = some operation →
    (∀ scope envelope, system.deliveries delivery ≠ .executed scope envelope) →
    operation ∉ system.executions

theorem atMostOnce_start (store : FenceStore) : (start store).AtMostOnce where
  exclusive := by
    intro delivery other operation under
    simp [start, DeliveryPhase.underWay] at under
  once := by simp [start]
  settled := by simp [start]
  pending := by simp [start]

variable {system : FenceSystem}

namespace AtMostOnce

/-- A delivery that has not been carried out may move on or be closed. -/
theorem move
    (holds : system.AtMostOnce) (delivery : Nat) (phase : DeliveryPhase)
    (notExecuted : ∀ scope envelope, system.deliveries delivery ≠ .executed scope envelope)
    (same : ∀ operation, phase.underWay = some operation →
      (system.deliveries delivery).underWay = some operation) :
    (system.setPhase delivery phase).AtMostOnce where
  exclusive := by
    have under : ∀ other operation, ((system.setPhase delivery phase).deliveries other).underWay =
            some operation →
          (system.deliveries other).underWay = some operation := by
      intro other operation otherUnder
      simp only [setPhase_deliveries] at otherUnder
      split at otherUnder
      · rename_i equal
        exact equal ▸ same operation otherUnder
      · exact otherUnder
    intro first second operation firstUnder secondUnder
    exact holds.exclusive first second operation
      (under first operation firstUnder) (under second operation secondUnder)
  once := holds.once
  settled := by
    intro scope operationId executed
    refine (holds.settled scope operationId executed).imp_right ?_
    rintro ⟨other, envelope, executedPhase, sameOperation⟩
    have different : other ≠ delivery := by
      rintro rfl
      exact notExecuted scope envelope executedPhase
    exact ⟨other, envelope, by simp [different, executedPhase], sameOperation⟩
  pending := by
    intro other operation under notYet
    simp only [setPhase_deliveries] at under notYet
    split at under
    · rename_i equal
      subst equal
      exact holds.pending other operation (same operation under) notExecuted
    · rename_i different
      simp only [different, if_false] at notYet
      exact holds.pending other operation under notYet

/-- The tables may gain operations. -/
theorem withStore
    {store : FenceStore} (holds : system.AtMostOnce)
    (kept : ∀ scope operationId, (system.store.fenceOperations scope operationId).isSome →
        (store.fenceOperations scope operationId).isSome) :
    ({ system with store := store } : FenceSystem).AtMostOnce where
  exclusive := holds.exclusive
  once := holds.once
  settled := by
    intro scope operationId executed
    exact (holds.settled scope operationId executed).imp_left (kept scope operationId)
  pending := holds.pending

variable {envelope : MutationEnvelope} {delivery : Nat} {scope : String}

/-- A delivery that found no committed operation, and no other delivery of the
operation under way, is the only one under way. -/
theorem look
    {current : Option FenceScopeState} (holds : system.AtMostOnce)
    (phase : system.deliveries delivery = .selected scope envelope current)
    (absent : system.store.fenceOperations scope envelope.operationId = none)
    (exclusive : ∀ other, (system.deliveries other).underWay ≠
      some (scope, envelope.operationId)) :
    (system.setPhase delivery (.looked scope envelope current)).AtMostOnce where
  exclusive := by
    intro first second operation firstUnder secondUnder
    simp only [setPhase_deliveries] at firstUnder secondUnder
    split at firstUnder <;> split at secondUnder
    · rename_i firstEqual secondEqual
      exact firstEqual.trans secondEqual.symm
    · exact absurd (secondUnder.trans firstUnder.symm) (exclusive second)
    · exact absurd (firstUnder.trans secondUnder.symm) (exclusive first)
    · exact holds.exclusive first second operation firstUnder secondUnder
  once := holds.once
  settled := by
    intro otherScope operationId executed
    refine (holds.settled otherScope operationId executed).imp_right ?_
    rintro ⟨other, otherEnvelope, executedPhase, same⟩
    have different : other ≠ delivery := by
      rintro rfl
      simp [phase] at executedPhase
    exact ⟨other, otherEnvelope, by simp [different, executedPhase], same⟩
  pending := by
    intro other operation under notYet
    simp only [setPhase_deliveries] at under notYet
    split at under
    · -- An effect of this operation would be committed or still under way.
      simp only [DeliveryPhase.underWay, Option.some.injEq] at under
      subst under
      intro executed
      rcases holds.settled scope envelope.operationId executed with
        committed | ⟨executor, otherEnvelope, executedPhase, same⟩
      · simp [absent] at committed
      · exact exclusive executor
          (by simp [executedPhase, DeliveryPhase.underWay, same])
    · rename_i different
      simp only [different, if_false] at notYet
      exact holds.pending other operation under notYet

/-- Carrying the effect of an accepted delivery out. -/
theorem execute
    (holds : system.AtMostOnce) (phase : system.deliveries delivery = .accepted scope envelope) :
    ({ system.setPhase delivery (.executed scope envelope) with
      executions := (scope, envelope.operationId) :: system.executions } :
        FenceSystem).AtMostOnce := by
  have moved := holds.move delivery (.executed scope envelope) (by simp [phase])
    (by simp [phase, DeliveryPhase.underWay])
  have fresh : (scope, envelope.operationId) ∉ system.executions :=
    holds.pending delivery _ (by simp [phase, DeliveryPhase.underWay]) (by simp [phase])
  refine ⟨moved.exclusive, ?_, ?_, ?_⟩
  · intro operation
    by_cases same : operation = (scope, envelope.operationId)
    · subst same
      simp [List.count_eq_zero_of_not_mem fresh]
    · simpa [List.count_cons, Ne.symm same] using holds.once operation
  · intro otherScope operationId executed
    rcases List.mem_cons.mp executed with equal | earlier
    · obtain ⟨rfl, rfl⟩ := Prod.mk.inj equal
      exact .inr ⟨delivery, envelope, by simp, rfl⟩
    · exact moved.settled otherScope operationId earlier
  · intro other operation under notYet
    have different : other ≠ delivery := by
      rintro rfl
      exact notYet scope envelope (by simp)
    rintro executed
    rcases List.mem_cons.mp executed with rfl | earlier
    · exact different (moved.exclusive other delivery _ under
        (by simp [DeliveryPhase.underWay]))
    · exact moved.pending other operation under notYet earlier

/-- Committing a delivery that was carried out. -/
theorem finish
    {scope now : String} (holds : system.AtMostOnce)
    (phase : system.deliveries delivery = .executed scope envelope) :
    ({ system.setPhase delivery .closed with
      store := system.store.commit scope envelope now } : FenceSystem).AtMostOnce where
  exclusive := by
    intro first second operation firstUnder secondUnder
    simp only [setPhase_deliveries] at firstUnder secondUnder
    split at firstUnder
    · simp [DeliveryPhase.underWay] at firstUnder
    split at secondUnder
    · simp [DeliveryPhase.underWay] at secondUnder
    exact holds.exclusive first second operation firstUnder secondUnder
  once := holds.once
  settled := by
    intro otherScope operationId executed
    rcases holds.settled otherScope operationId executed with
      committed | ⟨other, otherEnvelope, executedPhase, same⟩
    · exact .inl (FenceStore.commit_isSome _ _ _ _ _ _ committed)
    · by_cases equal : other = delivery
      · subst equal
        rw [phase] at executedPhase
        obtain ⟨rfl, rfl⟩ := DeliveryPhase.executed.inj executedPhase
        subst same
        exact .inl (FenceStore.commit_fenceOperations_self _ _ _ _)
      · exact .inr ⟨other, otherEnvelope, by simp [equal, executedPhase], same⟩
  pending := by
    intro other operation under notYet
    simp only [setPhase_deliveries] at under notYet
    split at under
    · simp [DeliveryPhase.underWay] at under
    · rename_i different
      simp only [different, if_false] at notYet
      exact holds.pending other operation under notYet

end AtMostOnce

/-- Every step keeps the invariant, look-ups under the exclusion. -/
theorem step_atMostOnce
    {system next : FenceSystem} {action : FenceAction} (holds : system.AtMostOnce)
    (exclusive : system.ExclusiveLookup action) (stepped : system.step action = some next) :
    next.AtMostOnce := by
  cases stepped_of_step stepped with
  | selectStale idle _ =>
      exact holds.move _ _ (by simp [idle]) (by simp [DeliveryPhase.underWay])
  | select idle _ =>
      exact holds.move _ _ (by simp [idle]) (by simp [DeliveryPhase.underWay])
  | lookupDuplicate phase =>
      exact holds.move _ _ (by simp [phase]) (by simp [DeliveryPhase.underWay])
  | lookup phase absent =>
      exact holds.look phase absent (exclusive _ _ _ _ rfl phase)
  | record phase result =>
      refine (holds.move _ (.accepted _ _) (by simp [phase])
        (by simp [phase, DeliveryPhase.underWay])).withStore ?_
      intro scope operationId present
      rw [FenceStore.record_fenceOperations result]
      exact present
  | recordFailed phase =>
      exact holds.move _ _ (by simp [phase]) (by simp [DeliveryPhase.underWay])
  | execute phase => exact holds.execute phase
  | finish phase => exact holds.finish phase
  | abandon notExecuted =>
      exact holds.move _ _ notExecuted (by simp [DeliveryPhase.underWay])
  | commit =>
      exact holds.withStore fun _ _ present =>
        FenceStore.commit_isSome _ _ _ _ _ _ present

/-! ## Along a run -/

/-- Along every run in which look-ups are exclusive, the effect of an operation
has been carried out at most once in every state reached. -/
theorem count_executions_le_one
    (store : FenceStore) (actions front rest : List FenceAction) (reached : FenceSystem)
    (scope operationId : String) (exclusive : Along step ExclusiveLookup (start store) actions)
    (split : actions = front ++ rest) (ran : run step (start store) front = some reached) :
    reached.executions.count (scope, operationId) ≤ 1 := by
  subst split
  obtain ⟨along, _⟩ := exclusive.split ran
  have holds : reached.AtMostOnce := invariant_of_step
    (fun _ _ _ kept meets stepped => step_atMostOnce kept meets stepped)
    (atMostOnce_start store) along ran
  exact holds.once (scope, operationId)

/-- The operation is delivered again after it was committed. -/
def redelivery : List FenceAction :=
  [.select 0 "runtime" ⟨"a", 5, "op-1"⟩, .lookup 0, .record 0 "t0", .execute 0,
    .finish 0 "t1", .select 1 "runtime" ⟨"a", 5, "op-1"⟩, .lookup 1]

theorem count_executions_redelivery :
    ∃ reached, run step (start .empty) redelivery = some reached ∧
      reached.executions.count ("runtime", "op-1") ≤ 1 := by
  have exclusive : Along step ExclusiveLookup (start .empty) redelivery := by
    have other : ∀ system action, (∀ delivery, action ≠ .lookup delivery) →
        ExclusiveLookup system action :=
      fun _ _ different delivery _ _ _ equal => absurd equal (different delivery)
    refine .cons rfl (other _ _ nofun) (.cons rfl ?_
      (.cons rfl (other _ _ nofun) (.cons rfl (other _ _ nofun)
        (.cons rfl (other _ _ nofun) (.cons rfl (other _ _ nofun) (.cons rfl ?_ trivial))))))
    · intro delivery scope envelope current equal phase first
      by_cases zero : first = 0 <;> simp [start, DeliveryPhase.underWay, zero]
    · intro delivery scope envelope current equal phase first
      by_cases one : first = 1 <;> by_cases zero : first = 0 <;>
        simp [start, DeliveryPhase.underWay, one, zero]
  refine ⟨_, rfl, ?_⟩
  exact count_executions_le_one .empty redelivery redelivery [] _ "runtime"
    "op-1" exclusive rfl rfl

/-- The operation is delivered again while its effect is being carried out. -/
def concurrentRedelivery : List FenceAction :=
  [.select 0 "runtime" ⟨"a", 5, "op-1"⟩, .lookup 0, .record 0 "t0",
    .select 1 "runtime" ⟨"a", 5, "op-1"⟩, .lookup 1, .record 1 "t1",
    .execute 0, .finish 0 "t2", .execute 1, .finish 1 "t3"]

/-- Both deliveries carry the effect out. -/
theorem concurrentRedelivery_executes_twice :
    ¬ ∀ reached, run step (start .empty) concurrentRedelivery = some reached →
      reached.executions.count ("runtime", "op-1") ≤ 1 := by
  intro atMost
  have counted : (run step (start .empty) concurrentRedelivery).map
      (fun system => system.executions.count ("runtime", "op-1")) = some 2 := by decide
  obtain ⟨reached, ran, count⟩ := Option.map_eq_some_iff.mp counted
  have bound := atMost reached ran
  omega

end FenceSystem

end Ha
end K1s
