import K1s.Gateway.Service

/-!
# What the operations of a gateway do

Every operation leaves the world as it is or has its one effect; in both cases it is
counted.  The lemmas say what the effects have in common: no published result and no
recorded result is ever removed.
-/

namespace K1s
namespace Gateway

open Ha (MutationEnvelope)

variable (config : GatewayConfig) (outside : Outside)

def Op.effect (operation : Op) (world : World) : World :=
  let now := outside.clock world.performed
  match operation with
  | .recordResult key status payload =>
      { world with spool := world.spool.recordResult key now status payload }
  | .updateInflightState key state nodeId =>
      { world with spool := world.spool.updateInflightState key now state nodeId }
  | .recordInflight key record =>
      { world with
        spool := world.spool.recordInflight key
          { record with receivedAt := now, lastProgressAt := now } }
  | .markResultDelivered key => { world with spool := world.spool.markResultDelivered key now }
  | .recordResultDeliveryAttempt key retryDelayS =>
      { world with
        spool := world.spool.recordResultDeliveryAttempt key now
          (some (outside.errorText world.performed))
          (some (now + (retryDelayS * 1000000).floor)) }
  | .fenceBegin message envelope =>
      match world.fence.begin config.fenceScope envelope (Py.isoformat now) with
      | none => world
      | some (decision, after) =>
          { world with
            fence := after
            stale := if decision.status = .stale then message :: world.stale else world.stale }
  | .fenceCommit envelope =>
      { world with
        fence := world.fence.commit config.fenceScope envelope (Py.isoformat now) }
  | .publishResult payload => { world with published := payload :: world.published }
  | .ackSync message => { world with acked := message :: world.acked }
  | .assign change => { world with memory := change world.memory }
  | .popInflight key =>
      { world with memory := { world.memory with inflight := world.memory.inflight.drop key } }
  | _ => world

theorem meet_world {α : Type} (world after : World) (answer : α) :
    (world.meet outside answer after).2 = world.next ∨
      (world.meet outside answer after).2 = after.next := by
  unfold World.meet
  split
  · exact .inr rfl
  · exact .inl rfl
  · exact .inr rfl

/-- A call that is answered has had its effect. -/
theorem meet_answered
    {α : Type} {world after reached : World} {answer given : α}
    (met : world.meet outside answer after = (some given, reached)) :
    given = answer ∧ reached = after.next := by
  unfold World.meet at met
  split at met
  · obtain ⟨same, rfl⟩ := Prod.mk.inj met
    exact ⟨(Option.some.inj same).symm, rfl⟩
  · cases (Prod.mk.inj met).1
  · cases (Prod.mk.inj met).1

/-- An operation leaves the world as it is or has its effect. -/
theorem execute_world (operation : Op) (world : World) :
    (execute config outside operation world).2 = world.next ∨
      (execute config outside operation world).2 =
        (operation.effect config outside world).next := by
  cases operation with
  | look => exact .inl rfl
  | monotonic => exact .inl rfl
  | assign change => exact .inr rfl
  | popInflight key => exact .inr rfl
  | fenceBegin message envelope =>
      simp only [execute, Op.effect]
      rcases world.fence.begin config.fenceScope envelope
        (Py.isoformat (outside.clock world.performed)) with _ | ⟨decision, after⟩
      · exact .inl rfl
      · exact meet_world outside world _ _
  | _ => exact meet_world outside world _ _

theorem execute_keeps
    (property : World → Prop) (counts : ∀ world, property world → property world.next)
    (keeps : ∀ operation world, property world →
      property (Op.effect config outside operation world))
    (operation : Op)
    {world : World}
    (holds : property world) : property (execute config outside operation world).2 := by
  rcases execute_world config outside operation world with same | effect
  · rw [same]
    exact counts world holds
  · rw [effect]
    exact counts _ (keeps operation world holds)

/-! ## The results -/

theorem updateResult_find?
    (spool : Spool) (key other : WorkKey) (change : ResultRecord → ResultRecord) :
    (spool.updateResult key change).results.find? other =
      if key = other then (spool.results.find? other).map change
      else spool.results.find? other := by
  unfold Spool.updateResult
  by_cases same : key = other
  · subst same
    rw [if_pos rfl]
    cases found : spool.results.find? key with
    | none => exact found
    | some record => exact (Dictionary.find?_set _ _ _ _).trans (if_pos rfl)
  · rw [if_neg same]
    cases spool.results.find? key with
    | none => rfl
    | some record => exact (Dictionary.find?_set _ _ _ _).trans (if_neg same)

theorem updateInflightState_results
    (spool : Spool) (key : WorkKey) (now : Int) (state : InflightState) (nodeId : Option String) :
    (spool.updateInflightState key now state nodeId).results = spool.results := by
  unfold Spool.updateInflightState
  split <;> rfl

theorem effect_results (operation : Op) (world : World) (key : WorkKey) :
    (operation.effect config outside world).spool.results.find? key =
        world.spool.results.find? key ∨
      (∃ status payload, operation = .recordResult key status payload ∧
        (operation.effect config outside world).spool.results.find? key =
          some { status := status
                 payload := payload
                 committedAt := outside.clock world.performed
                 deliveredToControllerAt := none
                 replayAttempts := 0
                 lastReplayAt := none
                 nextRetryAt := none
                 lastReplayError := none
                 envelope := payload.envelope }) ∨
      (∃ change : ResultRecord → ResultRecord,
        (operation.effect config outside world).spool.results.find? key =
          (world.spool.results.find? key).map change ∧
        (∀ record, (change record).payload = record.payload) ∧
        (operation = .markResultDelivered key ∨
          ∀ record, (change record).deliveredToControllerAt = record.deliveredToControllerAt)) := by
  cases operation with
  | recordResult other status payload =>
      by_cases same : other = key
      · subst same
        refine .inr (.inl ⟨status, payload, rfl, ?_⟩)
        simp [Op.effect, Spool.recordResult]
      · refine .inl ?_
        simp [Op.effect, Spool.recordResult, same]
  | markResultDelivered other =>
      by_cases same : other = key
      · subst same
        refine .inr (.inr ⟨_, (updateResult_find? _ _ _ _).trans (if_pos rfl), fun _ => rfl,
          .inl rfl⟩)
      · exact .inl ((updateResult_find? _ _ _ _).trans (if_neg same))
  | recordResultDeliveryAttempt other retryDelayS =>
      by_cases same : other = key
      · subst same
        refine .inr (.inr ⟨_, (updateResult_find? _ _ _ _).trans (if_pos rfl), fun _ => rfl,
          .inr fun _ => rfl⟩)
      · exact .inl ((updateResult_find? _ _ _ _).trans (if_neg same))
  | updateInflightState other state nodeId =>
      refine .inl ?_
      simp only [Op.effect, updateInflightState_results]
  | fenceBegin message envelope =>
      refine .inl ?_
      simp only [Op.effect]
      split <;> rfl
  | _ => exact .inl rfl

/-! ## Programs that do little -/

/-- The operation neither marks nor acknowledges, and the messages that are in work or
completed after it were so before. -/
def Op.Minor : Op → Prop
  | .markResultDelivered _ => False
  | .ackSync _ => False
  | .assign change =>
      ∀ memory : Memory, (∀ key, ((change memory).completed.find? key).isSome →
          (memory.completed.find? key).isSome) ∧
        ∀ key message, (change memory).inflight.find? key = some message →
          memory.inflight.find? key = some message
  | _ => True

theorem minor_assign
    {change : Memory → Memory}
    (same : ∀ memory, (change memory).completed = memory.completed ∧
      (change memory).inflight = memory.inflight) : (Op.assign change).Minor := by
  intro memory
  obtain ⟨completed, inflight⟩ := same memory
  exact ⟨fun _ there => completed ▸ there, fun _ _ there => inflight ▸ there⟩

theorem uses_resolveResultEnvelope (payload : WorkResult) :
    (resolveResultEnvelope config payload).Uses Op.Minor := by
  unfold resolveResultEnvelope
  split
  · trivial
  · refine ⟨trivial, fun memory => ?_⟩
    dsimp only
    split
    · trivial
    · split
      · trivial
      · refine ⟨trivial, fun reply => ?_⟩
        dsimp only
        split <;> trivial

theorem uses_quietly
    (operation : Op)
    (minor : operation.Minor) : (quietly operation).Uses Op.Minor :=
  ⟨minor, fun _ => trivial⟩

theorem uses_emitRunning
    (payload : WorkMessage) (nodeId : String) (envelope : MutationEnvelope) :
    (emitRunning config payload nodeId envelope).Uses Op.Minor := by
  unfold emitRunning
  split
  · trivial
  · refine ⟨trivial, fun memory => ?_⟩
    dsimp only
    split
    · trivial
    · refine Program.Uses.andThen (.ite (uses_quietly _ trivial) trivial) ?_
      refine fun _ => ⟨trivial, fun published => ?_⟩
      cases published with
      | none => trivial
      | some sent =>
          exact ⟨trivial, fun now => ⟨minor_assign fun _ => ⟨rfl, rfl⟩, fun _ => trivial⟩⟩

theorem uses_dispatchWork (payload : WorkMessage) (envelope : MutationEnvelope) :
    (dispatchWork config payload envelope).Uses Op.Minor := by
  refine ⟨trivial, fun published => ?_⟩
  cases published with
  | none => trivial
  | some sent =>
      refine Program.Uses.andThen (.ite (uses_quietly _ trivial) trivial) fun _ => ?_
      refine Program.Uses.andThen ?_ fun _ =>
        (uses_emitRunning config payload _ envelope).andThen fun _ => trivial
      split
      · trivial
      · exact ⟨minor_assign fun _ => ⟨rfl, rfl⟩, fun _ => trivial⟩

/-- A message that is no longer in work. -/
theorem minor_forget (key : WorkKey) : (Op.assign fun memory => memory.forget key).Minor := by
  refine fun memory => ⟨fun _ there => there, fun other message found => ?_⟩
  simp only [Memory.forget, Dictionary.find?_drop] at found
  split at found
  · cases found
  · exact found

theorem uses_onLocalProgress (key : WorkKey) : (onLocalProgress key).Uses Op.Minor :=
  ⟨trivial, fun _ => ⟨minor_assign fun _ => ⟨rfl, rfl⟩, fun _ => trivial⟩⟩

theorem uses_runProgress (now : Rat) : (runProgress config now).Uses Op.Minor := by
  refine ⟨trivial, fun memory => .ite trivial ?_⟩
  refine Program.Uses.andThen (.forEach fun entry _ => ?_) fun _ => ⟨?_, fun _ => trivial⟩
  · refine ⟨trivial, fun memory => .ite ?_ (.ite ?_ trivial)⟩
    · refine ⟨trivial, fun _ => ?_⟩
      refine Program.Uses.andThen (.ite (uses_quietly _ trivial) trivial) fun _ => ?_
      exact ⟨minor_forget _, fun _ => trivial⟩
    · refine ⟨trivial, fun kept => ?_⟩
      cases kept with
      | none => trivial
      | some sent => exact ⟨minor_assign fun _ => ⟨rfl, rfl⟩, fun _ => trivial⟩
  · refine fun memory => ⟨fun key there => ?_, fun _ _ there => there⟩
    simp only [pruned, Dictionary.find?_keep] at there
    split at there
    · exact there
    · cases there

end Gateway
end K1s
