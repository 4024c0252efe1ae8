import K1s.Inference.CellMachine
import K1s.Lib.Descent
import K1s.Lib.Replies

/-!
# The runs of inference cells

A run is a sequence of `_run_once` with any replies to its calls, any of which may be an
exception, and any fate of the write at its end.  The passes of `reconcile_manifest` are
parts of such a run.

The main result is that a cell restarts at most as often as its spec allows and changes
its phase only finitely often.  The restarts that are left, the executor and the phase
make up a rank that falls with every change: a fallback turns the executor from Ray to
the other one, which only admission undoes, and a restart takes one of those that are
left.
-/

namespace K1s
namespace Inference

open Py Program

/-! ## Runs -/

/-- What one `_run_once` meets: the replies to its calls, by the number of calls before,
and what becomes of its write. -/
structure Outcome where
  executionEnabled : Bool
  replies : Nat → (operation : CellOp) → operation.Reply
  fate : Fate

def Outcome.answer (outcome : Outcome) (operation : CellOp) (count : Nat) :
    operation.Reply × Nat :=
  (outcome.replies count operation, count + 1)

/-- What `_run_once` writes, if it comes to a write. -/
def Outcome.update? (outcome : Outcome) (spec : CellSpec) (record : CellRecord) :
    Option CellUpdate :=
  (runAlone outcome.answer (runOnce outcome.executionEnabled spec record) 0).1.join

/-- The record that `_run_once` leaves, whether it raises an exception or not. -/
def cellStep (spec : CellSpec) (outcome : Outcome) (record : CellRecord) : CellRecord :=
  match outcome.update? spec record with
  | none => record
  | some update => if outcome.fate = .requestLost then record else record.updated update

/-- The records of a cell, by the number of steps. -/
def cellRun (spec : CellSpec) (outcomes : Nat → Outcome) (record : CellRecord) :
    Nat → CellRecord
  | 0 => record
  | steps + 1 => cellStep spec (outcomes steps) (cellRun spec outcomes record steps)

/-- The controller goes on after an exception of the call. -/
def CellOp.handled : CellOp → Bool
  | .linkMetrics | .leaveSession _ _ | .ensureApp _ _ | .removeApp _ _ | .containers _ => true
  | _ => false

/-- The reply is no exception, or one that the controller handles. -/
def CellOp.Answered (operation : CellOp) (reply : operation.Reply) : Prop :=
  operation.handled = false → reply.isSome = true

/-- No exception but those that the controller handles. -/
structure Outcome.Answered (outcome : Outcome) : Prop where
  replies : ∀ count (operation : CellOp), operation.Answered (outcome.replies count operation)
  write : outcome.fate = .answered

/-- From some step on the phase stays, and the restarts and the changes of the phase have
been within bounds.  A phase with work left stays only by exceptions in every later
step. -/
structure Settles
    (spec : CellSpec) (outcomes : Nat → Outcome)
    (records : Nat → CellRecord) : Prop where
  restarts : ∀ steps, (records steps).restarts ≤ spec.maxRestarts
  changes : ∀ steps,
    changes (fun index => (records index).phase) steps ≤ 11 * (spec.maxRestarts + 1)
  stays : ∃ start phase, (∀ steps, start ≤ steps → (records steps).phase = phase) ∧
    (phase = .ready ∨ phase = .failed ∨ phase = .joining ∨
      ∀ steps, start ≤ steps → ¬ (outcomes steps).Answered)

/-! ## What a step does -/

/-- The phase after success. -/
def CellPhase.next : CellPhase → CellPhase
  | .pending | .restarting => .admitting
  | .admitting => .reserving
  | .reserving => .fabric
  | .fabric => .startingWorkers
  | .startingWorkers => .startingLeader
  | .startingLeader => .joining
  | .joining | .ready => .ready
  | .failed => .failed

/-- What an update makes of a record. -/
inductive Moves (spec : CellSpec) (before after : CellRecord) : Prop
  /-- The phase is over, and the executor does not turn to Ray. -/
  | goesOn
      (running : before.phase ≠ .restarting ∧ before.phase ≠ .ready ∧ before.phase ≠ .failed)
      (phase : after.phase = before.phase.next)
      (restarts : after.restarts = before.restarts)
      (executor : before.phase ≠ .admitting →
        usesRay spec after.allocations = true → usesRay spec before.allocations = true)
      (placed : before.phase ≠ .admitting →
        after.allocations.placements = before.allocations.placements)
      (planned : before.phase = .admitting → after.allocations.placements ≠ [])
  | fails
      (running : before.phase ≠ .ready ∧ before.phase ≠ .failed)
      (phase : after.phase = .failed)
      (restarts : after.restarts = before.restarts)
  | waits
      (joining : before.phase = .joining)
      (phase : after.phase = .joining)
      (restarts : after.restarts = before.restarts)
      (allocations : after.allocations = before.allocations)
  | fallsBack
      (starting : before.phase = .startingLeader ∨ before.phase = .joining)
      (phase : after.phase = .startingWorkers)
      (restarts : after.restarts = before.restarts)
      (ray : usesRay spec before.allocations = true)
      (other : usesRay spec after.allocations = false)
      (placed : after.allocations.placements = before.allocations.placements)
  | gives
      (joining : before.phase = .joining)
      (phase : after.phase = .restarting)
      (restarts : after.restarts = before.restarts)
      (left : before.restarts < spec.maxRestarts)
  | restarts
      (restarting : before.phase = .restarting)
      (phase : after.phase = .admitting)
      (restarts : after.restarts = before.restarts + 1)

abbrev CellUpdate.MovesFrom (spec : CellSpec) (record : CellRecord) (update : CellUpdate) :
    Prop :=
  Moves spec record (record.updated update)

variable (alloc : Allocations) (executionEnabled : Bool)

section Moves

variable {spec : CellSpec} {record : CellRecord}

/-- After the event the update is made. -/
theorem returns_logged
    {post : CellUpdate → Prop} {eventType : String} {update : CellUpdate}
    (holds : post update) : (logged eventType update).Returns post :=
  Returns.andThen fun _ => holds

theorem usesRay_congr
    {first second : Allocations} (same : first.activeExecutor = second.activeExecutor) :
    usesRay spec first = usesRay spec second := by
  rw [usesRay, usesRay, same]

theorem usesRay_mp (execution : Option (List CellWorkload)) :
    usesRay spec { alloc with activeExecutor := some "mp", execution := execution } = false := by
  have text : lower (strip "mp") = "mp" := by decide +kernel
  simp [usesRay, text]

theorem moves_runPending (phase : record.phase = .pending) :
    (runPending record).Returns (CellUpdate.MovesFrom spec record) := by
  apply returns_logged
  apply Moves.goesOn
  all_goals simp [CellRecord.updated, phase, CellPhase.next]

theorem moves_rejected
    (phase : record.phase = .admitting) (allocations : Allocations) (lastError : String) :
    (rejected record allocations lastError).Returns (CellUpdate.MovesFrom spec record) := by
  apply returns_logged
  apply Moves.fails
  all_goals simp [CellRecord.updated, phase]

theorem moves_admit (phase : record.phase = .admitting) :
    (admitCell spec record).Returns (CellUpdate.MovesFrom spec record) := by
  unfold admitCell
  cases planned : plan spec.layout with
  | error reason => exact moves_rejected phase _ _
  | ok placements =>
      have nonempty : placements ≠ [] := ne_nil_of_plan planned
      intro controllerMetrics
      refine Returns.ite ?_ ?_
      · intro _
        apply returns_logged
        apply Moves.goesOn
        all_goals simp [CellRecord.updated, phase, CellPhase.next, nonempty]
      · intro _
        exact moves_rejected phase _ _

theorem moves_runAdmitting (phase : record.phase = .admitting) :
    (runAdmitting executionEnabled spec record).Returns (CellUpdate.MovesFrom spec record) := by
  refine Returns.ite ?_ ?_
  · intro _
    apply Returns.andThen
    intro memberErrors
    refine Returns.ite ?_ ?_
    · exact fun _ => moves_admit phase
    · exact fun _ => moves_rejected phase _ _
  · exact fun _ => moves_admit phase

theorem moves_runReserving (phase : record.phase = .reserving) :
    (runReserving spec record).Returns (CellUpdate.MovesFrom spec record) := by
  apply Returns.andThen
  intro lease
  cases lease with
  | none =>
      apply returns_logged
      apply Moves.fails
      all_goals simp [CellRecord.updated, moveTo, phase]
  | some lease =>
      apply returns_logged
      apply Moves.goesOn
      all_goals simp [CellRecord.updated, moveTo, phase, CellPhase.next, usesRay]

theorem moves_runFabric (phase : record.phase = .fabric) :
    (runFabric spec record).Returns (CellUpdate.MovesFrom spec record) := by
  unfold runFabric
  cases leaseFromAllocations record.allocations with
  | none =>
      apply Moves.fails
      all_goals simp [CellRecord.updated, moveTo, phase]
  | some lease =>
      apply Returns.andThen
      intro session
      apply Returns.andThen
      intro ensured
      refine Returns.ite ?_ ?_
      · intro _
        apply Returns.andThen
        intro leader
        apply returns_logged
        apply Moves.goesOn
        all_goals simp [CellRecord.updated, moveTo, phase, CellPhase.next, usesRay]
      · intro _
        apply Returns.andThen
        intro _
        apply Returns.andThen
        intro _
        apply returns_logged
        apply Moves.fails
        all_goals simp [CellRecord.updated, moveTo, phase]

/-- The workers have been started with the executor of the record or with the other. -/
theorem moves_workersStarted
    (phase : record.phase = .startingWorkers) {allocations : Allocations}
    (executor : usesRay spec allocations = true → usesRay spec record.allocations = true)
    (placed : allocations.placements = record.allocations.placements) (eventType : String)
    (conditions : Dictionary String Bool) :
    (workersStarted eventType allocations conditions).Returns
      (CellUpdate.MovesFrom spec record) := by
  apply returns_logged
  refine Moves.goesOn ?_ ?_ rfl (fun _ => executor) (fun _ => placed) ?_
  all_goals simp [CellRecord.updated, moveTo, phase, CellPhase.next]

theorem moves_workersFailed
    (phase : record.phase = .startingWorkers) (allocations : Allocations) :
    (workersFailed record allocations).Returns (CellUpdate.MovesFrom spec record) := by
  apply returns_logged
  apply Moves.fails
  all_goals simp [CellRecord.updated, moveTo, phase]

theorem moves_runStartingWorkers (phase : record.phase = .startingWorkers) :
    (runStartingWorkers executionEnabled spec record).Returns
      (CellUpdate.MovesFrom spec record) := by
  refine Returns.ite ?_ ?_
  · intro _
    apply Returns.andThen
    intro applied
    cases applied with
    | some applied =>
        refine moves_workersStarted phase ?_ ?_ _ _
        · intro ray
          rw [← ray]
          exact usesRay_congr rfl
        · rfl
    | none =>
        dsimp only
        refine Returns.ite ?_ ?_
        · intro _
          apply Returns.andThen
          intro _
          apply Returns.andThen
          intro _
          apply Returns.andThen
          intro again
          cases again with
          | some applied =>
              refine moves_workersStarted phase ?_ ?_ _ _
              · intro ray
                rw [usesRay_mp] at ray
                cases ray
              · rfl
          | none => exact moves_workersFailed phase _
        · exact fun _ => moves_workersFailed phase _
  · exact fun _ => moves_workersStarted phase (fun ray => ray) rfl _ _

theorem moves_fallBack
    (phases : record.phase = .startingLeader ∨ record.phase = .joining)
    (ray : usesRay spec record.allocations = true) {alloc : Allocations}
    (placed : alloc.placements = record.allocations.placements) :
    (fallBack record alloc).Returns (CellUpdate.MovesFrom spec record) := by
  apply Returns.andThen
  intro _
  apply Returns.andThen
  intro _
  apply Moves.fallsBack phases _ _ ray
  · exact usesRay_mp alloc (some [])
  · exact placed
  · rfl
  · rfl

theorem moves_applyLeader
    (phase : record.phase = .startingLeader) (leader : SitedPlacement) :
    (applyLeader spec record leader).Returns (CellUpdate.MovesFrom spec record) := by
  apply Returns.andThen
  rintro ⟨applied, apiEndpoint⟩
  cases apiEndpoint with
  | some apiEndpoint =>
      apply returns_logged
      apply Moves.goesOn
      all_goals simp [CellRecord.updated, moveTo, phase, CellPhase.next, usesRay]
  | none =>
      refine Returns.ite ?_ ?_
      · intro falls
        rw [Bool.and_eq_true] at falls
        refine moves_fallBack (.inl phase) ?_ ?_
        · rw [← falls.1]
          exact usesRay_congr rfl
        · rfl
      · intro _
        apply returns_logged
        apply Moves.fails
        all_goals simp [CellRecord.updated, moveTo, phase]

theorem moves_runStartingLeader (phase : record.phase = .startingLeader) :
    (runStartingLeader executionEnabled spec record).Returns
      (CellUpdate.MovesFrom spec record) := by
  apply Returns.andThen
  intro leader
  refine Returns.ite ?_ ?_
  · exact fun _ => moves_applyLeader phase leader
  · intro _
    apply returns_logged
    apply Moves.goesOn
    all_goals simp [CellRecord.updated, moveTo, phase, CellPhase.next]

/-- A restart is planned only where one is left. -/
theorem moves_joinFailed (phase : record.phase = .joining) :
    (joinFailed spec record).Returns (CellUpdate.MovesFrom spec record) := by
  refine Returns.ite ?_ ?_
  · intro left
    apply returns_logged
    exact Moves.gives phase rfl rfl left
  · intro _
    apply returns_logged
    apply Moves.fails
    all_goals simp [CellRecord.updated, moveTo, phase]

theorem moves_awaitApi (phase : record.phase = .joining) :
    (awaitApi record).Returns (CellUpdate.MovesFrom spec record) := by
  apply Returns.andThen
  intro apiReady
  refine Returns.ite ?_ ?_
  · intro _
    apply returns_logged
    apply Moves.goesOn
    all_goals simp [CellRecord.updated, moveTo, phase, CellPhase.next]
  · intro _
    apply returns_logged
    exact Moves.waits phase rfl rfl rfl

theorem moves_runJoining (phase : record.phase = .joining) :
    (runJoining executionEnabled spec record).Returns (CellUpdate.MovesFrom spec record) := by
  refine Returns.ite ?_ ?_
  · intro _
    apply Returns.andThen
    intro checks
    refine Returns.ite ?_ ?_
    · intro _
      refine Returns.ite ?_ ?_
      · intro falls
        rw [Bool.and_eq_true] at falls
        exact moves_fallBack (.inr phase) falls.1 rfl
      · exact fun _ => moves_joinFailed phase
    · intro _
      refine Returns.ite ?_ ?_
      · exact fun _ => moves_joinFailed phase
      · exact fun _ => moves_awaitApi phase
  · intro _
    apply returns_logged
    apply Moves.goesOn
    all_goals simp [CellRecord.updated, moveTo, phase, CellPhase.next]

theorem moves_runRestarting (phase : record.phase = .restarting) :
    (runRestarting record).Returns (CellUpdate.MovesFrom spec record) := by
  apply Returns.andThen
  intro _
  apply Returns.andThen
  intro _
  apply Returns.andThen
  intro _
  apply returns_logged
  exact Moves.restarts phase rfl rfl

/-- Every update of `_run_once` is a move. -/
theorem moves_runOnce :
    (runOnce executionEnabled spec record).Returns fun update =>
      ∀ given, update = some given → given.MovesFrom spec record := by
  have moved {program : CellProgram CellUpdate}
      (returns : program.Returns (CellUpdate.MovesFrom spec record)) :
      (program.andThen fun update => .done (some update)).Returns fun update =>
        ∀ given, update = some given → given.MovesFrom spec record := by
    apply returns.bind
    intro update moves given same
    obtain rfl := Option.some.inj same
    exact moves
  unfold runOnce
  cases phase : record.phase with
  | pending => exact moved (moves_runPending phase)
  | admitting => exact moved (moves_runAdmitting executionEnabled phase)
  | reserving => exact moved (moves_runReserving phase)
  | fabric => exact moved (moves_runFabric phase)
  | startingWorkers => exact moved (moves_runStartingWorkers executionEnabled phase)
  | startingLeader => exact moved (moves_runStartingLeader executionEnabled phase)
  | joining => exact moved (moves_runJoining executionEnabled phase)
  | restarting => exact moved (moves_runRestarting phase)
  | ready =>
      intro given same
      cases same
  | failed =>
      intro given same
      cases same

/-- A step leaves the record as it is or makes a move. -/
theorem cellStep_cases (spec : CellSpec) (outcome : Outcome) (record : CellRecord) :
    cellStep spec outcome record = record ∨ Moves spec record (cellStep spec outcome record) := by
  unfold cellStep
  cases updated : outcome.update? spec record with
  | none => exact .inl rfl
  | some update =>
      dsimp only
      split_ifs
      · exact .inl rfl
      · apply Or.inr
        have ran := Option.join_eq_some_iff.mp updated
        exact (moves_runOnce outcome.executionEnabled).of_runAlone ran update rfl

end Moves

/-! ## The rank -/

/-- The place of a phase before the next restart, with Ray or the other executor. -/
def CellPhase.rank (ray : Bool) : CellPhase → Nat
  | .pending => 11
  | .admitting => 10
  | .reserving => 9
  | .fabric => 8
  | .startingWorkers => if ray then 7 else 4
  | .startingLeader => if ray then 6 else 3
  | .joining => if ray then 5 else 2
  | .restarting => 1
  | .ready | .failed => 0

/-- The restarts that are left count for a whole turn each. -/
def CellRecord.rank (spec : CellSpec) (record : CellRecord) : Nat :=
  11 * (spec.maxRestarts - record.restarts) + record.phase.rank (usesRay spec record.allocations)

/-- The restarts are within bounds, also after the one that has been planned, and a cell
that is past admission has placements. -/
structure CellRecord.Bounded (spec : CellSpec) (record : CellRecord) : Prop where
  restarts : record.restarts ≤ spec.maxRestarts
  left : record.phase = .restarting → record.restarts < spec.maxRestarts
  placed : record.phase = .fabric ∨ record.phase = .reserving ∨
    record.phase = .startingWorkers ∨ record.phase = .startingLeader ∨
      record.phase = .joining → record.allocations.placements ≠ []

section Rank

variable {spec : CellSpec} {before after : CellRecord}

theorem Moves.bounded
    (moves : Moves spec before after)
    (bounded : before.Bounded spec) : after.Bounded spec := by
  cases moves with
  | goesOn running phase restarts executor placed planned =>
      constructor
      · rw [restarts]
        exact bounded.restarts
      · intro restarting
        rw [phase] at restarting
        cases earlier : before.phase <;> simp [earlier, CellPhase.next] at restarting
      · intro later
        by_cases admitting : before.phase = .admitting
        · exact planned admitting
        · rw [placed admitting]
          apply bounded.placed
          rw [phase] at later
          cases earlier : before.phase <;> simp_all [CellPhase.next]
  | fails running phase restarts =>
      constructor
      · rw [restarts]
        exact bounded.restarts
      · simp [phase]
      · simp [phase]
  | waits joining phase restarts allocations =>
      constructor
      · rw [restarts]
        exact bounded.restarts
      · simp [phase]
      · rw [allocations]
        exact fun _ => bounded.placed (by simp [joining])
  | fallsBack starting phase restarts ray other placed =>
      constructor
      · rw [restarts]
        exact bounded.restarts
      · simp [phase]
      · rw [placed]
        refine fun _ => bounded.placed ?_
        rcases starting with leader | joining
        · simp [leader]
        · simp [joining]
  | gives joining phase restarts left =>
      constructor
      · rw [restarts]
        exact bounded.restarts
      · rw [restarts]
        exact fun _ => left
      · simp [phase]
  | restarts restarting phase restarts =>
      have left := bounded.left restarting
      constructor
      · omega
      · simp [phase]
      · simp [phase]

/-- A phase that follows another one, with an executor that does not turn to Ray, has a
lower place. -/
theorem CellPhase.rank_next_lt
    {phase : CellPhase} (running : phase ≠ .restarting ∧ phase ≠ .ready ∧ phase ≠ .failed)
    {ray rayAfter : Bool} (executor : phase ≠ .admitting → rayAfter = true → ray = true) :
    phase.next.rank rayAfter < phase.rank ray := by
  cases phase <;> cases ray <;> cases rayAfter <;> simp_all [CellPhase.next, CellPhase.rank]

theorem CellPhase.next_ne
    {phase : CellPhase} (running : phase ≠ .restarting ∧ phase ≠ .ready ∧ phase ≠ .failed) :
    phase.next ≠ phase := by
  cases phase <;> simp_all [CellPhase.next]

theorem CellPhase.rank_pos
    {phase : CellPhase} (running : phase ≠ .ready ∧ phase ≠ .failed)
    (ray : Bool) : 0 < phase.rank ray := by
  cases phase <;> cases ray <;> simp_all [CellPhase.rank]

theorem Moves.lower_or_waits
    (moves : Moves spec before after) (bounded : before.Bounded spec) :
    (after.phase ≠ before.phase ∧ after.rank spec < before.rank spec) ∨
      (before.phase = .joining ∧ after.phase = before.phase ∧
        after.rank spec = before.rank spec) := by
  unfold CellRecord.rank
  cases moves with
  | goesOn running phase restarts executor placed planned =>
      have lower := CellPhase.rank_next_lt running executor
      rw [restarts, phase]
      exact .inl ⟨CellPhase.next_ne running, by omega⟩
  | fails running phase restarts =>
      have higher := CellPhase.rank_pos running (usesRay spec before.allocations)
      have last (ray : Bool) : CellPhase.failed.rank ray = 0 := rfl
      rw [restarts, phase, last]
      exact .inl ⟨running.2.symm, by omega⟩
  | waits joining phase restarts allocations =>
      rw [restarts, phase, joining, allocations]
      exact .inr ⟨rfl, rfl, rfl⟩
  | fallsBack starting phase restarts ray other placed =>
      rw [restarts, phase, ray, other]
      rcases starting with leader | joining
      · simp [leader, CellPhase.rank]
      · simp [joining, CellPhase.rank]
  | gives joining phase restarts left =>
      rw [restarts, phase, joining]
      cases usesRay spec before.allocations <;> simp [CellPhase.rank]
  | restarts restarting phase restarts =>
      have left := bounded.left restarting
      rw [restarts, phase, restarting]
      refine .inl ⟨by simp, ?_⟩
      simp only [CellPhase.rank]
      omega

end Rank

section Runs

variable (spec : CellSpec) (cellKey : String) (outcomes : Nat → Outcome)

theorem bounded_cellRun (steps : Nat) :
    (cellRun spec outcomes (newCell cellKey) steps).Bounded spec := by
  induction steps with
  | zero =>
      constructor
      · exact Nat.zero_le _
      · simp [cellRun, newCell]
      · simp [cellRun, newCell]
  | succ steps ih =>
      rw [cellRun]
      rcases cellStep_cases spec (outcomes steps)
          (cellRun spec outcomes (newCell cellKey) steps) with same | moves
      · rw [same]
        exact ih
      · exact moves.bounded ih

/-- The rank falls with every change of the phase. -/
theorem descends_cellRun :
    Descends (fun steps => (cellRun spec outcomes (newCell cellKey) steps).phase)
      (fun steps => (cellRun spec outcomes (newCell cellKey) steps).rank spec) := by
  apply Descends.of_lower_or_same
  intro steps
  rw [cellRun]
  rcases cellStep_cases spec (outcomes steps) (cellRun spec outcomes (newCell cellKey) steps) with
    same | moves
  · rw [same]
    exact .inr ⟨rfl, rfl⟩
  · rcases moves.lower_or_waits (bounded_cellRun spec cellKey outcomes steps) with
      ⟨-, lower⟩ | ⟨-, same, equal⟩
    · exact .inl lower
    · exact .inr ⟨same, equal⟩

end Runs

/-! ## Steps that are answered -/

section Answered

variable {spec : CellSpec} {record : CellRecord}

/-- The program raises no exception where only those that are handled occur. -/
abbrev Goes {α : Type} (program : CellProgram α) : Prop :=
  program.Unfailing CellOp.Answered

theorem goes_call
    {operation : CellOp}
    (raised : operation.handled = false) : Goes (call operation) := by
  intro reply answered
  obtain ⟨value, rfl⟩ := Option.isSome_iff_exists.mp (answered raised)
  trivial

theorem goes_suppressed (operation : CellOp) : Goes (suppressed operation) :=
  fun _ _ => trivial

theorem goes_logged (eventType : String) (update : CellUpdate) :
    Goes (logged eventType update) :=
  (goes_call rfl).andThen fun _ => trivial

theorem goes_removeExecutionWorkloads : Goes (removeExecutionWorkloads alloc) := by
  apply Unfailing.forEach
  intro workload
  apply Unfailing.ite
  · trivial
  · exact goes_suppressed _

theorem goes_teardownFabric : Goes (teardownFabric alloc) := by
  apply Unfailing.ite
  · trivial
  · apply Unfailing.andThen
    · exact Unfailing.forEach fun placement => goes_suppressed _
    · exact fun _ => goes_call rfl

theorem goes_probeLeaderApi : Goes (probeLeaderApi alloc) := by
  apply Unfailing.andThen
  · unfold resolveApiEndpoint
    refine Unfailing.ite trivial ?_
    apply (goes_call rfl).andThen
    intro nodeEndpoint
    refine Unfailing.ite trivial ?_
    exact Unfailing.ite trivial trivial
  · intro endpoint
    exact Unfailing.ite trivial (goes_call rfl)

theorem goes_admitCell : Goes (admitCell spec record) := by
  unfold admitCell
  cases plan spec.layout with
  | error reason => exact goes_logged _ _
  | ok placements =>
      intro controllerMetrics _
      exact Unfailing.ite (goes_logged _ _) (goes_logged _ _)

theorem goes_runAdmitting : Goes (runAdmitting executionEnabled spec record) := by
  refine Unfailing.ite ?_ goes_admitCell
  apply (goes_call rfl).andThen
  intro memberErrors
  exact Unfailing.ite goes_admitCell (goes_logged _ _)

theorem goes_runReserving : Goes (runReserving spec record) := by
  apply (goes_call rfl).andThen
  intro lease
  cases lease with
  | none => exact goes_logged _ _
  | some lease => exact goes_logged _ _

/-- Where there are placements one of them is the leader. -/
theorem exists_leaderOf
    (spec : CellSpec) {placements : List SitedPlacement} (placed : placements ≠ []) :
    ∃ leader, leaderOf spec (orderedStages placements) = some leader := by
  have perm := List.perm_insertionSort (fun first second : SitedPlacement =>
    first.stage ≤ second.stage) placements
  unfold leaderOf orderedStages
  cases ordered : placements.insertionSort fun first second => first.stage ≤ second.stage with
  | nil =>
      rw [ordered] at perm
      exact absurd perm.symm.eq_nil placed
  | cons first rest => exact ⟨_, rfl⟩

theorem goes_ensureSessions (session : FabricSession) (placements : List SitedPlacement) :
    Goes (ensureSessions session placements) := by
  induction placements with
  | nil => trivial
  | cons placement rest ih =>
      apply (goes_call rfl).andThen
      intro ensured
      refine Unfailing.ite ?_ trivial
      exact ih.andThen fun _ => trivial

theorem goes_runFabric (placed : record.allocations.placements ≠ []) :
    Goes (runFabric spec record) := by
  unfold runFabric
  cases leaseFromAllocations record.allocations with
  | none => trivial
  | some lease =>
      apply (goes_call rfl).andThen
      intro session
      apply (goes_ensureSessions session _).andThen
      intro ensured
      apply Unfailing.ite
      · obtain ⟨leader, found⟩ := exists_leaderOf spec placed
        unfold fabricReady allocStagePlacements
        rw [found]
        exact goes_logged _ _
      · apply Unfailing.andThen
        · exact Unfailing.forEach fun nodeId => goes_suppressed _
        · exact fun _ => (goes_call rfl).andThen fun _ => goes_logged _ _

theorem goes_runStartingWorkers :
    Goes (runStartingWorkers executionEnabled spec record) := by
  refine Unfailing.ite ?_ (goes_logged _ _)
  apply (Unfailing.attempt _).andThen
  intro applied
  cases applied with
  | some applied => exact goes_logged _ _
  | none =>
      refine Unfailing.ite ?_ (goes_logged _ _)
      apply (goes_call rfl).andThen
      intro _
      apply (goes_removeExecutionWorkloads _).andThen
      intro _
      apply (Unfailing.attempt _).andThen
      intro again
      cases again with
      | some applied => exact goes_logged _ _
      | none => exact goes_logged _ _

theorem goes_fallBack : Goes (fallBack record alloc) := by
  apply (goes_call rfl).andThen
  intro _
  exact (goes_removeExecutionWorkloads alloc).andThen fun _ => trivial

theorem goes_startApi
    (leader : SitedPlacement) (name role : String)
    (before : List CellWorkload) : Goes (startApi spec alloc leader name role before) := by
  apply (Unfailing.attempt _).andThen
  intro started
  cases started with
  | none => trivial
  | some started =>
      exact (Unfailing.attempt _).andThen fun _ => trivial

theorem goes_startLeader
    (placements : List SitedPlacement)
    (leader : SitedPlacement) : Goes (startLeader spec alloc placements leader) := by
  refine Unfailing.ite ?_ (goes_startApi _ _ _ _ _)
  refine Unfailing.ite (goes_startApi _ _ _ _ _) ?_
  apply (Unfailing.attempt _).andThen
  intro head
  cases head with
  | none => trivial
  | some head => exact goes_startApi _ _ _ _ _

theorem goes_runStartingLeader (placed : record.allocations.placements ≠ []) :
    Goes (runStartingLeader executionEnabled spec record) := by
  obtain ⟨leader, found⟩ := exists_leaderOf spec placed
  unfold runStartingLeader allocStagePlacements
  rw [found]
  refine Unfailing.ite ?_ (goes_logged _ _)
  apply (goes_startLeader _ _ _).andThen
  rintro ⟨applied, apiEndpoint⟩
  cases apiEndpoint with
  | some apiEndpoint => exact goes_logged _ _
  | none => exact Unfailing.ite (goes_fallBack _) (goes_logged _ _)

theorem goes_runJoining : Goes (runJoining executionEnabled spec record) := by
  have failed : Goes (joinFailed spec record) :=
    Unfailing.ite (goes_logged _ _) (goes_logged _ _)
  refine Unfailing.ite ?_ (goes_logged _ _)
  apply Unfailing.andThen
  · apply Unfailing.collect
    intro workload
    exact Unfailing.ite trivial fun _ _ => trivial
  · intro checks
    refine Unfailing.ite (Unfailing.ite (goes_fallBack _) failed) ?_
    refine Unfailing.ite failed ?_
    apply (goes_probeLeaderApi _).andThen
    intro apiReady
    exact Unfailing.ite (goes_logged _ _) (goes_logged _ _)

theorem goes_runRestarting : Goes (runRestarting record) := by
  apply (goes_removeExecutionWorkloads _).andThen
  intro _
  apply Unfailing.andThen
  · unfold releaseLease
    cases leaseFromAllocations record.allocations with
    | none => trivial
    | some lease => exact goes_call rfl
  · intro _
    exact (goes_teardownFabric _).andThen fun _ => goes_logged _ _

/-- A cell that is not over comes to a write. -/
theorem exists_update
    {outcome : Outcome} (answered : outcome.Answered) (bounded : record.Bounded spec)
    (running : record.phase ≠ .ready ∧ record.phase ≠ .failed) :
    ∃ update, outcome.update? spec record = some update := by
  have moved {program : CellProgram CellUpdate} (goes : Goes program) :
      ∃ update, (runAlone outcome.answer (program.andThen fun update =>
        .done (some update)) 0).1.join = some update := by
    have answers (operation : CellOp) (count : Nat) :
        operation.Answered (outcome.answer operation count).1 := answered.replies count operation
    obtain ⟨update, ran⟩ := goes.exists_of_runAlone answers 0
    refine ⟨update, ?_⟩
    rw [runAlone_andThen]
    generalize runAlone outcome.answer program 0 = result at ran
    obtain ⟨returned, count⟩ := result
    obtain rfl : returned = some update := ran
    rfl
  unfold Outcome.update? runOnce
  have placed := bounded.placed
  cases phase : record.phase with
  | pending => exact moved (goes_logged _ _)
  | admitting => exact moved (goes_runAdmitting _)
  | reserving => exact moved goes_runReserving
  | fabric => exact moved (goes_runFabric (placed (by simp [phase])))
  | startingWorkers => exact moved (goes_runStartingWorkers _)
  | startingLeader => exact moved (goes_runStartingLeader _ (placed (by simp [phase])))
  | joining => exact moved (goes_runJoining _)
  | restarting => exact moved goes_runRestarting
  | ready => exact absurd phase running.1
  | failed => exact absurd phase running.2

/-- An answered step changes the phase unless the cell is over or joins. -/
theorem phase_cellStep_ne
    {outcome : Outcome} (answered : outcome.Answered) (bounded : record.Bounded spec)
    (running : record.phase ≠ .ready ∧ record.phase ≠ .failed)
    (notJoining : record.phase ≠ .joining) :
    (cellStep spec outcome record).phase ≠ record.phase := by
  obtain ⟨update, updated⟩ := exists_update answered bounded running
  have moves : update.MovesFrom spec record :=
    (moves_runOnce outcome.executionEnabled).of_runAlone
      (Option.join_eq_some_iff.mp updated) update rfl
  have step : cellStep spec outcome record = record.updated update := by
    unfold cellStep
    rw [updated]
    simp [answered.write]
  rw [step]
  rcases moves.lower_or_waits bounded with ⟨changed, -⟩ | ⟨joining, -, -⟩
  · exact changed
  · exact absurd joining notJoining

end Answered

/-- Every run of a new cell settles. -/
theorem cell_settles (spec : CellSpec) (cellKey : String) (outcomes : Nat → Outcome) :
    Settles spec outcomes (cellRun spec outcomes (newCell cellKey)) := by
  have bounded := bounded_cellRun spec cellKey outcomes
  have descends := descends_cellRun spec cellKey outcomes
  constructor
  · exact fun steps => (bounded steps).restarts
  · intro steps
    apply (descends.changes_le steps).trans
    simp only [CellRecord.rank, cellRun, newCell, CellPhase.rank]
    omega
  · obtain ⟨start, stays⟩ := descends.exists_stays
    have constant (steps : Nat) (later : start ≤ steps) :
        (cellRun spec outcomes (newCell cellKey) steps).phase =
          (cellRun spec outcomes (newCell cellKey) start).phase := by
      rw [← Nat.add_sub_cancel' later]
      exact stays (steps - start)
    refine ⟨start, _, constant, ?_⟩
    by_contra elsewhere
    simp only [not_or, not_forall, not_not] at elsewhere
    obtain ⟨notReady, notFailed, notJoining, steps, later, answered⟩ := elsewhere
    rw [← constant steps later] at notReady notFailed notJoining
    apply phase_cellStep_ne answered (bounded steps) ⟨notReady, notFailed⟩ notJoining
    rw [constant steps later]
    exact constant (steps + 1) (by omega)

end Inference
end K1s
