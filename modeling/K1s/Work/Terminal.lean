import K1s.Work.Writers

/-!
# Finished work

A work item is finished when its ledger row is in a terminal state.  Neither
`update_work_state` nor `reschedule_work` looks at the state of the row it
writes, so what keeps finished work finished is the order of the steps: a
writer that has looked at the ledger or at the outbox, and may go on to reopen
an attempt, must not be overtaken by the result that finishes this attempt.
-/

namespace K1s
namespace Work

open Program

/-! ## The property -/

/-- The current attempt of the work item is this one, and is in a terminal
state. -/
def Finished (tables : Tables) (item : String × Int) : Prop :=
  ∃ row, tables.ledger.find? item.1 = some row ∧ row.attempt = item.2 ∧ row.state.isTerminal = true

/-- Every finished attempt stays the current one, and stays finished. -/
def FinishedKept (before after : Tables) : Prop :=
  ∀ item, Finished before item → Finished after item

/-! ## The condition -/

/-- An operation that takes an attempt back to a state it does not end in, or
puts a new attempt in its place. -/
def Op.Reopens (item : String × Int) : Op → Prop
  | .updateWorkState update =>
      (update.workId, update.attempt) = item ∧ update.state.isTerminal = false
  | .rescheduleWork workId attempt _ _ => (workId, attempt) = item
  | _ => False

/-- An operation by which a writer learns what to write. -/
def Op.Looks : Op → Prop
  | .getWorkLedger _ => True
  | .listOutboxUnpublished _ => True
  | .listWorkStateBefore _ _ => True
  | _ => False

/-- The writer may go on to reopen the attempt on the strength of what it has
looked at. -/
def MayReopen (item : String × Int) (writer : Writer Unit) : Prop :=
  writer.May (Op.Reopens item) Op.Looks

variable (outside : Outside)

/-- The condition on one operation of a thread.  A look does not bring the
thread to an attempt that is finished: no `running` message of a finished
attempt is taken and no outbox row of one is listed.  A result that finishes an
attempt is written while no thread may go on to reopen it. -/
def OperationInOrder
    (writers : Writers) (operation : Op)
    (rest : Reply operation → Writer Unit) : Prop :=
  (operation.Looks → ∀ item, MayReopen item (rest (execute outside operation writers.state).1) →
        ¬ Finished writers.state.tables item) ∧
    ∀ update, operation = .updateWorkState update → update.state.isTerminal = true →
      ∀ thread writer, writers.threads thread = some writer →
        ¬ MayReopen (update.workId, update.attempt) writer

/-- The condition on one action of the threads. -/
def InOrder (writers : Writers) : PoolAction Call → Prop
  | .start _ _ => True
  | .advance thread =>
      ∀ operation rest, writers.threads thread = some (.perform operation rest) →
        OperationInOrder outside writers operation rest

/-! ## What one operation does to the ledger -/

/-- `update_work_state` writes the row of its attempt or nothing. -/
theorem updateWorkState_ledger
    {tables after : Tables} {update : WorkUpdate} {now : String} {found : Bool}
    (updated : tables.updateWorkState update now = .ok (found, after)) :
    after.ledger = tables.ledger ∨ ∃ row, tables.ledger.find? update.workId = some row ∧
        row.attempt = update.attempt ∧
        after.ledger = tables.ledger.set update.workId (row.updated update now) := by
  unfold Tables.updateWorkState at updated
  split at updated
  · cases present : tables.ledger.find? update.workId with
    | none =>
        simp only [present, Except.ok.injEq, Prod.mk.injEq] at updated
        exact .inl (by rw [← updated.2])
    | some row =>
        simp only [present] at updated
        split at updated
        · next same =>
            simp only [Except.ok.injEq, Prod.mk.injEq] at updated
            exact .inr ⟨row, rfl, same, by rw [← updated.2]⟩
        · simp only [Except.ok.injEq, Prod.mk.injEq] at updated
          exact .inl (by rw [← updated.2])
  · cases updated

/-- `reschedule_work` writes a pending row in the place of that of its attempt,
or nothing. -/
theorem rescheduleWork_ledger
    {tables after : Tables} {call : RescheduleCall} {reply : Option Int}
    (rescheduled : tables.rescheduleWork call = some (reply, after)) :
    after.ledger = tables.ledger ∨ ∃ row payload, tables.ledger.find? call.workId = some row ∧
        row.attempt = call.attempt ∧
        after.ledger = tables.ledger.set call.workId
          (row.rescheduled (call.attempt + 1) payload call.now) := by
  unfold Tables.rescheduleWork at rescheduled
  split at rescheduled
  · simp only [Option.some.injEq, Prod.mk.injEq] at rescheduled
    exact .inl (by rw [← rescheduled.2])
  · next outbox listed =>
      split at rescheduled
      · next old isDict =>
          dsimp only at rescheduled
          split at rescheduled
          · split at rescheduled
            · simp only [Option.some.injEq, Prod.mk.injEq] at rescheduled
              exact .inl (by rw [← rescheduled.2])
            · next row present =>
                split_ifs at rescheduled with other taken
                · simp only [Option.some.injEq, Prod.mk.injEq] at rescheduled
                  exact .inl (by rw [← rescheduled.2])
                · simp only [Option.some.injEq, Prod.mk.injEq] at rescheduled
                  exact .inr ⟨row, _, present, not_not.mp other, by rw [← rescheduled.2]⟩
          · cases rescheduled
      · cases rescheduled

@[simp] theorem ledger_updateOutbox
    (tables : Tables) (workId : String) (attempt : Int) (change : OutboxRow → OutboxRow) :
    (tables.updateOutbox workId attempt change).ledger = tables.ledger := by
  unfold Tables.updateOutbox
  split <;> rfl

/-- A call of the store changes the ledger in one of two ways. -/
theorem execute_ledger (operation : Op) (world : World) :
    (execute outside operation world).2.tables.ledger = world.tables.ledger ∨
      (∃ update row, operation = .updateWorkState update ∧
        world.tables.ledger.find? update.workId = some row ∧
        row.attempt = update.attempt ∧
        (execute outside operation world).2.tables.ledger = world.tables.ledger.set update.workId
            (row.updated update (nowIso outside world))) ∨
      ∃ workId attempt controllerId controllerEpoch row payload,
        operation = .rescheduleWork workId attempt controllerId controllerEpoch ∧
        world.tables.ledger.find? workId = some row ∧
        row.attempt = attempt ∧
        (execute outside operation world).2.tables.ledger = world.tables.ledger.set workId
            (row.rescheduled (attempt + 1) payload (nowIso outside world)) := by
  cases operation with
  | updateWorkState update =>
      simp only [execute]
      split
      · exact .inl rfl
      · split
        · exact .inl rfl
        · next found after updated =>
            rcases updateWorkState_ledger updated with same | ⟨row, present, current, written⟩
            · exact .inl same
            · exact .inr (.inl ⟨update, row, rfl, present, current, written⟩)
  | rescheduleWork workId attempt controllerId controllerEpoch =>
      simp only [execute]
      split
      · exact .inl rfl
      · split
        · exact .inl rfl
        · next reply after rescheduled =>
            rcases rescheduleWork_ledger rescheduled with
              same | ⟨row, payload, present, current, written⟩
            · exact .inl same
            · exact .inr (.inr ⟨workId, attempt, controllerId, controllerEpoch, row, payload,
                rfl, present, current, written⟩)
  | markOutboxPublished workId attempt =>
      simp only [execute]
      split
      · exact .inl rfl
      · exact .inl (ledger_updateOutbox ..)
  | recordOutboxPublishAttempt workId attempt error =>
      simp only [execute]
      split
      · exact .inl rfl
      · exact .inl (ledger_updateOutbox ..)
  | isLeader => exact .inl rfl
  | now => exact .inl rfl
  | identity => exact .inl rfl
  | publish subject payload msgId =>
      simp only [execute]
      split <;> exact .inl rfl
  | getWorkLedger workId =>
      simp only [execute]
      split <;> exact .inl rfl
  | markWorkDone workId attempt =>
      simp only [execute]
      split <;> exact .inl rfl
  | listOutboxUnpublished limit =>
      simp only [execute]
      split <;> exact .inl rfl
  | listWorkStateBefore state cutoff =>
      simp only [execute]
      split <;> exact .inl rfl

/-- An attempt is finished by an operation only when the operation is the
update that says so. -/
theorem finished_execute
    {operation : Op} {world : World} {item : String × Int}
    (finished : Finished (execute outside operation world).2.tables item) :
    Finished world.tables item ∨ ∃ update, operation = .updateWorkState update ∧
        update.state.isTerminal = true ∧ item = (update.workId, update.attempt) := by
  obtain ⟨row, present, current, terminal⟩ := finished
  rcases execute_ledger outside operation world with
    same | ⟨update, old, rfl, found, attempt, written⟩ |
      ⟨workId, attempt, _, _, old, payload, rfl, found, _, written⟩
  · exact .inl ⟨row, same ▸ present, current, terminal⟩
  · rw [written, Dictionary.find?_set] at present
    split at present
    · next equal =>
        cases present
        exact .inr ⟨update, rfl, terminal, Prod.ext equal.symm (by
          rw [← current]
          exact attempt)⟩
    · exact .inl ⟨row, present, current, terminal⟩
  · rw [written, Dictionary.find?_set] at present
    split at present
    · cases present
      cases terminal
    · exact .inl ⟨row, present, current, terminal⟩

/-- An operation that reopens no finished attempt keeps what is finished. -/
theorem finishedKept_execute
    {operation : Op} {world : World}
    (reopens : ∀ item, operation.Reopens item → ¬ Finished world.tables item) :
    FinishedKept world.tables (execute outside operation world).2.tables := by
  rintro ⟨workId, attempt⟩ finished
  obtain ⟨row, present, current, terminal⟩ := id finished
  dsimp only at present current
  rcases execute_ledger outside operation world with
    same | ⟨update, old, rfl, found, isCurrent, written⟩ |
      ⟨other, number, _, _, old, payload, rfl, found, isCurrent, written⟩
  · exact ⟨row, same ▸ present, current, terminal⟩
  · by_cases equal : update.workId = workId
    · subst equal
      obtain rfl : row = old := Option.some.inj (present.symm.trans found)
      refine ⟨row.updated update (nowIso outside world), ?_, current, ?_⟩
      · rw [written, Dictionary.find?_set, if_pos rfl]
      · change update.state.isTerminal = true
        by_contra reopened
        refine reopens (update.workId, update.attempt) ⟨rfl, by simpa using reopened⟩ ?_
        exact ⟨row, present, isCurrent, terminal⟩
    · refine ⟨row, ?_, current, terminal⟩
      rw [written, Dictionary.find?_set, if_neg equal]
      exact present
  · by_cases equal : other = workId
    · subst equal
      obtain rfl : row = old := Option.some.inj (present.symm.trans found)
      exact absurd ⟨row, present, isCurrent, terminal⟩ (reopens (other, number) rfl)
    · refine ⟨row, ?_, current, terminal⟩
      rw [written, Dictionary.find?_set, if_neg equal]
      exact present

/-! ## Runs -/

/-- A thread that has just been started looks before it writes. -/
theorem not_mayReopen_program (call : Call) (item : String × Int) :
    ¬ MayReopen item call.program := by
  cases call with
  | result message =>
      obtain ⟨subject, payload⟩ := message
      cases payload with
      | dict payload =>
          cases number : ((Py.Dict.get payload "attempt").or (.int 0)).toInt with
          | none =>
              simp [MayReopen, Call.program, onResult, takeResult, number, Program.ask,
                Program.ofOption, Program.attempt, Op.Reopens, Op.Looks]
          | some attempt =>
              by_cases zero : attempt = 0 <;>
                simp [MayReopen, Call.program, onResult, takeResult, number, zero,
                  Program.ask, Program.ofOption, Program.attempt, Op.Reopens, Op.Looks,
                  apply_ite]
      | _ => simp [MayReopen, Call.program, onResult, Program.ask, Op.Reopens, Op.Looks]
  | publish batchSize =>
      simp [MayReopen, Call.program, publishOnce, Program.ask, Op.Reopens, Op.Looks]
  | sweep config =>
      simp only [MayReopen, Call.program, sweep, rescheduleOverdue]
      split <;> split <;> simp [Program.ask, Op.Reopens, Op.Looks]

/-- No thread may go on to reopen a finished attempt, and what was finished in
these tables still is. -/
structure ClearSince (start : Tables) (writers : Writers) : Prop where
  clear : writers.Clear Op.Reopens Op.Looks fun world => Finished world.tables
  kept : FinishedKept start writers.state.tables

/-- One action in order keeps what is finished. -/
theorem finishedKept_step
    {writers next : Writers} {action : PoolAction Call}
    (clear : writers.Clear Op.Reopens Op.Looks fun world => Finished world.tables)
    (stepped : Writers.step outside writers action = some next) :
    FinishedKept writers.state.tables next.state.tables := by
  rcases Pool.step_cases stepped with
    ⟨thread, call, rfl, -, rfl⟩ | ⟨thread, operation, rest, rfl, present, rfl⟩
  · exact fun _ finished => finished
  · exact finishedKept_execute outside fun item reopens =>
      clear thread _ item present (.inl reopens)

theorem ClearSince.step
    {start : Tables} {writers next : Writers} {action : PoolAction Call}
    (since : ClearSince start writers) (inOrder : InOrder outside writers action)
    (stepped : Writers.step outside writers action = some next) :
    ClearSince start next := by
  refine ⟨since.clear.step not_mayReopen_program stepped ?_ ?_, ?_⟩
  · intro thread operation rest advances running looks item may
    subst advances
    exact (inOrder operation rest running).1 looks item may
  · intro thread operation rest advances running item finished
    subst advances
    rcases finished_execute outside finished with before | ⟨update, rfl, terminal, rfl⟩
    · exact .inl before
    · have alone := (inOrder _ rest running).2 update rfl terminal
      refine .inr ⟨fun may => ?_, alone⟩
      exact alone thread _ running (.inr ⟨id, _, may⟩)
  · intro item finished
    exact finishedKept_step outside since.clear stepped item (since.kept item finished)

theorem ClearSince.run
    {start : Tables} {writers reached : Writers} {actions : List (PoolAction Call)}
    (since : ClearSince start writers)
    (inOrder : Machine.Along (Writers.step outside) (InOrder outside) writers actions)
    (ran : Machine.run (Writers.step outside) writers actions = some reached) :
    ClearSince start reached :=
  Machine.invariant_of_step (fun _ _ _ since inOrder stepped => since.step outside inOrder stepped)
    since inOrder ran

/-- In a run whose actions are all in order, an attempt that is finished in
some state is the current one and finished in every later state. -/
theorem finishedKept_of_inOrder
    (world : World) (front back : List (PoolAction Call)) (middle finish : Writers)
    (prior : Machine.run (Writers.step outside) (Pool.idle world) front = some middle)
    (continued : Machine.run (Writers.step outside) middle back = some finish)
    (inOrder : Machine.Along (Writers.step outside) (InOrder outside) (Pool.idle world)
      (front ++ back)) :
    FinishedKept middle.state.tables finish.state.tables := by
  obtain ⟨before, after⟩ := inOrder.split prior
  have idle : ClearSince world.tables (Pool.idle world) :=
    ⟨fun _ _ _ running => by simp [Pool.idle] at running, fun _ finished => finished⟩
  have clear := (idle.run outside before prior).clear
  have since : ClearSince middle.state.tables middle := ⟨clear, fun _ finished => finished⟩
  exact (since.run outside after continued).kept

/-! ## Samples -/

/-- A controller that leads, whose store and bus never fail. -/
def sampleOutside : Outside where
  isLeader := fun _ => true
  identity := fun _ => ("ctl", 1)
  publishFault := fun _ => none
  storeFault := fun _ => none
  timeBefore := fun _ _ => "2025-01-01T00:00:00+00:00"

def succeededRow : LedgerRow where
  attempt := 1
  siteId := "edge"
  state := .succeeded
  controllerId := .str "ctl"
  controllerEpoch := .int 1
  operationId := .str "work:job:1"
  desiredGeneration := .null
  assignedNodeId := .null
  observedGeneration := .null
  result := .null
  createdAt := "2025-01-01T00:00:00+00:00"
  updatedAt := "2025-01-01T00:00:00+00:00"
  stateUpdatedAt := "2025-01-01T00:00:00+00:00"

/-- One job that has succeeded, and nothing left to publish. -/
def succeededWorld : World where
  tables :=
    { ledger := Dictionary.empty.set "job" succeededRow
      outbox := Dictionary.empty }
  performed := 0

def publisherTurn : List (PoolAction Call) :=
  [.start 0 (.publish 100), .advance 0, .advance 0]

/-- The turn of the publisher is in order and leaves the job finished. -/
theorem publisherTurn_finishedKept :
    ∃ finish : Writers, Machine.run (Writers.step sampleOutside) (Pool.idle succeededWorld) [] =
          some (Pool.idle succeededWorld) ∧
        Machine.run (Writers.step sampleOutside) (Pool.idle succeededWorld) publisherTurn =
          some finish ∧
        Finished succeededWorld.tables ("job", 1) ∧
        FinishedKept succeededWorld.tables finish.state.tables := by
  have inOrder : Machine.Along (Writers.step sampleOutside) (InOrder sampleOutside)
      (Pool.idle succeededWorld) ([] ++ publisherTurn) := by
    refine .cons rfl trivial (.cons rfl ?_ (.cons rfl ?_ trivial))
    · intro operation rest running
      cases running
      exact ⟨False.elim, fun _ same => by cases same⟩
    · intro operation rest running
      cases running
      exact ⟨fun _ _ may => may.elim, fun _ same => by cases same⟩
  refine ⟨_, rfl, rfl, ⟨succeededRow, rfl, rfl, rfl⟩, ?_⟩
  exact finishedKept_of_inOrder sampleOutside succeededWorld [] publisherTurn _ _ rfl rfl inOrder

/-- A message that the site sent before the job succeeded. -/
def lateMessage : ResultMessage where
  subject := "k1s.v1.site.edge.result"
  payload := .dict [("work_id", .str "job"), ("attempt", .int 1), ("status", .str "running"),
      ("controller_id", .str "ctl"), ("controller_epoch", .int 1),
      ("operation_id", .str "work:job:1")]

/-- The message is handled when the job has already succeeded. -/
def lateRunning : List (PoolAction Call) :=
  [.start 0 (.result lateMessage), .advance 0, .advance 0, .advance 0]

theorem lateRunning_state :
    (Machine.run (Writers.step sampleOutside) (Pool.idle succeededWorld) lateRunning).map
        (fun writers => (writers.state.tables.ledger.find? "job").map LedgerRow.state) =
      some (some .running) := by
  decide +kernel

/-- A late `running` message takes finished work back. -/
theorem not_finishedKept_lateRunning :
    ¬ ∀ (world : World) (front back : List (PoolAction Call)) (middle finish : Writers),
      Machine.run (Writers.step sampleOutside) (Pool.idle world) front = some middle →
      Machine.run (Writers.step sampleOutside) middle back = some finish →
      FinishedKept middle.state.tables finish.state.tables := by
  intro kept
  have state := lateRunning_state
  rw [Option.map_eq_some_iff] at state
  obtain ⟨finish, ran, running⟩ := state
  obtain ⟨row, present, -, terminal⟩ :=
    kept succeededWorld [] lateRunning _ finish rfl ran ("job", 1) ⟨succeededRow, rfl, rfl, rfl⟩
  dsimp only at present
  rw [present, Option.map_some, Option.some.injEq] at running
  rw [running] at terminal
  cases terminal

end Work
end K1s
