import K1s.Gateway.Delivered

/-!
# Work messages that are acknowledged

A work message is acknowledged when its result is in the spool, when it is malformed,
or when the fence calls it stale.  The fence also calls a message a duplicate from the
moment at which its work is handed to a node, and a duplicate is acknowledged: a
message that is handed back and comes again is dropped without a result.
-/

namespace K1s
namespace Gateway

open Ha (MutationEnvelope)
open Program (PoolAction Discipline Safe)

/-! ## The property and the condition -/

def JsMessage.key (message : JsMessage) : Option WorkKey :=
  message.payload.bind fun payload => workKey payload.workId payload.attempt

/-- A payload without an envelope. -/
def JsMessage.Malformed (message : JsMessage) : Prop :=
  ∃ payload, message.payload = some payload ∧ payload.envelope = none

/-- The spool has a result of this work id and attempt. -/
def Recorded (key : WorkKey) (world : World) : Prop :=
  (world.spool.results.find? key).isSome

def HasResult (message : JsMessage) (world : World) : Prop :=
  ∃ key, message.key = some key ∧ Recorded key world

/-- What allows an acknowledgement. -/
def Justified (message : JsMessage) (world : World) : Prop :=
  HasResult message world ∨ message.Malformed ∨ message ∈ world.stale

/-- Every acknowledged message has a result, is malformed or is stale. -/
def AcksJustified (world : World) : Prop :=
  ∀ message ∈ world.acked, Justified message world

variable (config : GatewayConfig) (outside : Outside)

/-- A message that the fence calls a duplicate has its result in the spool. -/
def DuplicatesRecorded : World → Op → Prop
  | world, .fenceBegin message envelope =>
      ∀ decision after, world.fence.begin config.fenceScope envelope
            (Py.isoformat (outside.clock world.performed)) = some (decision, after) →
          decision.status = .duplicate → HasResult message world
  | _, _ => True

/-! ## What is kept -/

/-- Results and stale messages are not forgotten. -/
structure Grows (before after : World) : Prop where
  recorded : ∀ key, Recorded key before → Recorded key after
  stale : ∀ message ∈ before.stale, message ∈ after.stale

/-- Besides the acknowledged messages, those that the memory calls completed have
their results, and the messages in work stand under their own keys. -/
structure Accounted (world : World) : Prop where
  acked : AcksJustified world
  completed : ∀ key, (world.memory.completed.find? key).isSome → Recorded key world
  inflight : ∀ key message, world.memory.inflight.find? key = some message → message.key = some key

/-- What an operation needs so that the accounts stay in order. -/
def AccountSound : Op → World → Prop
  | .ackSync message, world => Justified message world
  | .assign change, world =>
      ∀ memory : Memory, (∀ key, ((change memory).completed.find? key).isSome →
          (memory.completed.find? key).isSome ∨ Recorded key world) ∧
        ∀ key message, (change memory).inflight.find? key = some message →
          memory.inflight.find? key = some message ∨ message.key = some key
  | _, _ => True

theorem Grows.refl (world : World) : Grows world world :=
  ⟨fun _ recorded => recorded, fun _ listed => listed⟩

theorem Grows.trans
    {first second third : World} (one : Grows first second)
    (two : Grows second third) : Grows first third :=
  ⟨fun key recorded => two.recorded key (one.recorded key recorded),
    fun message listed => two.stale message (one.stale message listed)⟩

variable {message : JsMessage} {after before : World}

theorem Grows.hasResult
    (grows : Grows before after)
    (result : HasResult message before) : HasResult message after := by
  obtain ⟨key, same, recorded⟩ := result
  exact ⟨key, same, grows.recorded key recorded⟩

theorem Grows.justified
    (grows : Grows before after)
    (justified : Justified message before) : Justified message after := by
  rcases justified with result | malformed | stale
  · exact .inl (grows.hasResult result)
  · exact .inr (.inl malformed)
  · exact .inr (.inr (grows.stale message stale))

theorem grows_effect (operation : Op) (world : World) :
    Grows world (operation.effect config outside world) := by
  refine ⟨fun key recorded => ?_, fun message listed => ?_⟩
  · unfold Recorded at recorded ⊢
    rcases effect_results config outside operation world key with
      same | ⟨status, payload, -, written⟩ | ⟨change, changed, -, -⟩
    · rw [same]
      exact recorded
    · rw [written]
      rfl
    · rw [changed, Option.isSome_map]
      exact recorded
  · cases operation with
    | fenceBegin other envelope =>
        simp only [Op.effect]
        split
        · exact listed
        · split
          · exact List.mem_cons_of_mem _ listed
          · exact listed
    | _ => exact listed

theorem grows_execute (operation : Op) (world : World) :
    Grows world (execute config outside operation world).2 := by
  rcases execute_world config outside operation world with same | effected
  · rw [same]
    exact ⟨fun _ recorded => recorded, fun _ listed => listed⟩
  · rw [effected]
    have grows := grows_effect config outside operation world
    exact ⟨grows.recorded, grows.stale⟩

variable {operation : Op} {world : World}

/-- An operation that is sound keeps the accounts in order. -/
theorem Accounted.effect
    (accounted : Accounted world) (sound : AccountSound operation world) :
    Accounted (operation.effect config outside world) := by
  have grows := grows_effect config outside operation world
  have acked : ∀ message ∈ world.acked,
      Justified message (operation.effect config outside world) :=
    fun message listed => grows.justified (accounted.acked message listed)
  have completed : ∀ key, (world.memory.completed.find? key).isSome →
      Recorded key (operation.effect config outside world) :=
    fun key there => grows.recorded key (accounted.completed key there)
  cases operation with
  | ackSync message =>
      refine ⟨fun other listed => ?_, completed, accounted.inflight⟩
      rcases List.mem_cons.mp listed with rfl | before
      · exact sound
      · exact acked other before
  | assign change =>
      refine ⟨acked, fun key there => ?_, fun key message found => ?_⟩
      · rcases (sound world.memory).1 key there with before | recorded
        · exact completed key before
        · exact recorded
      · rcases (sound world.memory).2 key message found with before | own
        · exact accounted.inflight key message before
        · exact own
  | popInflight key =>
      refine ⟨acked, completed, fun other message found => ?_⟩
      simp only [Op.effect, Dictionary.find?_drop] at found
      split at found
      · cases found
      · exact accounted.inflight other message found
  | fenceBegin message envelope =>
      simp only [Op.effect] at acked completed ⊢
      split at acked
      · next missing =>
          simp only [missing] at completed ⊢
          exact accounted
      · next begun =>
          simp only [begun] at completed ⊢
          exact ⟨acked, completed, accounted.inflight⟩
  | _ => exact ⟨acked, completed, accounted.inflight⟩

theorem Accounted.execute
    (accounted : Accounted world) (sound : AccountSound operation world) :
    Accounted (execute config outside operation world).2 := by
  rcases execute_world config outside operation world with same | effected
  · rw [same]
    exact ⟨accounted.acked, accounted.completed, accounted.inflight⟩
  · rw [effected]
    have kept := accounted.effect config outside sound
    exact ⟨kept.acked, kept.completed, kept.inflight⟩

def accounting : Discipline World Op Reply where
  execute := execute config outside
  permitted := DuplicatesRecorded config outside
  invariant := Accounted
  later := Grows
  later_refl := Grows.refl
  later_trans _ _ _ := Grows.trans

/-! ## The programs -/

variable {α β : Type}

variable {state : World}

/-- A program whose first operation is sound. -/
theorem safe_perform
    {post : α → World → Prop} {next : Reply operation → GatewayProgram α}
    (sound : ∀ reached, Grows state reached → Accounted reached → AccountSound operation reached)
    (continued : ∀ reached, Grows state reached → Accounted reached →
      DuplicatesRecorded config outside reached operation →
      Grows state (execute config outside operation reached).2 →
      Safe (accounting config outside) post (next (execute config outside operation reached).1)
        (execute config outside operation reached).2) :
    Safe (accounting config outside) post (.perform operation next) state := by
  intro reached grows accounted permitted
  exact ⟨grows_execute config outside operation reached,
    accounted.execute config outside (sound reached grows accounted),
    continued reached grows accounted permitted
      (grows.trans (grows_execute config outside operation reached))⟩

theorem Op.Minor.accountSound
    (minor : operation.Minor)
    (world : World) : AccountSound operation world := by
  cases operation with
  | ackSync message => exact minor.elim
  | assign change =>
      exact fun memory => ⟨fun key there => .inl ((minor memory).1 key there),
        fun key message found => .inl ((minor memory).2 key message found)⟩
  | _ => trivial

variable {program : GatewayProgram α}

/-- A program of operations that are sound wherever they are performed. -/
theorem safe_of_sound
    (uses : program.Uses fun operation => ∀ world, AccountSound operation world)
    (state : World) : Safe (accounting config outside) (fun _ _ => True) program state :=
  uses.safe (fun operation sound reached accounted _ =>
    ⟨grows_execute config outside operation reached,
      accounted.execute config outside (sound reached)⟩) (fun _ _ _ _ => trivial) trivial

/-- A program that does little is safe. -/
theorem safe_minor (uses : program.Uses Op.Minor) (state : World) :
    Safe (accounting config outside) (fun _ _ => True) program state :=
  safe_of_sound config outside (uses.mono fun _ minor => minor.accountSound) state

theorem safe_quietly (operation : Op) (minor : operation.Minor) (state : World) :
    Safe (accounting config outside) (fun _ _ => True) (quietly operation) state :=
  safe_minor config outside (uses_quietly operation minor) state

theorem safe_ackSync
    {next : Option Unit → GatewayProgram α} (justified : Justified message state)
    (continued : ∀ reply reached, Grows state reached →
      Safe (accounting config outside) (fun _ _ => True) (next reply) reached) :
    Safe (accounting config outside) (fun _ _ => True) (.perform (.ackSync message) next) state :=
  safe_perform config outside (fun _ grows _ => grows.justified justified)
    fun _ _ _ _ grown => continued _ _ grown

variable {key : WorkKey}

theorem accountSound_complete (recorded : Recorded key world) (now : Rat) :
    AccountSound (.assign fun memory =>
      { memory with completed := memory.completed.set key now }) world := by
  refine fun memory => ⟨fun other there => ?_, fun _ _ found => .inl found⟩
  simp only [Dictionary.find?_set] at there
  split at there
  · next same => exact .inr (same ▸ recorded)
  · exact .inl there

theorem safe_acknowledge (recorded : Recorded key state) :
    Safe (accounting config outside) (fun _ _ => True) (acknowledge key) state := by
  refine safe_perform config outside (fun _ _ _ => trivial) fun looked _ _ _ grown => ?_
  have recorded := grown.recorded key recorded
  refine Safe.ite (fun _ => ?_) fun _ => trivial
  refine safe_perform config outside (fun _ _ _ => trivial) fun reached _ accounted _ grown => ?_
  have recorded := grown.recorded key recorded
  cases popped : (execute config outside (.popInflight key) reached).1 with
  | none => trivial
  | some message =>
      have own : message.key = some key := accounted.inflight key message popped
      refine safe_perform config outside
        (fun after _ _ => (minor_assign fun _ => ⟨rfl, rfl⟩).accountSound after) ?_
      intro _ _ _ _ grown
      have recorded := grown.recorded key recorded
      refine safe_perform config outside (fun _ _ _ => trivial) fun _ _ _ _ grown => ?_
      have recorded := grown.recorded key recorded
      refine safe_perform config outside
        (fun after grows _ => accountSound_complete (grows.recorded key recorded) _) ?_
      intro _ _ _ _ grown
      exact safe_ackSync config outside (.inl ⟨key, own, grown.recorded key recorded⟩)
        fun _ _ _ => trivial

theorem safe_passOn
    (payload : WorkResult) {key : Option WorkKey}
    (recorded : ∀ found, key = some found → Recorded found state) :
    Safe (accounting config outside) (fun _ _ => True) (passOn config payload key) state := by
  have stable : ∀ first second, Grows first second →
      (∀ found, key = some found → Recorded found first) →
        ∀ found, key = some found → Recorded found second :=
    fun _ _ grows known found same => grows.recorded found (known found same)
  refine safe_perform config outside (fun _ _ _ => trivial) fun _ _ _ _ grown => ?_
  have recorded := stable _ _ grown recorded
  refine Safe.andThen
    (?_ : Safe _ (fun _ reached => ∀ found, key = some found → Recorded found reached) _ _)
    fun _ reached recorded => ?_
  · split
    · refine Safe.ite (fun _ => ?_) fun _ => recorded
      refine safe_perform config outside (fun _ _ _ => trivial) fun _ _ _ _ grown => ?_
      exact stable _ _ grown recorded
    · exact recorded
  · cases key with
    | none => trivial
    | some key => exact safe_acknowledge config outside (recorded key rfl)

theorem recorded_of_answered
    {status : String} {payload : WorkResult} {answer : Unit}
    (answered : (execute config outside (.recordResult key status payload) world).1 =
      some answer) :
    Recorded key (execute config outside (.recordResult key status payload) world).2 := by
  rcases performed : execute config outside (.recordResult key status payload) world
    with ⟨reply, after⟩
  rw [performed] at answered
  obtain rfl : reply = some answer := answered
  obtain ⟨-, rfl⟩ := meet_answered outside performed
  exact Option.isSome_iff_exists.mpr ⟨_, (Dictionary.find?_set _ _ _ _).trans (if_pos rfl)⟩

theorem recorded_of_found
    (found : ((execute config outside (.getResult key) world).1.bind id).isSome) :
    Recorded key (execute config outside (.getResult key) world).2 := by
  rcases performed : execute config outside (.getResult key) world with ⟨reply, after⟩
  rw [performed] at found
  cases reply with
  | none => cases found
  | some result =>
      obtain ⟨rfl, rfl⟩ := meet_answered outside performed
      exact found

/-- With a spool a result is recorded before its message is acknowledged. -/
theorem safe_onLocalResult
    (enabled : config.spoolEnabled = true) (given : WorkResult) (state : World) :
    Safe (accounting config outside) (fun _ _ => True) (onLocalResult config given) state := by
  refine Safe.andThen (safe_minor config outside (uses_resolveResultEnvelope config _) state) ?_
  intro envelope reached _
  cases envelope with
  | none => trivial
  | some envelope =>
      dsimp only
      split
      · exact safe_passOn config outside _ nofun
      · next key _ =>
          rw [if_pos enabled]
          refine safe_perform config outside (fun _ _ _ => trivial) fun reached _ _ _ _ => ?_
          cases answered : (execute config outside (.recordResult key _ _) reached).1 with
          | none => trivial
          | some answer =>
              have recorded := recorded_of_answered config outside answered
              refine safe_perform config outside (fun _ _ _ => trivial) fun _ _ _ _ grown => ?_
              split
              · trivial
              · refine safe_passOn config outside _ fun found same => ?_
                exact Option.some.inj same ▸ grown.recorded key recorded

/-! ## Polling -/

/-- A message that has its own key goes into work. -/
theorem accountSound_enter
    (own : message.key = some key) {change : Memory → Memory}
    (same : ∀ memory, (change memory).completed = memory.completed ∧
      (change memory).inflight = memory.inflight.set key message)
    (world : World) : AccountSound (.assign change) world := by
  intro memory
  obtain ⟨completed, inflight⟩ := same memory
  refine ⟨fun other there => .inl (completed ▸ there), fun other entered found => ?_⟩
  rw [inflight, Dictionary.find?_set] at found
  split at found
  · next equal =>
      obtain rfl := Option.some.inj found
      exact .inr (equal ▸ own)
  · exact .inl found

variable {payload : WorkMessage}

theorem safe_accept
    (now : Rat) (envelope : MutationEnvelope) (given : message.payload = some payload)
    (state : World) :
    Safe (accounting config outside) (fun _ _ => True)
      (accept config now message payload envelope) state := by
  refine Safe.andThen (safe_minor config outside ?_ state) fun _ entered _ => ?_
  · split
    · exact .ite (uses_quietly _ trivial) trivial
    · trivial
  refine Safe.andThen (safe_minor config outside (uses_dispatchWork config _ _) entered) ?_
  intro dispatched reached _
  refine Safe.ite (fun _ => ?_) fun _ => safe_quietly config outside (.nak _ _) trivial reached
  refine safe_perform config outside (fun _ _ _ => trivial) fun _ _ _ _ _ => ?_
  split
  · trivial
  · trivial
  · next key _ same =>
      have own : message.key = some key := by
        rw [JsMessage.key, given]
        exact same
      refine safe_perform config outside (fun after _ _ => ?_) fun _ _ _ _ _ => trivial
      refine accountSound_enter own (fun _ => ?_) after
      exact ⟨rfl, rfl⟩

theorem safe_pollRemembered
    (now : Rat) (envelope : MutationEnvelope) (given : message.payload = some payload)
    (state : World) :
    Safe (accounting config outside) (fun _ _ => True)
      (pollRemembered config now message payload envelope) state := by
  have accepted := safe_accept config outside now envelope given
  unfold pollRemembered
  split
  · exact accepted state
  · next key same =>
      have own : message.key = some key := by
        rw [JsMessage.key, given]
        exact same
      refine safe_perform config outside (fun _ _ _ => trivial) ?_
      intro looked _ accounted _ grown
      refine Safe.ite (fun _ => Safe.ite (fun _ => ?_) fun _ => ?_) fun _ =>
        Safe.ite (fun completed => ?_) fun _ => accepted _
      · refine safe_perform config outside (fun _ _ _ => trivial) fun _ _ _ _ _ => ?_
        refine safe_minor config outside ?_ _
        refine Program.Uses.andThen (.ite (uses_quietly _ trivial) trivial) fun _ => ?_
        exact ⟨minor_forget key, fun _ => trivial⟩
      · exact safe_quietly config outside (.inProgress _) trivial _
      · have recorded := (grows_execute config outside .look looked).recorded key
          (accounted.completed key completed)
        exact safe_ackSync config outside (.inl ⟨key, own, recorded⟩) fun _ _ _ => trivial

theorem safe_pollAccepted
    (now : Rat) (envelope : MutationEnvelope) (given : message.payload = some payload)
    (state : World) :
    Safe (accounting config outside) (fun _ _ => True)
      (pollAccepted config now message payload envelope) state := by
  unfold pollAccepted
  split
  · exact safe_accept config outside now envelope given state
  · next key same =>
      have own : message.key = some key := by
        rw [JsMessage.key, given]
        exact same
      have remembered := safe_pollRemembered config outside now envelope given
      refine Safe.ite (fun _ => ?_) fun _ => remembered state
      refine safe_perform config outside (fun _ _ _ => trivial) fun asked _ _ _ _ => ?_
      refine Safe.ite (fun found => ?_) fun _ => ?_
      · have recorded := recorded_of_found config outside found
        refine safe_ackSync config outside (.inl ⟨key, own, recorded⟩) fun _ reached grown => ?_
        refine safe_perform config outside (fun after grows _ => ?_) fun _ _ _ _ _ => trivial
        exact accountSound_complete (grows.recorded key (grown.recorded key recorded)) now
      · refine safe_perform config outside (fun _ _ _ => trivial) fun _ _ _ _ _ => ?_
        refine Safe.ite (fun _ => ?_) fun _ => remembered _
        refine safe_perform config outside (fun after _ _ => ?_) fun _ _ _ _ _ => trivial
        refine accountSound_enter own (fun _ => ?_) after
        exact ⟨rfl, rfl⟩

theorem begin_of_answered
    {envelope : MutationEnvelope} {decision : Ha.FenceDecision}
    (answered : (execute config outside (.fenceBegin message envelope) world).1 = some decision) :
    (∃ after, world.fence.begin config.fenceScope envelope
        (Py.isoformat (outside.clock world.performed)) = some (decision, after)) ∧
      (decision.status = .stale →
        message ∈ (execute config outside (.fenceBegin message envelope) world).2.stale) := by
  rcases performed : execute config outside (.fenceBegin message envelope) world
    with ⟨reply, reached⟩
  rw [performed] at answered
  obtain rfl : reply = some decision := answered
  simp only [execute] at performed
  split at performed
  · cases (Prod.mk.inj performed).1
  · next begun =>
      obtain ⟨rfl, rfl⟩ := meet_answered outside performed
      refine ⟨⟨_, begun⟩, fun stale => ?_⟩
      simp [World.next, stale]

theorem safe_pollMessage (now : Rat) (message : JsMessage) (state : World) :
    Safe (accounting config outside) (fun _ _ => True) (pollMessage config now message) state := by
  unfold pollMessage
  split
  · trivial
  · next payload given =>
      split
      · next absent =>
          exact safe_ackSync config outside (.inr (.inl ⟨payload, given, absent⟩))
            fun _ _ _ => trivial
      · next envelope _ =>
          refine safe_perform config outside (fun _ _ _ => trivial) ?_
          intro asked _ _ duplicates _
          cases answered : (execute config outside (.fenceBegin message envelope) asked).1 with
          | none => trivial
          | some decision =>
              obtain ⟨⟨after, begun⟩, stale⟩ := begin_of_answered config outside answered
              refine Safe.ite (fun refused => ?_) fun _ =>
                safe_pollAccepted config outside now envelope given _
              refine safe_ackSync config outside ?_ fun _ _ _ => trivial
              rcases refused with isStale | isDuplicate
              · exact .inr (.inr (stale isStale))
              · exact .inl ((grows_execute config outside _ asked).hasResult
                  (duplicates decision after begun isDuplicate))

/-- A replay acknowledges nothing. -/
theorem safe_replaySpoolResults (state : World) :
    Safe (accounting config outside) (fun _ _ => True) (replaySpoolResults config) state := by
  refine safe_of_sound config outside ?_ state
  refine Program.Uses.ite ⟨fun _ => trivial, fun listed => ?_⟩ trivial
  cases listed with
  | none => trivial
  | some rows =>
      refine Program.Uses.forEach fun row _ => ?_
      refine .ite trivial ⟨fun _ => trivial, fun published => ?_⟩
      cases published with
      | none => exact ⟨fun _ => trivial, fun _ => trivial⟩
      | some sent =>
          refine ⟨fun _ => trivial, fun marked => ?_⟩
          cases marked with
          | none => exact ⟨fun _ => trivial, fun _ => trivial⟩
          | some answer => trivial

/-! ## Runs -/

theorem safe_program (enabled : config.spoolEnabled = true) (call : Call) (state : World) :
    Safe (accounting config outside) (fun _ _ => True) (call.program config) state := by
  cases call with
  | localResult payload => exact safe_onLocalResult config outside enabled payload state
  | localProgress key => exact safe_minor config outside (uses_onLocalProgress key) state
  | replay => exact safe_replaySpoolResults config outside state
  | poll messages now =>
      exact Safe.forEach trivial fun message _ reached _ =>
        safe_pollMessage config outside now message reached
  | progress now => exact safe_minor config outside (uses_runProgress config now) state

/-- Each message that the fence calls a duplicate has its result in the spool. -/
def FindsDuplicatesRecorded (threads : Threads) : PoolAction Call → Prop :=
  Program.Pool.Permitted (accounting config outside) threads

/-- With a spool, and as long as each message that the fence calls a duplicate has its
result in the spool, every acknowledged message has its result in the spool, is malformed
or is stale. -/
theorem acksJustified_of_duplicatesRecorded
    {world : World} {actions : List (PoolAction Call)} {threads : Threads}
    (enabled : config.spoolEnabled = true) (start : Accounted world)
    (recorded : Machine.Along (Threads.step config outside)
      (FindsDuplicatesRecorded config outside) (Program.Pool.idle world) actions)
    (ran : Machine.run (Threads.step config outside) (Program.Pool.idle world) actions =
      some threads) :
    AcksJustified threads.state := by
  have bodies : ∀ call state, (accounting config outside).invariant state →
      Safe (accounting config outside) (fun _ _ => True) (Call.program config call) state :=
    fun call state _ => safe_program config outside enabled call state
  exact (Program.Pool.invariant_of_run bodies start recorded ran).acked

/-! ## Two runs -/

/-- The work `w-1`. -/
def sampleWork : WorkMessage where
  workId := some "w-1"
  attempt := some 1
  envelope := some sampleEnvelope
  preferredNode := some "node-1"
  nodeId := none
  desiredGeneration := none
  rest := []

/-- A delivery of the work `w-1`. -/
def sampleMessage (seq : Int) : JsMessage where
  payload := some sampleWork
  stream := some "WORK"
  consumer := some "WORK_SITE_A"
  seq := some seq

/-- `DuplicatesRecorded` for the next operation of a thread. -/
def duplicatesTest (threads : Threads) : PoolAction Call → Bool
  | .start _ _ => true
  | .advance thread =>
      match threads.pending thread with
      | some (.fenceBegin message envelope) =>
          (threads.state.fence.begin config.fenceScope envelope
            (Py.isoformat (outside.clock threads.state.performed))).all fun begun =>
              decide (begun.1.status ≠ .duplicate) ||
                (message.key.bind threads.state.spool.results.find?).isSome
      | _ => true

theorem findsDuplicatesRecorded_of_test
    (threads : Threads) (action : PoolAction Call)
    (passed : duplicatesTest config outside threads action = true) :
    FindsDuplicatesRecorded config outside threads action := by
  cases action with
  | start thread call => trivial
  | advance thread =>
      intro operation pending
      cases operation with
      | fenceBegin message envelope =>
          intro decision after begun duplicate
          simp only [duplicatesTest, pending, begun, Option.all_some, duplicate, ne_eq,
            not_true_eq_false, decide_false, Bool.false_or] at passed
          obtain ⟨record, found⟩ := Option.isSome_iff_exists.mp passed
          obtain ⟨key, same, found⟩ := Option.bind_eq_some_iff.mp found
          exact ⟨key, same, Option.isSome_of_eq_some found⟩
      | _ => trivial

/-- The work is handed out, its result comes, and its message is delivered again. -/
def deliveredTwice : List (PoolAction Call) :=
  [.start 0 (.poll [sampleMessage 1] 0)] ++ advances 0 14 ++
    [.start 1 (.localResult (sampleResult "succeeded"))] ++ advances 1 10 ++
    [.start 2 (.poll [sampleMessage 1] 40)] ++ advances 2 2

/-- The work is handed out, no heartbeat comes, so that its message is handed back, and
the message is delivered again. -/
def handedBack : List (PoolAction Call) :=
  [.start 0 (.poll [sampleMessage 1] 0)] ++ advances 0 14 ++
    [.start 1 (.progress 100)] ++ advances 1 6 ++
    [.start 2 (.poll [sampleMessage 1] 101)] ++ advances 2 2

/-- A gateway that has just been started has acknowledged nothing. -/
theorem accounted_initial : Accounted World.initial := by
  refine ⟨fun message listed => ?_, fun key there => ?_, fun key message found => ?_⟩
  · cases listed
  · cases there
  · cases found

theorem acksJustified_deliveredTwice :
    ∃ threads, Machine.run (Threads.step sampleConfig (losing []))
        (Program.Pool.idle World.initial) deliveredTwice = some threads ∧
      AcksJustified threads.state := by
  have ran : (Machine.run (Threads.step sampleConfig (losing []))
      (Program.Pool.idle World.initial) deliveredTwice).isSome := by
    decide +kernel
  obtain ⟨threads, ran⟩ := Option.isSome_iff_exists.mp ran
  have tested : Machine.Along (Threads.step sampleConfig (losing []))
      (fun threads action => duplicatesTest sampleConfig (losing []) threads action = true)
      (Program.Pool.idle World.initial) deliveredTwice := by
    decide +kernel
  exact ⟨threads, ran, acksJustified_of_duplicatesRecorded sampleConfig (losing []) rfl
    accounted_initial (tested.weaken (findsDuplicatesRecorded_of_test sampleConfig (losing [])))
    ran⟩

/-- A message whose work was handed out is acknowledged, and the spool has no result. -/
theorem not_acksJustified_handedBack :
    ∃ threads, Machine.run (Threads.step sampleConfig (losing []))
        (Program.Pool.idle World.initial) handedBack = some threads ∧
      ¬ AcksJustified threads.state := by
  have ran : (Machine.run (Threads.step sampleConfig (losing []))
      (Program.Pool.idle World.initial) handedBack).isSome := by
    decide +kernel
  obtain ⟨threads, ran⟩ := Option.isSome_iff_exists.mp ran
  have shown : (Machine.run (Threads.step sampleConfig (losing []))
      (Program.Pool.idle World.initial) handedBack).map (fun threads =>
        (threads.state.acked, threads.state.stale,
          (threads.state.spool.results.find? ("w-1", 1)).isSome)) =
      some ([sampleMessage 1], [], false) := by
    decide +kernel
  rw [ran, Option.map_some, Option.some.injEq, Prod.mk.injEq, Prod.mk.injEq] at shown
  obtain ⟨acked, stale, unrecorded⟩ := shown
  refine ⟨threads, ran, fun justified => ?_⟩
  rcases justified (sampleMessage 1) (acked ▸ List.mem_singleton_self _) with
    ⟨key, same, recorded⟩ | ⟨payload, given, absent⟩ | listed
  · obtain rfl := Option.some.inj same
    exact absurd recorded (Bool.eq_false_iff.mp unrecorded)
  · obtain rfl := Option.some.inj given
    cases absent
  · rw [stale] at listed
    cases listed

end Gateway
end K1s
