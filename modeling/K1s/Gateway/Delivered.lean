import K1s.Lib.Custody
import K1s.Gateway.Effects

/-!
# Results that are marked as delivered

`mark_result_delivered` marks the row that stands under its key, and not the payload
that was published.  So what keeps a marked row published is the order of the steps:
no result of a key is recorded while another thread has read or recorded an earlier
payload of the key and may still mark it.
-/

namespace K1s
namespace Gateway

open Ha (MutationEnvelope)
open Program (PoolAction)

/-! ## The property and the condition -/

/-- Every result that is marked as delivered has been published as it stands. -/
def DeliveredPublished (world : World) : Prop :=
  ∀ key record, world.spool.results.find? key = some record →
    record.deliveredToControllerAt.isSome = true → record.payload ∈ world.published

def payloadOf (key : WorkKey) (world : World) : Option WorkResult :=
  (world.spool.results.find? key).map ResultRecord.payload

/-- An operation by which a thread comes to know the payload of a key. -/
def Op.Learns : Op → Prop
  | .recordResult _ _ _ => True
  | .listReplayReadyResults _ => True
  | _ => False

/-- The operation marks the result of this key. -/
def Op.Marks (key : WorkKey) : Op → Prop
  | .markResultDelivered other => other = key
  | _ => False

/-- A result is marked only if its payload has been published. -/
def MarkSound : Op → World → Prop
  | .markResultDelivered key, world =>
      ∀ payload, payloadOf key world = some payload → payload ∈ world.published
  | _, _ => True

variable (config : GatewayConfig) (outside : Outside)

/-- A result is recorded only while no other thread that knows an earlier payload of
its key may still mark it. -/
def RecordsApart (threads : Threads) : PoolAction Call → Prop
  | .start _ _ => True
  | .advance thread =>
      ∀ key status payload rest,
        threads.threads thread = some (.perform (.recordResult key status payload) rest) →
          ∀ other program, other ≠ thread → threads.threads other = some program →
            ¬ program.May (Op.Marks key) Op.Learns

/-! ## What the operations do -/

variable {payload : WorkResult} {world : World}

theorem effect_published (operation : Op) (published : payload ∈ world.published) :
    payload ∈ (operation.effect config outside world).published := by
  cases operation with
  | publishResult sent => exact List.mem_cons_of_mem _ published
  | fenceBegin message envelope =>
      simp only [Op.effect]
      split <;> exact published
  | _ => exact published

theorem execute_published
    (operation : Op) (world : World) (payload : WorkResult)
    (published : payload ∈ world.published) :
    payload ∈ (execute config outside operation world).2.published := by
  refine execute_keeps config outside (fun reached => payload ∈ reached.published)
    (fun _ listed => listed) ?_ operation published
  exact fun operation world listed => effect_published config outside operation listed

theorem execute_payloadOf
    (operation : Op) (world : World) (key : WorkKey)
    (other : ∀ status payload, operation ≠ .recordResult key status payload) :
    payloadOf key (execute config outside operation world).2 = payloadOf key world := by
  have effect : payloadOf key (operation.effect config outside world) = payloadOf key world := by
    unfold payloadOf
    rcases effect_results config outside operation world key with
      same | ⟨status, payload, recorded, _⟩ | ⟨change, changed, keeps, _⟩
    · rw [same]
    · exact absurd recorded (other status payload)
    · rw [changed, Option.map_map]
      congr 1
      funext record
      exact keeps record
  rcases execute_world config outside operation world with same | effected
  · rw [same]
    rfl
  · rw [effected]
    exact effect

variable {operation : Op}

/-- Results that are marked as delivered are published after every operation that
marks only what is published. -/
theorem DeliveredPublished.execute
    (holds : DeliveredPublished world) (sound : MarkSound operation world) :
    DeliveredPublished (execute config outside operation world).2 := by
  have effect : DeliveredPublished (operation.effect config outside world) := by
    intro key record found delivered
    have grows : ∀ payload ∈ world.published,
        payload ∈ (operation.effect config outside world).published := by
      intro payload listed
      exact effect_published config outside operation listed
    rcases effect_results config outside operation world key with
      same | ⟨status, payload, recorded, written⟩ | ⟨change, changed, keeps, marks⟩
    · exact grows _ (holds key record (same ▸ found) delivered)
    · rw [written] at found
      obtain rfl := Option.some.inj found
      cases delivered
    · rw [changed] at found
      obtain ⟨old, present, rfl⟩ := Option.map_eq_some_iff.mp found
      rw [keeps]
      rcases marks with rfl | kept
      · refine grows _ (sound old.payload ?_)
        rw [payloadOf, present]
        rfl
      · rw [kept] at delivered
        exact grows _ (holds key old present delivered)
  rcases execute_world config outside operation world with same | effected
  · rw [same]
    exact holds
  · rw [effected]
    exact effect

/-! ## The programs -/

def Op.Plain (operation : Op) : Prop := ∀ key, ¬ operation.Marks key

/-- What the threads hold between learning a payload and marking its row. -/
def marking : Custody World Op Reply WorkKey (Option WorkResult) where
  execute := execute config outside
  acts := Op.Marks
  looks := Op.Learns
  view := payloadOf
  grows before after := ∀ payload ∈ before.published, payload ∈ after.published
  grows_refl _ _ listed := listed
  grows_trans _ _ _ one two payload listed := two payload (one payload listed)
  grows_execute := execute_published config outside
  sound := MarkSound

theorem markSound_of_plain
    (operation : Op) (plain : operation.Plain)
    (world : World) : MarkSound operation world := by
  cases operation with
  | markResultDelivered key => exact absurd rfl (plain key)
  | _ => trivial

theorem Op.Minor.plain (minor : operation.Minor) : operation.Plain := by
  cases operation with
  | markResultDelivered key => exact minor.elim
  | _ => exact fun _ marks => marks

theorem uses_acknowledge (key : WorkKey) : (acknowledge key).Uses Op.Plain := by
  refine ⟨fun _ marks => marks, fun memory => ?_⟩
  dsimp only
  split
  · refine ⟨fun _ marks => marks, fun popped => ?_⟩
    cases popped with
    | none => trivial
    | some message =>
        exact ⟨fun _ marks => marks, fun _ => ⟨fun _ marks => marks, fun _ =>
          ⟨fun _ marks => marks, fun _ => ⟨fun _ marks => marks, fun _ => trivial⟩⟩⟩⟩
  · trivial

theorem plain_quietly
    (operation : Op)
    (plain : operation.Plain) : (quietly operation).Uses Op.Plain :=
  ⟨plain, fun _ => trivial⟩

theorem uses_accept
    (now : Rat) (message : JsMessage) (payload : WorkMessage) (envelope : MutationEnvelope) :
    (accept config now message payload envelope).Uses Op.Plain := by
  refine Program.Uses.andThen ?_ fun _ =>
    ((uses_dispatchWork config payload envelope).mono fun _ minor => minor.plain).andThen
      fun dispatched => .ite ?_ ?_
  · split
    · exact .ite (plain_quietly _ fun _ marks => marks) trivial
    · trivial
  · refine ⟨fun _ marks => marks, fun committed => ?_⟩
    dsimp only
    split
    · trivial
    · trivial
    · exact ⟨fun _ marks => marks, fun _ => trivial⟩
  · exact plain_quietly _ fun _ marks => marks

theorem uses_pollRemembered
    (now : Rat) (message : JsMessage) (payload : WorkMessage) (envelope : MutationEnvelope) :
    (pollRemembered config now message payload envelope).Uses Op.Plain := by
  unfold pollRemembered
  split
  · exact uses_accept config now message payload envelope
  · refine ⟨fun _ marks => marks, fun memory => ?_⟩
    refine .ite (.ite ?_ (plain_quietly _ fun _ marks => marks))
      (.ite (plain_quietly _ fun _ marks => marks) (uses_accept config now message payload envelope))
    refine ⟨fun _ marks => marks, fun _ => ?_⟩
    refine Program.Uses.andThen (.ite (plain_quietly _ fun _ marks => marks) trivial) fun _ => ?_
    exact ⟨fun _ marks => marks, fun _ => trivial⟩

theorem uses_pollMessage (now : Rat) (message : JsMessage) :
    (pollMessage config now message).Uses Op.Plain := by
  unfold pollMessage
  split
  · trivial
  · split
    · exact plain_quietly _ fun _ marks => marks
    · refine ⟨fun _ marks => marks, fun decision => ?_⟩
      cases decision with
      | none => trivial
      | some decision =>
          refine .ite (plain_quietly _ fun _ marks => marks) ?_
          unfold pollAccepted
          split
          · exact uses_accept config now message _ _
          · refine .ite ?_ (uses_pollRemembered config now message _ _)
            refine ⟨fun _ marks => marks, fun result => .ite ?_ ?_⟩
            · exact ⟨fun _ marks => marks, fun _ => ⟨fun _ marks => marks, fun _ => trivial⟩⟩
            · refine ⟨fun _ marks => marks, fun record => .ite ?_ ?_⟩
              · exact ⟨fun _ marks => marks, fun _ => trivial⟩
              · exact uses_pollRemembered config now message _ _

/-! ## What a thread holds -/

theorem holds_passOn
    (enabled : config.spoolEnabled = true) (payload : WorkResult) (key : WorkKey) :
    (marking config outside).Holds key (passOn config payload (some key)) := by
  refine .inr ⟨fun learns => learns, some (), ?_⟩
  simp only [enabled, if_true]
  exact .inl rfl

variable {row : WorkKey × ResultRecord}

theorem holds_replayRows
    {rows : List (WorkKey × ResultRecord)} (listed : row ∈ rows)
    (enveloped : row.2.envelope.isNone = false) :
    (marking config outside).Holds row.1 (Program.forEach rows (replayRow config)) := by
  induction rows with
  | nil => cases listed
  | cons first rest ih =>
      unfold Program.forEach replayRow
      rcases List.mem_cons.mp listed with rfl | later
      · rw [enveloped]
        exact .inr ⟨fun learns => learns, some (), .inl rfl⟩
      · have holds := ih later
        split
        · exact holds
        · exact .inr ⟨fun learns => learns, none, .inr ⟨fun learns => learns, none, holds⟩⟩

/-! ## The calls respect the custody -/

/-- A publication that is answered has been made. -/
theorem published_of_answered
    {world after : World} {answer : Unit}
    (performed : execute config outside (.publishResult payload) world = (some answer, after)) :
    payload ∈ after.published ∧ ∀ key, payloadOf key after = payloadOf key world := by
  obtain ⟨_, rfl⟩ := meet_answered outside performed
  exact ⟨List.mem_cons_self, fun _ => rfl⟩

variable {α : Type} {key : WorkKey} {state : World}

/-- A row is marked after its payload has been published. -/
theorem respects_mark
    {next : Option Unit → GatewayProgram α} (known : payloadOf key state = some payload)
    (published : payload ∈ state.published)
    (continued : ∀ reply reached,
      (marking config outside).Undisturbed (.perform (.markResultDelivered key) next) state
        reached →
      (marking config outside).Respects (next reply)
        (execute config outside (.markResultDelivered key) reached).2) :
    (marking config outside).Respects (.perform (.markResultDelivered key) next) state := by
  intro reached undisturbed
  refine ⟨fun found same => ?_, continued _ reached undisturbed⟩
  have held := undisturbed.held key (.inl rfl)
  have equal : some payload = some found := (known.symm.trans held.symm).trans same
  obtain rfl := Option.some.inj equal
  exact undisturbed.grows payload published

theorem respects_passOn
    (enabled : config.spoolEnabled = true) (known : payloadOf key state = some payload) :
    (marking config outside).Respects (passOn config payload (some key)) state := by
  have ends : ∀ reached, (marking config outside).Respects (acknowledge key) reached :=
    Custody.respects_of_uses (uses_acknowledge key) markSound_of_plain
  intro reached undisturbed
  refine ⟨trivial, ?_⟩
  have held := (undisturbed.held key (holds_passOn config outside enabled payload key)).trans known
  rcases performed : execute config outside (.publishResult payload) reached with ⟨reply, after⟩
  have stepped : (marking config outside).execute (.publishResult payload) reached =
      (reply, after) := performed
  rw [stepped]
  cases reply with
  | none => exact ends _
  | some sent =>
      obtain ⟨published, same⟩ := published_of_answered config outside performed
      simp only [enabled, if_true]
      exact respects_mark config outside ((same key).trans held) published
        fun _ _ _ => ends _

/-- Without a place in the spool there is nothing to mark. -/
theorem uses_passOn
    (payload : WorkResult) (key : Option WorkKey)
    (unmarked : key = none ∨ config.spoolEnabled = false) :
    (passOn config payload key).Uses Op.Plain := by
  refine ⟨fun _ marks => marks, fun published => Program.Uses.andThen ?_ fun _ => ?_⟩
  · split
    · rcases unmarked with absent | disabled
      · cases absent
      · rw [disabled]
        trivial
    · trivial
  · split
    · trivial
    · exact uses_acknowledge _

theorem respects_recorded
    {next after : Option Unit → GatewayProgram Unit} (enabled : config.spoolEnabled = true)
    (unrecorded : next none = .done ())
    (recorded : next (some ()) = .perform (.updateInflightState key .terminal none) after)
    (failed : after none = .done ())
    (updated : after (some ()) = passOn config payload (some key)) (status : String)
    (state : World) :
    (marking config outside).Respects (.perform (.recordResult key status payload) next) state := by
  intro reached undisturbed
  refine ⟨trivial, ?_⟩
  rcases performed : execute config outside (.recordResult key status payload) reached
    with ⟨reply, written⟩
  have stepped : (marking config outside).execute (.recordResult key status payload) reached =
      (reply, written) := performed
  rw [stepped]
  cases reply with
  | none =>
      show Custody.Respects _ (next none) _
      rw [unrecorded]
      trivial
  | some answer =>
      have known : payloadOf key written = some payload := by
        obtain ⟨_, rfl⟩ := meet_answered outside performed
        exact congrArg (Option.map ResultRecord.payload)
          ((Dictionary.find?_set _ _ _ _).trans (if_pos rfl))
      show Custody.Respects _ (next (some ())) _
      rw [recorded]
      intro waited still
      refine ⟨trivial, ?_⟩
      have holds : (marking config outside).Holds key
          (.perform (.updateInflightState key .terminal none) after) := by
        refine .inr ⟨fun learns => learns, some (), ?_⟩
        rw [updated]
        exact holds_passOn config outside enabled payload key
      have kept := (execute_payloadOf config outside
        (.updateInflightState key .terminal none) waited key nofun).trans
          ((still.held key holds).trans known)
      rcases performed : execute config outside (.updateInflightState key .terminal none) waited
        with ⟨reply, last⟩
      rw [performed] at kept
      have stepped : (marking config outside).execute (.updateInflightState key .terminal none)
          waited = (reply, last) := performed
      rw [stepped]
      cases reply with
      | none =>
          show Custody.Respects _ (after none) _
          rw [failed]
          trivial
      | some answer =>
          show Custody.Respects _ (after (some ())) _
          rw [updated]
          exact respects_passOn config outside enabled kept

theorem respects_onLocalResult (given : WorkResult) (state : World) :
    (marking config outside).Respects (onLocalResult config given) state := by
  refine Custody.respects_andThen (uses_resolveResultEnvelope config _)
    (fun operation minor => markSound_of_plain operation minor.plain) ?_ state
  intro envelope found
  cases envelope with
  | none => trivial
  | some envelope =>
      dsimp only
      split
      · exact Custody.respects_of_uses (uses_passOn config _ none (.inl rfl)) markSound_of_plain _
      · next key _ =>
        refine Custody.Respects.ite (fun enabled => ?_) fun disabled => ?_
        · exact respects_recorded config outside enabled rfl rfl rfl rfl _ _
        · refine Custody.respects_of_uses (uses_passOn config _ _ (.inr ?_)) markSound_of_plain _
          exact Bool.eq_false_of_not_eq_true disabled

/-- A program after an operation that learns nothing still finds the payloads that it
holds. -/
theorem kept_of_undisturbed
    (operation : Op) {next : Reply operation → GatewayProgram α}
    {program : GatewayProgram α} {state reached : World} (answer : Reply operation)
    (continues : next answer = program) (unlearned : ¬ operation.Learns)
    (undisturbed : (marking config outside).Undisturbed (.perform operation next) state reached)
    (key : WorkKey) (holds : (marking config outside).Holds key program) :
    payloadOf key (execute config outside operation reached).2 = payloadOf key state := by
  have recorded : ∀ status payload, operation ≠ .recordResult key status payload := by
    rintro status payload rfl
    exact unlearned trivial
  rw [execute_payloadOf config outside operation reached key recorded]
  exact undisturbed.held key (.inr ⟨unlearned, answer, continues ▸ holds⟩)

theorem respects_replayRow
    {program : GatewayProgram Unit} (enveloped : row.2.envelope.isNone = false)
    (known : payloadOf row.1 state = some row.2.payload)
    (continued : ∀ reached, (∀ key, (marking config outside).Holds key program →
        payloadOf key reached = payloadOf key state) →
      (marking config outside).Respects program reached) :
    (marking config outside).Respects ((replayRow config row).andThen fun _ => program) state := by
  have failed : ∀ reached, (∀ key, (marking config outside).Holds key program →
        payloadOf key reached = payloadOf key state) →
      (marking config outside).Respects ((quietly (.recordResultDeliveryAttempt row.1
          (nextResultRetryDelay config (row.2.replayAttempts + 1)))).andThen fun _ => program)
        reached := by
    intro reached kept waited undisturbed
    refine ⟨trivial, continued _ fun key holds => ?_⟩
    exact (kept_of_undisturbed config outside (.recordResultDeliveryAttempt _ _) none rfl id
      undisturbed key holds).trans (kept key holds)
  unfold replayRow
  simp only [enveloped, Bool.false_eq_true, if_false]
  intro reached undisturbed
  refine ⟨trivial, ?_⟩
  have kept : ∀ key, (marking config outside).Holds key program →
      payloadOf key (execute config outside (.publishResult row.2.payload) reached).2 =
        payloadOf key state := by
    intro key holds
    have holdsFailed : (marking config outside).Holds key
        ((quietly (.recordResultDeliveryAttempt row.1
          (nextResultRetryDelay config (row.2.replayAttempts + 1)))).andThen fun _ => program) :=
      .inr ⟨id, none, holds⟩
    exact kept_of_undisturbed config outside (.publishResult _) none rfl id undisturbed key
      holdsFailed
  have held := (undisturbed.held row.1 (.inr ⟨id, some (), .inl rfl⟩)).trans known
  rcases performed : execute config outside (.publishResult row.2.payload) reached
    with ⟨reply, after⟩
  rw [performed] at kept
  have stepped : (marking config outside).execute (.publishResult row.2.payload) reached =
      (reply, after) := performed
  rw [stepped]
  cases reply with
  | none => exact failed after kept
  | some sent =>
      obtain ⟨published, same⟩ := published_of_answered config outside performed
      refine respects_mark config outside ((same row.1).trans held) published ?_
      intro reply waited still
      have keptMarked : ∀ key, (marking config outside).Holds key program →
          payloadOf key (execute config outside (.markResultDelivered row.1) waited).2 =
            payloadOf key state :=
        fun key holds => (kept_of_undisturbed config outside (.markResultDelivered _) (some ())
          rfl id still key holds).trans (kept key holds)
      cases reply with
      | none => exact failed _ keptMarked
      | some marked => exact continued _ keptMarked

/-- The rows of a replay hold their payloads until they are marked. -/
theorem respects_replayRows
    (rows : List (WorkKey × ResultRecord)) (state : World)
    (known : ∀ row ∈ rows, row.2.envelope.isNone = false →
      payloadOf row.1 state = some row.2.payload) :
    (marking config outside).Respects (Program.forEach rows (replayRow config)) state := by
  induction rows generalizing state with
  | nil => trivial
  | cons row rest ih =>
      have knownRest := fun other listed => known other (List.mem_cons_of_mem row listed)
      unfold Program.forEach
      cases enveloped : row.2.envelope.isNone with
      | true =>
          unfold replayRow
          rw [if_pos enveloped]
          exact ih state knownRest
      | false =>
          refine respects_replayRow config outside enveloped (known row (by simp) enveloped) ?_
          intro reached kept
          refine ih reached fun other listed otherEnveloped => ?_
          have holds := holds_replayRows config outside listed otherEnveloped
          exact (kept other.1 holds).trans (knownRest other listed otherEnveloped)

theorem payloadOf_of_listed
    {now : Int} {limit : Nat} (listed : row ∈ world.spool.listReplayReadyResults now limit) :
    payloadOf row.1 world = some row.2.payload := by
  have entry := (List.mem_filter.mp
    ((List.mem_insertionSort _).mp (List.mem_of_mem_take listed))).1
  rw [payloadOf, (Dictionary.find?_eq_some_iff _ _ _).mpr entry]
  rfl

theorem respects_program (call : Call) (state : World) :
    (marking config outside).Respects (call.program config) state := by
  cases call with
  | localResult payload => exact respects_onLocalResult config outside payload state
  | localProgress key =>
      exact Custody.respects_of_uses (uses_onLocalProgress key)
        (fun operation minor => markSound_of_plain operation minor.plain) state
  | replay =>
      refine Custody.Respects.ite (fun enabled => ?_) fun disabled => trivial
      intro reached undisturbed
      refine ⟨trivial, ?_⟩
      rcases performed : execute config outside (.listReplayReadyResults 100) reached
        with ⟨reply, after⟩
      have stepped : (marking config outside).execute (.listReplayReadyResults 100) reached =
          (reply, after) := performed
      rw [stepped]
      cases reply with
      | none => trivial
      | some rows =>
          refine respects_replayRows config outside rows after fun row listed _ => ?_
          obtain ⟨rfl, rfl⟩ := meet_answered outside performed
          exact payloadOf_of_listed listed
  | poll messages now =>
      exact Custody.respects_of_uses
        (Program.Uses.forEach fun message _ => uses_pollMessage config now message)
        markSound_of_plain state
  | progress now =>
      exact Custody.respects_of_uses (uses_runProgress config now)
        (fun operation minor => markSound_of_plain operation minor.plain) state

/-! ## Runs -/

variable {action : PoolAction Call} {threads : Threads}

/-- Nothing else changes a payload that another thread holds. -/
theorem apart_of_recordsApart (recordsApart : RecordsApart threads action) :
    (marking config outside).Apart threads action := by
  cases action with
  | start thread call => trivial
  | advance thread =>
      intro operation next running other program key apart others holds
      refine execute_payloadOf config outside operation threads.state key ?_
      rintro status payload rfl
      exact recordsApart key status payload next running other program apart others holds

/-- One action, when the operation marks only what is published. -/
theorem DeliveredPublished.step
    {threads next : Threads} (holds : DeliveredPublished threads.state)
    (sound : (marking config outside).Sound threads action)
    (stepped : threads.step config outside action = some next) :
    DeliveredPublished next.state := by
  rcases Program.Pool.step_cases stepped with
    ⟨thread, call, rfl, -, rfl⟩ | ⟨thread, operation, rest, rfl, present, rfl⟩
  · exact holds
  · exact holds.execute config outside (sound operation rest present)

/-- As long as no result is recorded while another call may still mark an earlier
payload of its key, every result that is marked as delivered has been published as it
stands. -/
theorem deliveredPublished_of_recordsApart
    {world : World} {actions : List (PoolAction Call)} {threads : Threads}
    (start : DeliveredPublished world)
    (recordsApart : Machine.Along (Threads.step config outside) RecordsApart
      (Program.Pool.idle world) actions)
    (ran : Machine.run (Threads.step config outside) (Program.Pool.idle world) actions =
      some threads) :
    DeliveredPublished threads.state := by
  have sound := Custody.sound_of_apart (respects_program config outside) world actions
    (recordsApart.weaken fun _ _ => apart_of_recordsApart config outside)
  have preserves : ∀ (threads : Threads) action (next : Threads),
      DeliveredPublished threads.state → (marking config outside).Sound threads action →
        Threads.step config outside threads action = some next → DeliveredPublished next.state :=
    fun _ _ _ holds sound stepped => holds.step config outside sound stepped
  exact Machine.invariant_of_step preserves start sound ran

/-! ## Two runs -/

def sampleConfig : GatewayConfig where
  siteId := "A"
  nodeId := "gateway-A"
  jsStream := "WORK"
  spoolEnabled := true
  jsEnabled := true
  heartbeatTimeoutS := 60
  progressIntervalS := 10
  ackWaitS := 30
  nakDelayS := 1
  resultRetryMinS := 1
  resultRetryMaxS := 60

def sampleEnvelope : MutationEnvelope := ⟨"controller-1", 1, "op-1"⟩

/-- A result for the work `w-1`. -/
def sampleResult (status : String) : WorkResult where
  workId := some "w-1"
  attempt := some 1
  status := some status
  siteId := none
  nodeId := some "node-1"
  envelope := some sampleEnvelope
  rest := []

/-- Clocks that stand still; the operations of a list are lost. -/
def losing (lost : List Nat) : Outside where
  fate count := if count ∈ lost then .requestLost else .answered
  errorText _ := "timeout"
  clock _ := 0
  monotonic _ := 0

/-- No thread that records a result finds another one of the first threads running. -/
def recordsAlone (count : Nat) (threads : Threads) : PoolAction Call → Bool
  | .start _ _ => true
  | .advance thread =>
      match threads.threads thread with
      | some (.perform (.recordResult _ _ _) _) =>
          (List.range count).all fun other =>
            decide (other = thread) || (threads.threads other).all Program.isFinished
      | _ => true

theorem recordsApart_of_recordsAlone
    {count : Nat} (threads : Threads) (action : PoolAction Call) (idle : threads.IdleFrom count)
    (alone : recordsAlone count threads action = true) : RecordsApart threads action := by
  cases action with
  | start thread call => trivial
  | advance thread =>
      intro key status payload rest running other program apart others may
      simp only [recordsAlone, running] at alone
      rcases Nat.lt_or_ge other count with below | above
      · have finished := List.all_eq_true.mp alone other (List.mem_range.mpr below)
        simp only [apart, decide_false, Bool.false_or, others, Option.all_some] at finished
        cases program with
        | done value => exact may
        | raise => exact may
        | perform operation next => cases finished
      · rw [idle other above] at others
        cases others

def advances (thread count : Nat) : List (PoolAction Call) :=
  List.replicate count (.advance thread)

/-- The publication of a result fails; it is replayed, and then another result of the
same attempt is handled. -/
def replayedInTurn : List (PoolAction Call) :=
  [.start 0 (.localResult (sampleResult "failed"))] ++ advances 0 4 ++
    [.start 1 .replay] ++ advances 1 3 ++
    [.start 2 (.localResult (sampleResult "succeeded"))] ++ advances 2 5

/-- The other result is handled between the publication and the mark of the replay,
and its own publication fails. -/
def replayedAtOnce : List (PoolAction Call) :=
  [.start 0 (.localResult (sampleResult "failed"))] ++ advances 0 4 ++
    [.start 1 .replay] ++ advances 1 2 ++
    [.start 2 (.localResult (sampleResult "succeeded"))] ++ advances 2 2 ++
    advances 1 1 ++ advances 2 2

/-- Nothing is marked in an empty spool. -/
theorem deliveredPublished_initial : DeliveredPublished World.initial :=
  fun _ _ found => nomatch found

theorem deliveredPublished_replayedInTurn :
    ∃ threads, Machine.run (Threads.step sampleConfig (losing [2]))
        (Program.Pool.idle World.initial) replayedInTurn = some threads ∧
      DeliveredPublished threads.state := by
  have ran : (Machine.run (Threads.step sampleConfig (losing [2]))
      (Program.Pool.idle World.initial) replayedInTurn).isSome := by
    decide +kernel
  obtain ⟨threads, ran⟩ := Option.isSome_iff_exists.mp ran
  have alone : Machine.Along (Threads.step sampleConfig (losing [2]))
      (fun threads action => recordsAlone 3 threads action = true)
      (Program.Pool.idle World.initial) replayedInTurn := by
    decide +kernel
  refine ⟨threads, ran, deliveredPublished_of_recordsApart sampleConfig (losing [2])
    deliveredPublished_initial ?_ ran⟩
  exact Program.Pool.along_of_idleFrom recordsApart_of_recordsAlone (fun _ _ => rfl)
    (by decide) alone

/-- All calls have come to an end, and a result that has not been published is marked
as delivered. -/
theorem not_deliveredPublished_replayedAtOnce :
    ∃ threads, Machine.run (Threads.step sampleConfig (losing [2, 9]))
        (Program.Pool.idle World.initial) replayedAtOnce = some threads ∧
      (∀ thread < 3, (threads.threads thread).any Program.isFinished = true) ∧
      ¬ DeliveredPublished threads.state := by
  have ran : (Machine.run (Threads.step sampleConfig (losing [2, 9]))
      (Program.Pool.idle World.initial) replayedAtOnce).isSome := by
    decide +kernel
  obtain ⟨threads, ran⟩ := Option.isSome_iff_exists.mp ran
  have shown : (Machine.run (Threads.step sampleConfig (losing [2, 9]))
      (Program.Pool.idle World.initial) replayedAtOnce).map (fun threads =>
        ((List.range 3).all fun thread => (threads.threads thread).any Program.isFinished,
          (threads.state.spool.results.find? ("w-1", 1)).map fun record =>
            (record.deliveredToControllerAt.isSome,
              decide (record.payload ∈ threads.state.published)))) =
      some (true, some (true, false)) := by
    decide +kernel
  rw [ran, Option.map_some, Option.some.injEq, Prod.mk.injEq] at shown
  obtain ⟨finished, row⟩ := shown
  obtain ⟨record, found, marked⟩ := Option.map_eq_some_iff.mp row
  obtain ⟨delivered, unpublished⟩ := Prod.mk.inj marked
  refine ⟨threads, ran, fun thread below => ?_, fun holds => ?_⟩
  · exact List.all_eq_true.mp finished thread (List.mem_range.mpr below)
  · exact of_decide_eq_false unpublished (holds _ record found delivered)

end Gateway
end K1s
