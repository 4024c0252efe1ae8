import K1s.Gateway.RouteBundles

/-!
# Agreement on route bundles

When the gateway acknowledges a bundle as ok, what it has installed has the hash of the
bundle or is a later bundle of the same publisher; and when a publisher records an
acknowledgement of its current revision, the gateway runs its current bundle.

Both hold as long as the revision of a bundle that is not applied is compared with a
revision of its own publisher, and an acknowledgement arrives before the gateway runs
another bundle.  A lease or a work message that is the first of a new epoch breaks the
former.
-/

namespace K1s
namespace Gateway

open Ha (MutationEnvelope FenceStore FenceDecision)

/-! ## The property and the condition -/

/-- What is installed has the hash of the acknowledged bundle or is a later bundle of its
publisher. -/
def RouteAck.Covered (ack : RouteAck) (installed : Option RouteBundle) : Prop :=
  ∃ bundle, installed = some bundle ∧ (bundle.hash = ack.hash ∨
      bundle.publisher = ack.publisher ∧ ack.bundleRev ≤ bundle.bundleRev)

instance RouteAck.Covered.decidable (ack : RouteAck) (installed : Option RouteBundle) :
    Decidable (ack.Covered installed) :=
  match installed with
  | none => isFalse fun ⟨_, found, _⟩ => nomatch found
  | some bundle =>
      decidable_of_iff (bundle.hash = ack.hash ∨
        bundle.publisher = ack.publisher ∧ ack.bundleRev ≤ bundle.bundleRev)
        ⟨fun covered => ⟨bundle, rfl, covered⟩,
          fun ⟨_, found, covered⟩ => Option.some.inj found ▸ covered⟩

variable (config : RouteConfig)

/-- A bundle that is acknowledged as ok is covered, and an acknowledgement is recorded
only while the gateway runs the current bundle of the publisher. -/
def Agrees (world : RouteWorld) : RouteAction → Prop
  | .answer outcome _ commits =>
      ∀ bundle decision, world.handling = some (bundle, decision) →
        (decision.status ≠ .duplicate → commits = true) →
        let handled := world.route.onRouteBundle bundle decision outcome
        handled.2.1 = true →
          (RouteWorld.ackOf config bundle decision handled).Covered handled.1.installed
  | .onAck publisher ack =>
      ack ∈ world.acks →
        ∀ state, (world.publishers publisher).state = some state → state.records ack = true →
          world.route.installed.map RouteBundle.hash = some state.hash
  | _ => True

/-- A bundle whose revision is below that of the gateway, with no advance of the epoch, is
of the publisher of the installed bundle or has its hash; and an acknowledgement is
recorded while the gateway runs what it ran when it sent it. -/
def ComparesOwn (world : RouteWorld) : RouteAction → Prop
  | .answer _ _ commits =>
      ∀ bundle decision, world.handling = some (bundle, decision) →
        (decision.status ≠ .duplicate → commits = true) →
        decision.epochAdvanced = false → bundle.bundleRev < world.route.rev →
          ∃ installed, world.route.installed = some installed ∧
            (installed.hash = bundle.hash ∨ installed.publisher = bundle.publisher)
  | .onAck publisher ack =>
      ack ∈ world.acks →
        ∀ state, (world.publishers publisher).state = some state → state.records ack = true →
          world.route.installed.map RouteBundle.hash = ack.installed.map RouteBundle.hash
  | _ => True

/-! ## What is kept -/

/-- What a process has published: its revisions up to the current one, under epochs that
it has led. -/
structure Published (world : RouteWorld) (bundle : RouteBundle) : Prop where
  led : world.leaderOf bundle.envelope.controllerEpoch = some bundle.publisher
  named : bundle.hash ≠ ""
  positive : 0 < bundle.bundleRev
  current : ∃ state, (world.publishers bundle.publisher).state = some state ∧
    bundle.bundleRev ≤ state.rev ∧ (bundle.bundleRev = state.rev → bundle.hash = state.hash)

/-- The invariant of the system. -/
structure Orderly (world : RouteWorld) : Prop where
  bounded : ∀ epoch publisher, world.leaderOf epoch = some publisher → epoch ≤ world.lastEpoch
  leads : ∀ publisher identity, (world.publishers publisher).identity = some identity →
    world.leaderOf identity.controllerEpoch = some publisher
  names : ∀ publisher state, (world.publishers publisher).state = some state →
    state.operationId.isSome → world.leaderOf state.controllerEpoch = some publisher
  counts : ∀ publisher state, (world.publishers publisher).state = some state →
    state.hash ≠ "" → 0 < state.rev
  sent : ∀ bundle ∈ world.sent, Published world bundle
  handling : ∀ bundle decision, world.handling = some (bundle, decision) → Published world bundle
  installed : ∀ bundle, world.route.installed = some bundle → Published world bundle
  route : world.route.rev = 0 ∧ world.route.hash = none ∨
    ∃ bundle, world.route.installed = some bundle ∧ world.route.rev = bundle.bundleRev ∧
      world.route.hash = some bundle.hash
  acks : ∀ ack ∈ world.acks, ack.ok = true → ack.Covered ack.installed ∧
      (∃ bundle, Published world bundle ∧ ack.publisher = bundle.publisher ∧
        ack.bundleRev = bundle.bundleRev ∧ ack.hash = bundle.hash ∧
        ack.envelope = bundle.envelope) ∧
      ∀ bundle, ack.installed = some bundle → Published world bundle

/-! ## The publisher -/

variable {ack : RouteAck}

namespace BundleState

variable (publisher : Nat) (identity : Identity) (state : BundleState)

theorem collected_hash (hash : String) : (state.collected hash).hash = hash := by
  unfold collected
  split
  · rfl
  · next same => exact (not_not.mp same).symm

/-- A new hash is a new revision. -/
theorem collected_rev (hash : String) :
    state.rev ≤ (state.collected hash).rev ∧
      (state.rev = (state.collected hash).rev → state.hash = (state.collected hash).hash) := by
  unfold collected
  split
  · exact ⟨Nat.le_succ _, fun same => absurd same (Nat.lt_succ_self _).ne⟩
  · exact ⟨Nat.le_refl _, fun _ => rfl⟩

/-- What `run_once` leaves in the state, and what it sends. -/
structure RunOnce (hash : String) (after : BundleState) (bundle : Option RouteBundle) : Prop where
  rev : after.rev = (state.collected hash).rev
  hash : after.hash = hash
  names : after.operationId = state.operationId ∧ after.controllerEpoch = state.controllerEpoch ∨
    after.controllerEpoch = identity.controllerEpoch
  sent : ∀ found, bundle = some found →
    found.bundleRev = after.rev ∧ found.hash = after.hash ∧ found.publisher = publisher ∧
      found.envelope.controllerEpoch = identity.controllerEpoch

theorem publish_fields (now : Rat) (fate : Fate) :
    (state.publish config publisher identity now fate).1.rev = state.rev ∧
      (state.publish config publisher identity now fate).1.hash = state.hash ∧
      (state.publish config publisher identity now fate).1.controllerEpoch =
        identity.controllerEpoch := by
  dsimp only [publish]
  split <;> split <;> exact ⟨rfl, rfl, rfl⟩

theorem runOnce_spec (hash : String) (now : Rat) (fate : Fate) :
    RunOnce publisher identity state hash (state.runOnce config publisher identity hash now fate).1
      (state.runOnce config publisher identity hash now fate).2 := by
  have quiet : RunOnce publisher identity state hash (state.collected hash) none := by
    refine ⟨rfl, state.collected_hash hash, .inl ?_, nofun⟩
    unfold collected
    split <;> exact ⟨rfl, rfl⟩
  unfold runOnce
  dsimp only
  split
  · exact quiet
  · split
    · exact quiet
    · obtain ⟨rev, kept, epoch⟩ :=
        publish_fields config publisher identity (state.collected hash) now fate
      refine ⟨rev, kept.trans (state.collected_hash hash), .inr epoch, fun found sent => ?_⟩
      rw [rev, kept]
      dsimp only [publish] at sent
      split at sent
      · cases sent
      · obtain rfl := Option.some.inj sent
        exact ⟨rfl, rfl, rfl, rfl⟩

/-- Acknowledgements and reconnections leave the revision, the hash and the names of the
last operation alone. -/
structure SameBundle (after : BundleState) : Prop where
  rev : after.rev = state.rev
  hash : after.hash = state.hash
  operationId : after.operationId = state.operationId
  controllerEpoch : after.controllerEpoch = state.controllerEpoch

theorem sameBundle_onAck (ack : RouteAck) : state.SameBundle (state.onAck ack) := by
  unfold onAck
  split
  · split
    · exact ⟨rfl, rfl, rfl, rfl⟩
    · split <;> exact ⟨rfl, rfl, rfl, rfl⟩
  · exact ⟨rfl, rfl, rfl, rfl⟩

theorem sameBundle_onTransportReconnect : state.SameBundle state.onTransportReconnect := by
  unfold onTransportReconnect
  split <;> exact ⟨rfl, rfl, rfl, rfl⟩

theorem records_spec {state : BundleState} (records : state.records ack = true) :
    ack.ok = true ∧ ack.bundleRev = state.rev ∧ state.operationId.isSome ∧
      ack.envelope.controllerEpoch = state.controllerEpoch := by
  simp only [BundleState.records, routeAckMatches, Bool.and_eq_true, decide_eq_true_eq] at records
  obtain ⟨⟨⟨named, -⟩, ok⟩, ⟨⟨rev, -⟩, -⟩, epoch⟩ := records
  refine ⟨ok, rev, ?_, epoch⟩
  cases operationId : state.operationId with
  | none => simp [operationId] at named
  | some name => rfl

end BundleState

/-! ## The gateway -/

/-- A bundle is applied, or the fields are as they were, and then an acknowledgement is
ok only if the revision is not above that of the gateway. -/
theorem onRouteBundle_cases
    (given : RouteState) (bundle : RouteBundle) (decision : FenceDecision)
    (outcome : Bool × Option String) :
    let handled := given.onRouteBundle bundle decision outcome
    handled.1 = ⟨bundle.bundleRev, some bundle.hash, some bundle⟩ ∨
      handled.1 = given.reset decision ∧ (handled.2.1 = true →
          bundle.bundleRev < (given.reset decision).rev ∨
            bundle.bundleRev = (given.reset decision).rev ∧
              ∀ hash, (given.reset decision).hash = some hash → hash = "" ∨ hash = bundle.hash) := by
  generalize stateIs : given.reset decision = state
  have applied :
      (state.applyBundle bundle outcome).1 = ⟨bundle.bundleRev, some bundle.hash, some bundle⟩ ∨
        (state.applyBundle bundle outcome).1 = state ∧
          ((state.applyBundle bundle outcome).2.1 = true → bundle.bundleRev < state.rev ∨
              bundle.bundleRev = state.rev ∧
                ∀ hash, state.hash = some hash → hash = "" ∨ hash = bundle.hash) := by
    unfold RouteState.applyBundle
    split
    · exact .inl rfl
    · next failed => exact .inr ⟨rfl, fun ok => absurd ok failed⟩
  unfold RouteState.onRouteBundle
  simp only [stateIs]
  split
  · split
    · exact applied
    · next old =>
        refine .inr ⟨rfl, fun _ => ?_⟩
        rw [not_or, not_lt, not_and, not_not] at old
        rcases Nat.lt_or_eq_of_le old.1 with below | same
        · exact .inl below
        · refine .inr ⟨same, fun hash found => .inr ?_⟩
          exact Option.some.inj (found.symm.trans (old.2 same))
  · split
    · next below => exact .inr ⟨rfl, fun _ => .inl below⟩
    · split
      · next same =>
          split
          · exact .inr ⟨rfl, nofun⟩
          · next equal =>
              refine .inr ⟨rfl, fun _ => .inr ⟨same, fun hash found => ?_⟩⟩
              by_contra neither
              rw [not_or] at neither
              refine equal ?_
              rw [found, Option.any_some]
              exact decide_eq_true ⟨neither.1, Ne.symm neither.2⟩
      · exact applied

variable {decision : FenceDecision} {bundle : RouteBundle}

/-- A bundle below the revision of the gateway is acknowledged as ok and not applied. -/
theorem onRouteBundle_of_lt
    {given : RouteState} (outcome : Bool × Option String)
    (same : decision.epochAdvanced = false) (below : bundle.bundleRev < given.rev) :
    given.onRouteBundle bundle decision outcome = (given, true, none) := by
  have unchanged : given.reset decision = given := by
    rw [RouteState.reset, same]
    rfl
  unfold RouteState.onRouteBundle
  simp only [unchanged]
  split
  · refine if_neg ?_
    rintro (above | ⟨equal, -⟩)
    · exact absurd above (Nat.lt_asymm below)
    · exact absurd equal below.ne
  · rfl

/-! ## The two conditions at one step -/

variable {world : RouteWorld}

theorem Orderly.installed_of_le
    (orderly : Orderly world) (positive : 0 < bundle.bundleRev)
    (notAbove : bundle.bundleRev ≤ (world.route.reset decision).rev) :
    decision.epochAdvanced = false ∧ ∃ installed, world.route.installed = some installed ∧
        world.route.rev = installed.bundleRev ∧ world.route.hash = some installed.hash := by
  have kept : decision.epochAdvanced = false := by
    by_contra advanced
    rw [RouteState.reset, if_pos (by simpa using advanced)] at notAbove
    exact absurd positive (Nat.not_lt.mpr notAbove)
  refine ⟨kept, ?_⟩
  rcases orderly.route with ⟨zero, -⟩ | found
  · rw [RouteState.reset, kept, if_neg Bool.false_ne_true, zero] at notAbove
    exact absurd positive (Nat.not_lt.mpr notAbove)
  · exact found

/-- What is acknowledged as ok is covered exactly if the revisions that are compared are
of one publisher, or the hashes are the same. -/
theorem agrees_answer_iff
    (orderly : Orderly world) (outcome : Bool × Option String) (now : String) (commits : Bool) :
    Agrees config world (.answer outcome now commits) ↔
      ComparesOwn world (.answer outcome now commits) := by
  refine forall_congr' fun bundle => forall_congr' fun decision =>
    forall_congr' fun handling => forall_congr' fun _ => ?_
  have published := orderly.handling bundle decision handling
  constructor
  · intro covered same below
    have handled := onRouteBundle_of_lt outcome same below
    rw [handled] at covered
    obtain ⟨installed, found, kept⟩ := covered rfl
    exact ⟨installed, found, kept.imp id And.left⟩
  · intro compares handled ok
    rcases onRouteBundle_cases world.route bundle decision outcome with applied | ⟨kept, notAbove⟩
    · exact ⟨bundle, congrArg RouteState.installed applied, .inl rfl⟩
    · have unchanged : handled.1.installed = world.route.installed := by
        refine (congrArg RouteState.installed kept).trans ?_
        unfold RouteState.reset
        split <;> rfl
      rw [unchanged]
      rcases notAbove ok with below | ⟨same, hashes⟩
      · obtain ⟨notAdvanced, installed, found, rev, -⟩ :=
          orderly.installed_of_le published.positive below.le
        have resets : world.route.reset decision = world.route := by
          rw [RouteState.reset, notAdvanced]
          rfl
        rw [resets] at below
        obtain ⟨other, foundAgain, agrees⟩ := compares notAdvanced below
        obtain rfl := Option.some.inj (found.symm.trans foundAgain)
        refine ⟨installed, found, agrees.imp id fun own => ⟨own, ?_⟩⟩
        exact (rev ▸ below).le
      · obtain ⟨notAdvanced, installed, found, -, hash⟩ :=
          orderly.installed_of_le published.positive same.le
        have resets : world.route.reset decision = world.route := by
          rw [RouteState.reset, notAdvanced]
          rfl
        rw [resets] at hashes
        refine ⟨installed, found, .inl ?_⟩
        rcases hashes _ hash with empty | equal
        · exact absurd empty (orderly.installed installed found).named
        · exact equal

/-- What was installed when the acknowledgement of a current revision was sent is the
current bundle. -/
theorem Orderly.installed_of_records
    {publisher : Nat} {state : BundleState} (orderly : Orderly world)
    (listed : ack ∈ world.acks) (present : (world.publishers publisher).state = some state)
    (records : state.records ack = true) :
    ack.installed.map RouteBundle.hash = some state.hash := by
  obtain ⟨ok, rev, named, epoch⟩ := BundleState.records_spec records
  obtain ⟨covered, ⟨bundle, published, owner, bundleRev, hash, envelope⟩, installedPublished⟩ :=
    orderly.acks ack listed ok
  have led := orderly.names publisher state present named
  have own : publisher = bundle.publisher := by
    rw [← epoch, envelope, published.led] at led
    exact (Option.some.inj led).symm
  subst own
  obtain ⟨installed, found, agrees⟩ := covered
  rw [found, Option.map_some, Option.some.injEq]
  rcases agrees with sameHash | ⟨sameOwner, notBelow⟩
  · obtain ⟨other, there, -, current⟩ := published.current
    obtain rfl := Option.some.inj (present.symm.trans there)
    rw [sameHash, hash]
    exact current (bundleRev.symm.trans rev)
  · obtain ⟨other, there, upTo, current⟩ := (installedPublished installed found).current
    rw [sameOwner, owner] at there
    obtain rfl := Option.some.inj (present.symm.trans there)
    exact current (Nat.le_antisymm upTo (rev ▸ notBelow))

theorem agrees_iff_comparesOwn
    (orderly : Orderly world)
    (action : RouteAction) : Agrees config world action ↔ ComparesOwn world action := by
  cases action with
  | answer outcome now commits => exact agrees_answer_iff config orderly outcome now commits
  | onAck publisher ack =>
      refine forall_congr' fun listed => forall_congr' fun state => forall_congr' fun present =>
        forall_congr' fun records => ?_
      rw [orderly.installed_of_records listed present records]
  | _ => exact Iff.rfl

/-! ## One step -/

/-- Leaders stay recorded, and the revisions grow. -/
structure Later (world next : RouteWorld) : Prop where
  led : ∀ epoch publisher, world.leaderOf epoch = some publisher →
    next.leaderOf epoch = some publisher
  state : ∀ publisher state, (world.publishers publisher).state = some state →
    ∃ after, (next.publishers publisher).state = some after ∧ state.rev ≤ after.rev ∧
      (state.rev = after.rev → state.hash = after.hash)

variable {next : RouteWorld}

theorem Published.later
    (published : Published world bundle)
    (later : Later world next) : Published next bundle := by
  obtain ⟨state, present, upTo, current⟩ := published.current
  obtain ⟨after, stays, grows, same⟩ := later.state _ state present
  refine ⟨later.led _ _ published.led, published.named, published.positive,
    after, stays, upTo.trans grows, fun equal => ?_⟩
  have unchanged : state.rev = after.rev := Nat.le_antisymm grows (equal ▸ upTo)
  exact (current (equal.trans unchanged.symm)).trans (same unchanged)

/-- A step of the gateway. -/
theorem Later.of_same
    (leaderOf : next.leaderOf = world.leaderOf)
    (publishers : next.publishers = world.publishers) : Later world next := by
  refine ⟨fun epoch publisher led => leaderOf ▸ led, fun publisher state present => ?_⟩
  exact ⟨state, publishers ▸ present, Nat.le_refl _, fun _ => rfl⟩

/-- What the invariant says of an acknowledgement. -/
def AckKept (world : RouteWorld) (ack : RouteAck) : Prop :=
  ack.ok = true → ack.Covered ack.installed ∧
      (∃ bundle, Published world bundle ∧ ack.publisher = bundle.publisher ∧
        ack.bundleRev = bundle.bundleRev ∧ ack.hash = bundle.hash ∧
        ack.envelope = bundle.envelope) ∧
      ∀ bundle, ack.installed = some bundle → Published world bundle

theorem AckKept.later
    (kept : AckKept world ack)
    (later : Later world next) : AckKept next ack := by
  intro ok
  obtain ⟨covered, ⟨bundle, published, fields⟩, installed⟩ := kept ok
  exact ⟨covered, ⟨bundle, published.later later, fields⟩,
    fun other found => (installed other found).later later⟩

theorem Orderly.of_controllers
    (orderly : Orderly world) (later : Later world next)
    (bounded : ∀ epoch publisher, next.leaderOf epoch = some publisher → epoch ≤ next.lastEpoch)
    (leads : ∀ publisher identity, (next.publishers publisher).identity = some identity →
      next.leaderOf identity.controllerEpoch = some publisher)
    (names : ∀ publisher state, (next.publishers publisher).state = some state →
      state.operationId.isSome → next.leaderOf state.controllerEpoch = some publisher)
    (counts : ∀ publisher state, (next.publishers publisher).state = some state →
      state.hash ≠ "" → 0 < state.rev)
    (sent : ∀ bundle ∈ next.sent, Published next bundle)
    (handling : next.handling = world.handling)
    (route : next.route = world.route)
    (acks : next.acks = world.acks) : Orderly next := by
  refine ⟨bounded, leads, names, counts, sent, fun bundle decision found => ?_,
    fun bundle found => ?_, ?_, fun ack listed => ?_⟩
  · exact (orderly.handling bundle decision (handling ▸ found)).later later
  · exact (orderly.installed bundle (route ▸ found)).later later
  · rw [route]
    exact orderly.route
  · exact AckKept.later (orderly.acks ack (acks ▸ listed)) later

theorem Orderly.of_gateway
    (orderly : Orderly world) (leaderOf : next.leaderOf = world.leaderOf)
    (publishers : next.publishers = world.publishers)
    (lastEpoch : next.lastEpoch = world.lastEpoch) (sent : next.sent = world.sent)
    (handling : ∀ bundle decision, next.handling = some (bundle, decision) →
      Published world bundle)
    (installed : ∀ bundle, next.route.installed = some bundle → Published world bundle)
    (route : next.route.rev = 0 ∧ next.route.hash = none ∨
      ∃ bundle, next.route.installed = some bundle ∧ next.route.rev = bundle.bundleRev ∧
        next.route.hash = some bundle.hash)
    (acks : ∀ ack ∈ next.acks, AckKept world ack) : Orderly next := by
  have later := Later.of_same leaderOf publishers
  refine ⟨?_, ?_, ?_, ?_, fun bundle listed => ?_, fun bundle decision found => ?_,
    fun bundle found => ?_, route, fun ack listed => (acks ack listed).later later⟩
  · rw [leaderOf, lastEpoch]
    exact orderly.bounded
  · rw [leaderOf, publishers]
    exact orderly.leads
  · rw [leaderOf, publishers]
    exact orderly.names
  · rw [publishers]
    exact orderly.counts
  · exact (orderly.sent bundle (sent ▸ listed)).later later
  · exact (handling bundle decision found).later later
  · exact (installed bundle found).later later

/-- The state of one process. -/
theorem setPublisher_cases
    {publisher other : Nat} {changed found : Publisher}
    (present : (world.setPublisher publisher changed).publishers other = found) :
    other = publisher ∧ found = changed ∨ other ≠ publisher ∧ found = world.publishers other := by
  unfold RouteWorld.setPublisher at present
  by_cases same : other = publisher
  · subst same
    exact .inl ⟨rfl, present.symm.trans (Function.update_self ..)⟩
  · exact .inr ⟨same, present.symm.trans (Function.update_of_ne same ..)⟩

/-- A change of a process that leaves the bundle of its state alone. -/
theorem Orderly.changeState
    (orderly : Orderly world) (publisher : Nat) {change : BundleState → BundleState}
    (same : ∀ state : BundleState, state.SameBundle (change state)) :
    Orderly (world.changeState publisher change) := by
  have states : ∀ other after,
      ((world.changeState publisher change).publishers other).state = some after →
        ∃ state, (world.publishers other).state = some state ∧ state.SameBundle after := by
    intro other after present
    rcases setPublisher_cases (rfl : (world.changeState publisher change).publishers other = _)
      with ⟨rfl, changed⟩ | ⟨-, unchanged⟩
    · rw [changed] at present
      obtain ⟨state, before, rfl⟩ := Option.map_eq_some_iff.mp present
      exact ⟨state, before, same state⟩
    · rw [unchanged] at present
      exact ⟨after, present, rfl, rfl, rfl, rfl⟩
  have later : Later world (world.changeState publisher change) := by
    refine ⟨fun _ _ led => led, fun other state present => ?_⟩
    rcases setPublisher_cases (rfl : (world.changeState publisher change).publishers other = _)
      with ⟨rfl, changed⟩ | ⟨-, unchanged⟩
    · refine ⟨change state, ?_, (same state).rev.ge, fun _ => (same state).hash.symm⟩
      rw [changed]
      exact congrArg (Option.map change) present
    · exact ⟨state, unchanged ▸ present, Nat.le_refl _, fun _ => rfl⟩
  refine orderly.of_controllers later orderly.bounded (fun other identity found => ?_)
    (fun other after present named => ?_) (fun other after present hash => ?_)
    (fun bundle listed => (orderly.sent bundle listed).later later) rfl rfl rfl
  · rcases setPublisher_cases (rfl : (world.changeState publisher change).publishers other = _)
      with ⟨rfl, changed⟩ | ⟨-, unchanged⟩
    · exact orderly.leads other identity (by rw [changed] at found; exact found)
    · exact orderly.leads other identity (unchanged ▸ found)
  · obtain ⟨state, before, kept⟩ := states other after present
    rw [kept.controllerEpoch]
    exact orderly.names other state before (kept.operationId ▸ named)
  · obtain ⟨state, before, kept⟩ := states other after present
    rw [kept.rev]
    exact orderly.counts other state before (kept.hash ▸ hash)

/-- A process takes the lead of a new epoch. -/
theorem Orderly.lead
    (orderly : Orderly world) (publisher : Nat) {identity : Identity}
    (newer : world.lastEpoch < identity.controllerEpoch) :
    Orderly { world.setPublisher publisher
        { world.publishers publisher with identity := some identity } with
      lastEpoch := identity.controllerEpoch
      leaderOf := Function.update world.leaderOf identity.controllerEpoch (some publisher) } := by
  have led : ∀ epoch leader, world.leaderOf epoch = some leader →
      Function.update world.leaderOf identity.controllerEpoch (some publisher) epoch =
        some leader := by
    intro epoch leader before
    have old := orderly.bounded epoch leader before
    rw [Function.update_of_ne (old.trans_lt newer).ne]
    exact before
  have states : ∀ other, ((world.setPublisher publisher
      { world.publishers publisher with identity := some identity }).publishers other).state =
        (world.publishers other).state := by
    intro other
    rcases setPublisher_cases (rfl : (world.setPublisher publisher
      { world.publishers publisher with identity := some identity }).publishers other = _)
      with ⟨rfl, changed⟩ | ⟨-, unchanged⟩
    · rw [changed]
    · rw [unchanged]
  have later : Later world { world.setPublisher publisher
        { world.publishers publisher with identity := some identity } with
      lastEpoch := identity.controllerEpoch
      leaderOf := Function.update world.leaderOf identity.controllerEpoch (some publisher) } :=
    ⟨led, fun other state present =>
      ⟨state, (states other).trans present, Nat.le_refl _, fun _ => rfl⟩⟩
  refine orderly.of_controllers later (fun epoch leader found => ?_)
    (fun other identified found => ?_) (fun other state present named => ?_)
    (fun other state present => ?_) (fun bundle listed => (orderly.sent bundle listed).later later)
    rfl rfl rfl
  · by_cases same : epoch = identity.controllerEpoch
    · exact same.le
    · have before : world.leaderOf epoch = some leader :=
        (Function.update_of_ne same _ _).symm.trans found
      exact (orderly.bounded epoch leader before).trans newer.le
  · rcases setPublisher_cases (rfl : (world.setPublisher publisher
      { world.publishers publisher with identity := some identity }).publishers other = _)
      with ⟨rfl, changed⟩ | ⟨-, unchanged⟩
    · obtain rfl : identity = identified := by
        have found : some identity = some identified := by
          rw [← found]
          exact (congrArg Publisher.identity changed).symm
        exact Option.some.inj found
      exact Function.update_self ..
    · refine led _ _ (orderly.leads other identified ?_)
      rw [← found]
      exact (congrArg Publisher.identity unchanged).symm
  · exact led _ _ (orderly.names other state ((states other).symm.trans present) named)
  · exact orderly.counts other state ((states other).symm.trans present)

theorem Orderly.resign (orderly : Orderly world) (publisher : Nat) :
    Orderly (world.setPublisher publisher
      { world.publishers publisher with identity := none }) := by
  have fields : ∀ other, ((world.setPublisher publisher
        { world.publishers publisher with identity := none }).publishers other).state =
          (world.publishers other).state ∧
        ∀ identity, ((world.setPublisher publisher
          { world.publishers publisher with identity := none }).publishers other).identity =
            some identity → (world.publishers other).identity = some identity := by
    intro other
    rcases setPublisher_cases (rfl : (world.setPublisher publisher
      { world.publishers publisher with identity := none }).publishers other = _)
      with ⟨rfl, changed⟩ | ⟨-, unchanged⟩
    · rw [changed]
      exact ⟨rfl, nofun⟩
    · rw [unchanged]
      exact ⟨rfl, fun _ found => found⟩
  have later : Later world (world.setPublisher publisher
      { world.publishers publisher with identity := none }) :=
    ⟨fun _ _ led => led, fun other state present =>
      ⟨state, (fields other).1.trans present, Nat.le_refl _, fun _ => rfl⟩⟩
  refine orderly.of_controllers later orderly.bounded (fun other identity found => ?_)
    (fun other state present => ?_) (fun other state present => ?_)
    (fun bundle listed => (orderly.sent bundle listed).later later) rfl rfl rfl
  · exact orderly.leads other identity ((fields other).2 identity found)
  · exact orderly.names other state ((fields other).1.symm.trans present)
  · exact orderly.counts other state ((fields other).1.symm.trans present)

theorem bundleHash_ne_empty (digest : String) : bundleHash digest ≠ "" := by
  unfold bundleHash
  intro empty
  have length := congrArg String.length empty
  rw [String.length_append] at length
  exact absurd length (by simp)

theorem collected_positive
    {state : BundleState} {hash : String} (named : hash ≠ "")
    (counts : state.hash ≠ "" → 0 < state.rev) : 0 < (state.collected hash).rev := by
  unfold BundleState.collected
  split
  · exact Nat.succ_pos _
  · next same => exact counts (not_not.mp same ▸ named)

/-- A process has a new state of the site, and sends its bundle or does not. -/
theorem Orderly.published
    (orderly : Orderly world) {publisher : Nat} {identity : Identity} {digest : String}
    {after : BundleState} {bundle : Option RouteBundle}
    (leads : (world.publishers publisher).identity = some identity)
    (ran : BundleState.RunOnce publisher identity
      ((world.publishers publisher).state.getD .initial) (bundleHash digest) after bundle) :
    Orderly { world.setPublisher publisher
        { world.publishers publisher with state := some after } with
      sent := bundle.toList ++ world.sent } := by
  have led := orderly.leads publisher identity leads
  have named : after.hash ≠ "" := ran.hash ▸ bundleHash_ne_empty digest
  have counts : 0 < after.rev := by
    rw [ran.rev]
    refine collected_positive (bundleHash_ne_empty digest) fun hash => ?_
    cases present : (world.publishers publisher).state with
    | none => rw [present] at hash; exact absurd rfl hash
    | some state => rw [present] at hash; exact orderly.counts publisher state present hash
  have fields : ∀ other found, ((world.setPublisher publisher
        { world.publishers publisher with state := some after }).publishers other) = found →
          found.identity = (world.publishers other).identity ∧
            (other = publisher ∧ found.state = some after ∨
              found.state = (world.publishers other).state) := by
    intro other found present
    rcases setPublisher_cases present with ⟨rfl, rfl⟩ | ⟨-, rfl⟩
    · exact ⟨rfl, .inl ⟨rfl, rfl⟩⟩
    · exact ⟨rfl, .inr rfl⟩
  have own : ((world.setPublisher publisher
      { world.publishers publisher with state := some after }).publishers publisher).state =
        some after := by
    simp [RouteWorld.setPublisher]
  have later : Later world { world.setPublisher publisher
        { world.publishers publisher with state := some after } with
      sent := bundle.toList ++ world.sent } := by
    refine ⟨fun _ _ led => led, fun other state present => ?_⟩
    rcases (fields other _ rfl).2 with ⟨rfl, changed⟩ | unchanged
    · refine ⟨after, changed, ?_⟩
      have grows := state.collected_rev (bundleHash digest)
      have rev := ran.rev
      rw [present, Option.getD_some] at rev
      rw [state.collected_hash] at grows
      rw [rev, ran.hash]
      exact grows
    · exact ⟨state, unchanged.trans present, Nat.le_refl _, fun _ => rfl⟩
  refine orderly.of_controllers later orderly.bounded (fun other identified found => ?_)
    (fun other state present operation => ?_) (fun other state present hash => ?_)
    (fun sent listed => ?_) rfl rfl rfl
  · exact orderly.leads other identified ((fields other _ rfl).1.symm.trans found)
  · rcases (fields other _ rfl).2 with ⟨rfl, changed⟩ | unchanged
    · obtain rfl := Option.some.inj (changed.symm.trans present)
      rcases ran.names with ⟨sameOperation, sameEpoch⟩ | epoch
      · cases before : (world.publishers other).state with
        | none =>
            rw [before] at sameOperation
            rw [sameOperation] at operation
            cases operation
        | some state =>
            rw [before, Option.getD_some] at sameOperation sameEpoch
            rw [sameEpoch]
            exact orderly.names other state before (sameOperation ▸ operation)
      · rw [epoch]
        exact led
    · exact orderly.names other state (unchanged.symm.trans present) operation
  · rcases (fields other _ rfl).2 with ⟨rfl, changed⟩ | unchanged
    · obtain rfl := Option.some.inj (changed.symm.trans present)
      exact counts
    · exact orderly.counts other state (unchanged.symm.trans present) hash
  · rcases List.mem_append.mp listed with new | old
    · obtain ⟨rev, hash, owner, epoch⟩ := ran.sent sent (Option.mem_toList.mp new)
      refine ⟨?_, hash ▸ named, rev ▸ counts, after, ?_, rev.le, fun _ => hash⟩
      · rw [epoch, owner]
        exact led
      · rw [owner]
        exact own
    · exact (orderly.sent sent old).later later

theorem Orderly.runOnce
    (orderly : Orderly world) (publisher : Nat) (digest : String) (now : Rat)
    (fate : Fate) : Orderly (world.runOnce config publisher digest now fate) := by
  unfold RouteWorld.runOnce
  dsimp only
  split
  · exact orderly
  · next identity leads => exact orderly.published leads (BundleState.runOnce_spec ..)

/-! ## Steps of the gateway -/

theorem Orderly.receive
    (orderly : Orderly world) (listed : bundle ∈ world.sent)
    (now : String) : Orderly (world.receive config bundle now) := by
  have waits : ∀ found decision, world.handling = some (found, decision) → Published world found :=
    orderly.handling
  unfold RouteWorld.receive
  split
  · exact orderly
  · split
    · exact orderly.of_gateway rfl rfl rfl rfl waits orderly.installed orderly.route orderly.acks
    · refine orderly.of_gateway rfl rfl rfl rfl (fun found decision same => ?_) orderly.installed
        orderly.route orderly.acks
      obtain ⟨rfl, -⟩ := Prod.mk.inj (Option.some.inj same)
      exact orderly.sent _ listed

/-- The fields after a bundle has been handled. -/
theorem Orderly.route_answer
    (orderly : Orderly world) (published : Published world bundle)
    (decision : FenceDecision) (outcome : Bool × Option String) :
    let route := (world.route.onRouteBundle bundle decision outcome).1
    (∀ installed, route.installed = some installed → Published world installed) ∧
      (route.rev = 0 ∧ route.hash = none ∨
        ∃ installed, route.installed = some installed ∧ route.rev = installed.bundleRev ∧
          route.hash = some installed.hash) := by
  rcases onRouteBundle_cases world.route bundle decision outcome with applied | ⟨kept, -⟩
  · rw [applied]
    refine ⟨fun installed found => ?_, .inr ⟨bundle, rfl, rfl, rfl⟩⟩
    obtain rfl := Option.some.inj found
    exact published
  · rw [kept]
    unfold RouteState.reset
    split
    · exact ⟨orderly.installed, .inl ⟨rfl, rfl⟩⟩
    · exact ⟨orderly.installed, orderly.route⟩

theorem Orderly.answer
    (orderly : Orderly world) (handling : world.handling = some (bundle, decision))
    {outcome : Bool × Option String} {now : String} {commits : Bool}
    (agrees : Agrees config world (.answer outcome now commits)) :
    Orderly (world.answer config bundle decision outcome now commits) := by
  have published := orderly.handling bundle decision handling
  obtain ⟨installed, route⟩ := orderly.route_answer published decision outcome
  have covered := agrees bundle decision handling
  have acked : (decision.status ≠ .duplicate → commits = true) →
      ∀ ack ∈ RouteWorld.ackOf config bundle decision
          (world.route.onRouteBundle bundle decision outcome) :: world.acks, AckKept world ack := by
    intro sent ack listed
    rcases List.mem_cons.mp listed with rfl | before
    · exact fun ok => ⟨covered sent ok, ⟨bundle, published, rfl, rfl, rfl, rfl⟩, installed⟩
    · exact orderly.acks ack before
  unfold RouteWorld.answer
  dsimp only
  split
  · next committing =>
      split
      · next commits =>
          exact orderly.of_gateway rfl rfl rfl rfl nofun installed route (acked fun _ => commits)
      · exact orderly.of_gateway rfl rfl rfl rfl nofun installed route orderly.acks
  · next uncommitted =>
      refine orderly.of_gateway rfl rfl rfl rfl nofun installed route fun ack listed => ?_
      rcases List.mem_cons.mp listed with rfl | before
      · intro ok
        refine acked (fun accepted => ?_) _ List.mem_cons_self ok
        exact absurd ⟨ok, accepted⟩ uncommitted
      · exact orderly.acks ack before

theorem Orderly.step
    {action : RouteAction} (orderly : Orderly world) (agrees : Agrees config world action)
    (stepped : world.step config action = some next) : Orderly next := by
  cases action with
  | lead publisher identity =>
      obtain ⟨⟨-, newer⟩, same⟩ := Option.ite_none_right_eq_some.mp stepped
      obtain rfl := Option.some.inj same
      exact orderly.lead publisher newer
  | resign publisher =>
      obtain rfl := Option.some.inj stepped
      exact orderly.resign publisher
  | runOnce publisher digest now fate =>
      obtain rfl := Option.some.inj stepped
      exact orderly.runOnce config publisher digest now fate
  | onAck publisher ack =>
      obtain ⟨-, same⟩ := Option.ite_none_right_eq_some.mp stepped
      obtain rfl := Option.some.inj same
      exact orderly.changeState publisher fun state => state.sameBundle_onAck ack
  | onTransportReconnect publisher =>
      obtain rfl := Option.some.inj stepped
      exact orderly.changeState publisher BundleState.sameBundle_onTransportReconnect
  | otherBegin envelope now =>
      obtain ⟨begun, -, rfl⟩ := Option.map_eq_some_iff.mp stepped
      exact orderly.of_gateway rfl rfl rfl rfl orderly.handling orderly.installed orderly.route
        orderly.acks
  | otherCommit envelope now =>
      obtain rfl := Option.some.inj stepped
      exact orderly.of_gateway rfl rfl rfl rfl orderly.handling orderly.installed orderly.route
        orderly.acks
  | receive bundle now =>
      obtain ⟨⟨listed, -⟩, same⟩ := Option.ite_none_right_eq_some.mp stepped
      obtain rfl := Option.some.inj same
      exact orderly.receive config listed now
  | answer outcome now commits =>
      obtain ⟨⟨bundle, decision⟩, handling, rfl⟩ := Option.map_eq_some_iff.mp stepped
      exact orderly.answer config handling agrees
  | restart =>
      obtain rfl := Option.some.inj stepped
      exact orderly.of_gateway rfl rfl rfl rfl nofun orderly.installed (.inl ⟨rfl, rfl⟩)
        orderly.acks

theorem orderly_initial : Orderly .initial := by
  refine ⟨nofun, nofun, nofun, nofun, nofun, nofun, nofun, .inl ⟨rfl, rfl⟩, nofun⟩

/-! ## Runs -/

/-- Along every run, all acknowledgements are covered and recorded while the gateway runs
the current bundle exactly if the revisions that are compared are of one publisher or the
hashes are the same, and acknowledgements are recorded while the gateway runs what it ran
when it sent them. -/
theorem agrees_along_iff (actions : List RouteAction) :
    Machine.Along (RouteWorld.step config) (Agrees config) .initial actions ↔
      Machine.Along (RouteWorld.step config) ComparesOwn .initial actions := by
  have initial := orderly_initial
  generalize RouteWorld.initial = world at initial
  induction actions generalizing world with
  | nil => exact Iff.rfl
  | cons action rest ih =>
      have here := agrees_iff_comparesOwn config initial action
      constructor
      · rintro ⟨agrees, later⟩
        refine ⟨here.mp agrees, fun next stepped => ?_⟩
        exact (ih next (initial.step config agrees stepped)).mp
          (later next stepped)
      · rintro ⟨compares, later⟩
        have agrees := here.mpr compares
        refine ⟨agrees, fun next stepped => ?_⟩
        exact (ih next (initial.step config agrees stepped)).mpr
          (later next stepped)

/-! ## A lease between two leaders -/

def sampleRoutes : RouteConfig := ⟨"A", 30⟩

def sampleBundle (publisher : Nat) (controllerId : String) (epoch : Int) (rev : Nat)
    (digest : String) : RouteBundle where
  siteId := some "A"
  bundleRev := rev
  hash := bundleHash digest
  envelope := ⟨controllerId, epoch, routeOperation "A" rev epoch⟩
  publisher := publisher

/-- The gateway has applied the second revision of the first leader.  The second leader
grants it a lease, and then publishes its first revision. -/
def leaseBetween : List RouteAction :=
  [.lead 0 ⟨"first", 1⟩, .runOnce 0 "d-1" 0 .answered, .runOnce 0 "d-2" 5 .answered,
    .receive (sampleBundle 0 "first" 1 2 "d-2") "t-1", .answer (true, none) "t-2" true,
    .lead 1 ⟨"second", 2⟩, .otherBegin ⟨"second", 2, "lease-1"⟩ "t-3",
    .otherCommit ⟨"second", 2, "lease-1"⟩ "t-4", .runOnce 1 "d-3" 10 .answered,
    .receive (sampleBundle 1 "second" 2 1 "d-3") "t-5", .answer (true, none) "t-6" true]

/-- `Agrees` for the bundle that is handled. -/
def agreesTest (world : RouteWorld) : RouteAction → Bool
  | .answer outcome _ commits =>
      world.handling.all fun handling =>
        let handled := world.route.onRouteBundle handling.1 handling.2 outcome
        decide ((handling.2.status ≠ .duplicate → commits = true) → handled.2.1 = true →
          (RouteWorld.ackOf config handling.1 handling.2 handled).Covered handled.1.installed)
  | _ => true

theorem agreesTest_of_agrees
    (world : RouteWorld) (action : RouteAction)
    (agrees : Agrees config world action) : agreesTest config world action = true := by
  cases action with
  | answer outcome now commits =>
      cases handling : world.handling with
      | none => simp [agreesTest, handling]
      | some found =>
          simp only [agreesTest, handling, Option.all_some, decide_eq_true_eq]
          exact agrees found.1 found.2 handling
  | _ => rfl

/-- The first revision of the second leader is acknowledged as ok, and the gateway runs
the bundle of the first. -/
theorem not_agrees_leaseBetween :
    (Machine.run (RouteWorld.step sampleRoutes) .initial leaseBetween).isSome ∧
      ¬ Machine.Along (RouteWorld.step sampleRoutes) (Agrees sampleRoutes) .initial
        leaseBetween := by
  refine ⟨by decide +kernel, fun along => ?_⟩
  have tested := along.weaken (agreesTest_of_agrees sampleRoutes)
  revert tested
  decide +kernel

end Gateway
end K1s
