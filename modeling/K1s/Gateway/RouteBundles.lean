import K1s.Gateway.Service

/-!
# Route bundles

A controller that leads publishes the routes of a site as bundles
(`transport/route_bundle_publisher.py`), each with a revision and a hash.  The gateway of
the site applies a bundle whose revision is above the last one, and acknowledges
(`_on_route_bundle` in `gateway/service.py`).  The publisher records the acknowledgements
of its current revision.

Each controller process counts its revisions from one.  The gateway starts over when the
fence tells it that the epoch has advanced; but the fence is shared with the leases and
the work of the site, and tells it only once.

A bundle is known by its hash: the routes, the policies and the endpoints themselves are
left out.
-/

namespace K1s
namespace Gateway

open Ha (MutationEnvelope FenceStore FenceDecision)

/-! ## Messages -/

/-- A route bundle.  The process that has published it is remembered, but no part of the
message. -/
structure RouteBundle where
  siteId : Option String
  bundleRev : Nat
  hash : String
  envelope : MutationEnvelope
  publisher : Nat
  deriving DecidableEq

/-- An acknowledgement.  The publisher of the bundle and what the gateway had installed
are remembered. -/
structure RouteAck where
  siteId : String
  bundleRev : Nat
  hash : String
  ok : Bool
  error : Option String
  duplicate : Bool
  envelope : MutationEnvelope
  publisher : Nat
  installed : Option RouteBundle
  deriving DecidableEq

/-! ## The publisher -/

structure BundleState where
  rev : Nat
  hash : String
  ackedRev : Nat
  backoffS : Rat
  nextSendAt : Rat
  lastPublishAt : Rat
  operationId : Option String
  controllerId : Option String
  controllerEpoch : Int

def BundleState.initial : BundleState := ⟨0, "", 0, 1, 0, 0, none, none, 0⟩

/-- `ControllerMutationIdentity`: the identity of a leader. -/
structure Identity where
  controllerId : String
  controllerEpoch : Int
  deriving DecidableEq

/-- The settings of the publisher and of the gateway. -/
structure RouteConfig where
  siteId : String
  replayIntervalS : Rat

/-- `_bundle_hash`, for a digest of the payload. -/
def bundleHash (digest : String) : String := "sha256:" ++ digest

def routeOperation (siteId : String) (bundleRev : Nat) (controllerEpoch : Int) : String :=
  "route:" ++ siteId ++ ":" ++ toString bundleRev ++ ":" ++ toString controllerEpoch

def nextBackoff (value : Rat) : Rat :=
  if value < 2 then 2
  else if value < 5 then 5
  else if value < 10 then 10
  else if value < 30 then 30
  else if value < 60 then 60
  else 120

namespace BundleState

variable (config : RouteConfig) (publisher : Nat) (identity : Identity) (state : BundleState)

/-- The payload has been collected: a new hash is a new revision. -/
def collected (hash : String) : BundleState :=
  if hash ≠ state.hash then
    { state with rev := state.rev + 1, hash := hash, backoffS := 1, nextSendAt := 0 }
  else state

/-- The envelope of the bundle that is sent next. -/
def envelope : MutationEnvelope :=
  ⟨identity.controllerId, identity.controllerEpoch,
    routeOperation config.siteId state.rev identity.controllerEpoch⟩

def buildBundle : RouteBundle where
  siteId := some config.siteId
  bundleRev := state.rev
  hash := state.hash
  envelope := state.envelope config identity
  publisher := publisher

/-- The end of `run_once` for a site: the bundle goes out, or the call raises. -/
def publish (now : Rat) (fate : Fate) : BundleState × Option RouteBundle :=
  let published := decide (fate = .answered)
  let named :=
    { state with
      operationId := some (state.envelope config identity).operationId
      controllerId := some identity.controllerId
      controllerEpoch := identity.controllerEpoch }
  let sent := if published then { named with lastPublishAt := now } else named
  let scheduled :=
    if state.rev ≤ state.ackedRev ∧ published then
      { sent with backoffS := 1, nextSendAt := now + config.replayIntervalS }
    else
      { sent with
        backoffS := nextBackoff sent.backoffS
        nextSendAt := now + nextBackoff sent.backoffS }
  (scheduled, if fate = .requestLost then none else some (state.buildBundle config publisher identity))

/-- `run_once` for a site. -/
def runOnce (hash : String) (now : Rat) (fate : Fate) : BundleState × Option RouteBundle :=
  let current := state.collected hash
  let acked := current.rev ≤ current.ackedRev
  if now < current.nextSendAt then (current, none)
  else
    let replayDue := acked ∧ 0 < config.replayIntervalS ∧ 0 < current.lastPublishAt ∧
      config.replayIntervalS ≤ now - current.lastPublishAt
    if acked ∧ ¬ replayDue then (current, none)
    else current.publish config publisher identity now fate

/-- `_route_ack_matches_state`. -/
def routeAckMatches (ack : RouteAck) : Bool :=
  decide (ack.bundleRev = state.rev) &&
    decide (some ack.envelope.operationId = state.operationId) &&
    decide (some ack.envelope.controllerId = state.controllerId) &&
    decide (ack.envelope.controllerEpoch = state.controllerEpoch)

/-- `_on_ack` comes to the fields. -/
def records (ack : RouteAck) : Bool :=
  state.operationId.any (· ≠ "") && state.controllerId.any (· ≠ "") && ack.ok &&
    state.routeAckMatches ack

def onAck (ack : RouteAck) : BundleState :=
  if state.records ack then
    if state.ackedRev < ack.bundleRev then
      { state with ackedRev := ack.bundleRev, backoffS := 1, nextSendAt := 0 }
    else if ack.bundleRev = state.ackedRev then { state with backoffS := 1, nextSendAt := 0 }
    else state
  else state

def onTransportReconnect : BundleState :=
  if state.rev ≤ state.ackedRev then state else { state with backoffS := 1, nextSendAt := 0 }

end BundleState

/-- A controller process: the identity under which it leads, and its state of the site. -/
structure Publisher where
  identity : Option Identity
  state : Option BundleState

/-! ## The gateway -/

/-- `_route_bundle_rev` and `_route_bundle_hash`, and the bundle that was applied last. -/
structure RouteState where
  rev : Nat
  hash : Option String
  installed : Option RouteBundle

/-- The epoch has advanced. -/
def RouteState.reset (state : RouteState) (decision : FenceDecision) : RouteState :=
  if decision.epochAdvanced then { state with rev := 0, hash := none } else state

/-- `apply_bundle`, with what it returns; without a renderer nothing can fail. -/
def RouteState.applyBundle
    (state : RouteState) (bundle : RouteBundle)
    (outcome : Bool × Option String) : RouteState × Bool × Option String :=
  if outcome.1 then (⟨bundle.bundleRev, some bundle.hash, some bundle⟩, outcome)
  else (state, outcome)

/-- `_on_route_bundle` after the fence has answered: the fields, `ok` and `error`. -/
def RouteState.onRouteBundle
    (given : RouteState) (bundle : RouteBundle) (decision : FenceDecision)
    (outcome : Bool × Option String) : RouteState × Bool × Option String :=
  let state := given.reset decision
  if decision.status = .duplicate then
    if state.rev < bundle.bundleRev ∨
        (bundle.bundleRev = state.rev ∧ state.hash ≠ some bundle.hash) then
      state.applyBundle bundle outcome
    else (state, true, none)
  else if bundle.bundleRev < state.rev then (state, true, none)
  else if bundle.bundleRev = state.rev then
    if state.hash.any fun hash => hash ≠ "" ∧ bundle.hash ≠ hash then
      (state, false, some "hash_mismatch")
    else (state, true, none)
  else state.applyBundle bundle outcome

/-! ## The system -/

/-- The controller processes, the authority, the messages that were sent and the
gateway.  A message that was sent may arrive at any time, any number of times, or never. -/
structure RouteWorld where
  publishers : Nat → Publisher
  lastEpoch : Int
  leaderOf : Int → Option Nat
  sent : List RouteBundle
  acks : List RouteAck
  fence : FenceStore
  route : RouteState
  /-- The bundle that is being handled, with the answer of the fence. -/
  handling : Option (RouteBundle × FenceDecision)

/-- Nothing has happened. -/
def RouteWorld.initial : RouteWorld where
  publishers := fun _ => ⟨none, none⟩
  lastEpoch := 0
  leaderOf := fun _ => none
  sent := []
  acks := []
  fence := .empty
  route := ⟨0, none, none⟩
  handling := none

/-- What may happen. -/
inductive RouteAction
  /-- A process becomes the leader of a new epoch. -/
  | lead (publisher : Nat) (identity : Identity)
  /-- A process finds that it does not lead. -/
  | resign (publisher : Nat)
  | runOnce (publisher : Nat) (digest : String) (now : Rat) (fate : Fate)
  | onAck (publisher : Nat) (ack : RouteAck)
  | onTransportReconnect (publisher : Nat)
  /-- A lease or a work message comes to `begin`. -/
  | otherBegin (envelope : MutationEnvelope) (now : String)
  /-- A lease or a work message comes to `commit`. -/
  | otherCommit (envelope : MutationEnvelope) (now : String)
  /-- A bundle arrives and comes to `begin`. -/
  | receive (bundle : RouteBundle) (now : String)
  /-- The bundle that has come to `begin` is handled and acknowledged, unless the
  `commit` raises. -/
  | answer (outcome : Bool × Option String) (now : String) (commits : Bool)
  /-- The gateway is started again. -/
  | restart
  deriving DecidableEq

/-- `self._fence_scope`. -/
def RouteConfig.fenceScope (config : RouteConfig) : String := "site:" ++ config.siteId

namespace RouteWorld

variable (config : RouteConfig) (world : RouteWorld)

/-- The fields of one process change. -/
def setPublisher (publisher : Nat) (changed : Publisher) : RouteWorld :=
  { world with publishers := Function.update world.publishers publisher changed }

/-- The state of the site, for a process that has one. -/
def changeState (publisher : Nat) (change : BundleState → BundleState) : RouteWorld :=
  let before := world.publishers publisher
  world.setPublisher publisher { before with state := before.state.map change }

/-- `run_once` of a process: nothing without the lead. -/
def runOnce (publisher : Nat) (digest : String) (now : Rat) (fate : Fate) : RouteWorld :=
  let before := world.publishers publisher
  match before.identity with
  | none => world
  | some identity =>
      let (state, bundle) := (before.state.getD .initial).runOnce config publisher identity
        (bundleHash digest) now fate
      { world.setPublisher publisher { before with state := some state } with
        sent := bundle.toList ++ world.sent }

def ackOf
    (bundle : RouteBundle) (decision : FenceDecision)
    (handled : RouteState × Bool × Option String) : RouteAck where
  siteId := config.siteId
  bundleRev := bundle.bundleRev
  hash := bundle.hash
  ok := handled.2.1
  error := handled.2.2
  duplicate := decide (decision.status = .duplicate)
  envelope := bundle.envelope
  publisher := bundle.publisher
  installed := handled.1.installed

/-- A bundle is handled: the gateway applies it or not, commits and acknowledges. -/
def answer
    (bundle : RouteBundle) (decision : FenceDecision) (outcome : Bool × Option String)
    (now : String)
    (commits : Bool) : RouteWorld :=
  let handled := world.route.onRouteBundle bundle decision outcome
  let acked := ackOf config bundle decision handled :: world.acks
  if handled.2.1 ∧ decision.status ≠ .duplicate then
    if commits then
      { world with
        route := handled.1
        fence := world.fence.commit config.fenceScope bundle.envelope now
        acks := acked
        handling := none }
    else { world with route := handled.1, handling := none }
  else { world with route := handled.1, acks := acked, handling := none }

/-- A bundle arrives: it is dropped if it is stale or of another site. -/
def receive (bundle : RouteBundle) (now : String) : RouteWorld :=
  match world.fence.begin config.fenceScope bundle.envelope now with
  | none => world
  | some (decision, fence) =>
      if decision.status = .stale ∨
          (bundle.siteId.filter (· ≠ "")).getD config.siteId ≠ config.siteId then
        { world with fence := fence }
      else { world with fence := fence, handling := some (bundle, decision) }

def step : RouteAction → Option RouteWorld
  | .lead publisher identity =>
      if identity.controllerId ≠ "" ∧ world.lastEpoch < identity.controllerEpoch then
        some { world.setPublisher publisher
            { world.publishers publisher with identity := some identity } with
          lastEpoch := identity.controllerEpoch
          leaderOf := Function.update world.leaderOf identity.controllerEpoch (some publisher) }
      else none
  | .resign publisher =>
      some (world.setPublisher publisher { world.publishers publisher with identity := none })
  | .runOnce publisher digest now fate => some (world.runOnce config publisher digest now fate)
  | .onAck publisher ack =>
      if ack ∈ world.acks then some (world.changeState publisher fun state => state.onAck ack)
      else none
  | .onTransportReconnect publisher =>
      some (world.changeState publisher BundleState.onTransportReconnect)
  | .otherBegin envelope now =>
      (world.fence.begin config.fenceScope envelope now).map fun begun =>
        { world with fence := begun.2 }
  | .otherCommit envelope now =>
      some { world with fence := world.fence.commit config.fenceScope envelope now }
  | .receive bundle now =>
      if bundle ∈ world.sent ∧ world.handling = none then some (world.receive config bundle now)
      else none
  | .answer outcome now commits =>
      world.handling.map fun handling =>
        world.answer config handling.1 handling.2 outcome now commits
  | .restart =>
      some { world with route := { world.route with rev := 0, hash := none }, handling := none }

end RouteWorld

end Gateway
end K1s
