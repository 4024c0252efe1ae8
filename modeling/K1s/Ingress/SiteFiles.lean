import K1s.Ingress.Caddy
import K1s.Lib.Machine

/-!
# Site files and reloads

`IngressService` in `ingress/service.py` renders the site of an app only when a signature
of its host, readiness path and upstreams has changed, and asks Caddy to reload when a
file has changed.  The signature leaves out the paths, the TLS files and the weight; it is
recorded also when the write has failed, and stays when the site is removed.  The flag
that asks for a reload is cleared also when the reload fails.
-/

namespace K1s
namespace Ingress

open Py

/-! ## Manifests and weights -/

/-- `rollout.auto`. -/
structure CanaryAuto where
  start : Option Rat
  step : Option Rat
  intervalSeconds : Option Rat
  max : Option Rat
  deriving DecidableEq

/-- What is read of `rollout`. -/
structure Rollout where
  strategy : Option String
  weight : Option Int
  auto : Option CanaryAuto
  deriving DecidableEq

/-- What is read of a manifest, with the key of its app.  The readiness path is present if
there is an HTTP probe. -/
structure SiteManifest where
  app : String
  ingress : Option IngressSpec
  readinessProbe : Option String
  rollout : Rollout
  deriving DecidableEq

/-- The weight of an app and the time of its next step, or of its last step if there is no
store. -/
structure CanaryState where
  weight : Rat
  at_ : Rat
  deriving DecidableEq

/-- `int` of a number. -/
def truncate (value : Rat) : Int := if 0 ≤ value then value.floor else value.ceil

/-- The weight that a rollout gives to the first upstream, and the state of the canary
after it. -/
def canaryWeight
    (hasStore : Bool) (rollout : Rollout) (state : Option CanaryState)
    (now : Rat) : Int × Option CanaryState :=
  let canary := decide (lower (rollout.strategy.getD "parallel") = "canary")
  let weight := if canary then rollout.weight.getD 1 else 1
  match canary, rollout.auto with
  | true, some auto =>
      let step := auto.step.getD 1
      let interval := auto.intervalSeconds.getD 60
      let maximum := auto.max.getD (max weight 10 : Int)
      let start := auto.start.getD weight
      if hasStore then
        match state with
        | none => (truncate (max weight start), some ⟨start, now + interval⟩)
        | some row =>
            let effective := max start row.weight
            if interval ≤ 0 ∨ row.at_ ≤ now then
              let stepped := min maximum (effective + step)
              (truncate (max weight stepped), some ⟨stepped, now + interval⟩)
            else (truncate (max weight effective), some row)
      else
        let row := state.getD ⟨start, now⟩
        if interval ≤ 0 ∨ interval ≤ now - row.at_ then
          let stepped := min maximum (row.weight + step)
          (truncate (max weight stepped), some ⟨stepped, now⟩)
        else (truncate (max weight row.weight), state)
  | _, _ => (weight, state)

/-! ## The service -/

/-- The settings. -/
structure ServiceConfig where
  caddy : CaddyConfig
  hasStore : Bool
  reloadDelay : Rat

/-- The files, the fields of the service, and the canaries.  Remembered are the input of
the last `apply` that has written the file of an app or found it as it should be, while
the file stays as it is, and whether a file has changed since the last successful
reload. -/
structure IngressWorld where
  sites : Sites
  lastSig : Dictionary String String
  dirty : Bool
  /-- The reload timer is running. -/
  timer : Bool
  canary : Dictionary String CanaryState
  placed : Dictionary String SiteInput
  unloaded : Bool

/-- A service that has just been started, on files that Caddy has loaded. -/
def IngressWorld.initial (sites : Sites) (canary : Dictionary String CanaryState) :
    IngressWorld :=
  ⟨sites, Dictionary.empty, false, false, canary, Dictionary.empty, false⟩

def SiteManifest.readinessPath (manifest : SiteManifest) : Option String :=
  manifest.readinessProbe.map fun path => if path = "" then "/" else path

/-- The ingress with the TLS files of its secret, if the resolver finds them. -/
def IngressSpec.resolve (ingress : IngressSpec) (tls : Option (String × String)) : IngressSpec :=
  if present ingress.tlsSecretName ∧ ¬ present ingress.tlsCertPath ∧
      ¬ present ingress.tlsKeyPath then
    match tls with
    | some (cert, key) => { ingress with tlsCertPath := some cert, tlsKeyPath := some key }
    | none => ingress
  else ingress

def signature (ingress : IngressSpec) (readinessPath : Option String) (upstreams : List String) :
    String :=
  ingress.host ++ "|" ++ readinessPath.getD "None" ++ "|" ++ reprTuple upstreams

/-- What happens. -/
inductive IngressAction
  /-- `apply`, with what the resolver of TLS secrets finds and the time. -/
  | apply (manifest : SiteManifest) (upstreams : List String) (tls : Option (String × String))
      (now : Rat) (outcome : FileOutcome)
  /-- `remove`; `unlink` may raise. -/
  | remove (app : String) (unlinks : Bool)
  /-- `reload`, and whether the reload of Caddy succeeds if it comes to one. -/
  | reload (succeeds : Bool)
  /-- The timer calls `_do_reload`. -/
  | timerFires (succeeds : Bool)

namespace IngressWorld

variable (config : ServiceConfig) (world : IngressWorld)

def weightOf (manifest : SiteManifest) (now : Rat) : Int × Option CanaryState :=
  canaryWeight config.hasStore manifest.rollout (world.canary.find? manifest.app) now

/-- What the site of a manifest is rendered from. -/
def inputOf
    (manifest : SiteManifest) (ingress : IngressSpec) (upstreams : List String)
    (now : Rat) : SiteInput where
  ingress := ingress
  upstreams := upstreams
  readinessPath := manifest.readinessPath
  firstWeight := (world.weightOf config manifest now).1

/-- `apply` when the signature has changed. -/
def render
    (manifest : SiteManifest) (ingress : IngressSpec) (upstreams : List String) (now : Rat)
    (outcome : FileOutcome) : IngressWorld :=
  let input := world.inputOf config manifest ingress upstreams now
  let applied := applySite config.caddy world.sites manifest.app input outcome
  let placedKept := world.placed.keep fun name =>
    !movedAway world.sites ingress.host manifest.app outcome name
  { sites := applied.1
    lastSig := world.lastSig.set manifest.app (signature ingress manifest.readinessPath upstreams)
    dirty := world.dirty || applied.2 = some true
    timer := world.timer
    canary :=
      match (world.weightOf config manifest now).2 with
      | none => world.canary
      | some state => world.canary.set manifest.app state
    placed :=
      if applied.2.isSome then placedKept.set manifest.app input
      else if applied.1.find? manifest.app = world.sites.find? manifest.app then placedKept
      else placedKept.drop manifest.app
    unloaded := world.unloaded || applied.1.entries ≠ world.sites.entries }

def apply
    (manifest : SiteManifest) (upstreams : List String) (tls : Option (String × String))
    (now : Rat)
    (outcome : FileOutcome) : IngressWorld :=
  match manifest.ingress with
  | none => world
  | some given =>
      let ingress := given.resolve tls
      if world.lastSig.find? manifest.app =
          some (signature ingress manifest.readinessPath upstreams) then
        world
      else world.render config manifest ingress upstreams now outcome

def remove (app : String) (unlinks : Bool) : IngressWorld :=
  if (world.sites.find? app).isSome ∧ unlinks then
    { world with
      sites := world.sites.drop app
      dirty := true
      placed := world.placed.drop app
      unloaded := true }
  else world

def doReload (succeeds : Bool) : IngressWorld :=
  if world.dirty then
    { world with dirty := false, timer := false, unloaded := world.unloaded && !succeeds }
  else world

def step : IngressAction → Option IngressWorld
  | .apply manifest upstreams tls now outcome =>
      some (world.apply config manifest upstreams tls now outcome)
  | .remove app unlinks => some (world.remove app unlinks)
  | .reload succeeds =>
      if world.dirty then
        if 0 < config.reloadDelay then some { world with timer := true }
        else some (world.doReload succeeds)
      else some world
  | .timerFires succeeds =>
      if world.timer then some { world.doReload succeeds with timer := false } else none

end IngressWorld

/-! ## The property and the condition -/

variable (config : ServiceConfig)

/-- What an `apply` comes to: the ingress with its TLS files, its signature, and what an
unconditional `apply` would write. -/
structure Applied where
  ingress : IngressSpec
  sig : String
  input : SiteInput

/-- An `apply` of a manifest with an ingress. -/
def IngressWorld.applied
    (world : IngressWorld) (manifest : SiteManifest) (given : IngressSpec)
    (upstreams : List String) (tls : Option (String × String))
    (now : Rat) : Applied where
  ingress := given.resolve tls
  sig := signature (given.resolve tls) manifest.readinessPath upstreams
  input := world.inputOf config manifest (given.resolve tls) upstreams now

/-- The signature of the app is the recorded one. -/
def IngressWorld.Skips (world : IngressWorld) (app : String) (applied : Applied) : Prop :=
  world.lastSig.find? app = some applied.sig

instance IngressWorld.Skips.decidable (world : IngressWorld) (app : String) (applied : Applied) :
    Decidable (world.Skips app applied) :=
  inferInstanceAs (Decidable (world.lastSig.find? app = some applied.sig))

def IngressWorld.Moves
    (world : IngressWorld) (app : String) (applied : Applied)
    (outcome : FileOutcome) : Prop :=
  (world.sites.entries.map Prod.fst).any
    (movedAway world.sites applied.ingress.host app outcome) = true

/-- After an `apply` whose write does not fail the file of the app is what an unconditional
one would write. -/
def Renders (world : IngressWorld) : IngressAction → Prop
  | .apply manifest upstreams tls now outcome =>
      ∀ given, manifest.ingress = some given →
        let applied := world.applied config manifest given upstreams tls now
        world.Skips manifest.app applied ∨
            (applySite config.caddy world.sites manifest.app applied.input outcome).2.isSome →
          (world.apply config manifest upstreams tls now outcome).sites.find? manifest.app =
            some (renderSite config.caddy applied.input)
  | _ => True

/-- While the flag is clear, no file has changed since the last successful reload. -/
def Loaded (world : IngressWorld) : Prop := world.dirty = false → world.unloaded = false

/-- The files are as an unconditional render leaves them, and the flag tells when they have
to be loaded. -/
def Faithful (world : IngressWorld) (action : IngressAction) : Prop :=
  Renders config world action ∧ ∀ next, world.step config action = some next → Loaded next

/-- The files are changed with care.

An `apply` that finds its signature recorded renders the same text as the last one that has
written the file or found it as it should be, and the file is still there.  While the flag
is clear, no file of another app is moved away unless the own file is written, and a write
that fails leaves the file as it was.  A reload that is due succeeds. -/
def Careful (world : IngressWorld) : IngressAction → Prop
  | .apply manifest upstreams tls now outcome =>
      ∀ given, manifest.ingress = some given →
        let applied := world.applied config manifest given upstreams tls now
        let text := renderSite config.caddy applied.input
        if world.Skips manifest.app applied then
          (world.placed.find? manifest.app).map (renderSite config.caddy) = some text
        else
          world.dirty = false → (∀ left, outcome ≠ .writeFails (some left)) ∧
              (world.Moves manifest.app applied outcome →
                moveRaises world.sites applied.ingress.host manifest.app outcome = false ∧
                  outcome ≠ .writeFails none ∧ world.sites.find? manifest.app ≠ some text)
  | .remove _ _ => True
  | .reload succeeds => world.dirty = true → config.reloadDelay ≤ 0 → succeeds = true
  | .timerFires succeeds => world.dirty = true → succeeds = true

/-! ## The files after an `apply` -/

theorem movedAway_self
    (sites : Sites) (host keep : String)
    (outcome : FileOutcome) : movedAway sites host keep outcome keep = false := by
  unfold movedAway isDuplicate
  rw [decide_eq_false (not_not.mpr rfl : ¬ keep ≠ keep), Bool.false_and, Bool.false_and,
    Bool.false_and]

/-- The files that are not moved away. -/
def Sites.staying (sites : Sites) (host keep : String) (outcome : FileOutcome) : Sites :=
  sites.keep fun name => !movedAway sites host keep outcome name

theorem Sites.find?_staying
    (sites : Sites) (host keep : String) (outcome : FileOutcome) (name : String) :
    (sites.staying host keep outcome).find? name =
      if movedAway sites host keep outcome name then none else sites.find? name := by
  rw [staying, Dictionary.find?_keep]
  cases movedAway sites host keep outcome name <;> rfl

/-- What an `apply` of the manager does. -/
inductive ApplySite (sites : Sites) (app : String) (input : SiteInput) (outcome : FileOutcome) :
    Sites × Option Bool → Prop
  | raises (fails : moveRaises sites input.ingress.host app outcome = true) :
      ApplySite sites app input outcome (sites.staying input.ingress.host app outcome, none)
  | unchanged
      (found : (sites.staying input.ingress.host app outcome).find? app =
        some (renderSite config.caddy input)) :
      ApplySite sites app input outcome (sites.staying input.ingress.host app outcome, some false)
  | refused (same : outcome = .writeFails none) :
      ApplySite sites app input outcome (sites.staying input.ingress.host app outcome, none)
  | torn (left : String) (same : outcome = .writeFails (some left)) :
      ApplySite sites app input outcome
        ((sites.staying input.ingress.host app outcome).set app left, none)
  | written :
      ApplySite sites app input outcome
        ((sites.staying input.ingress.host app outcome).set app (renderSite config.caddy input),
          some true)

theorem applySite_spec
    (sites : Sites) (app : String) (input : SiteInput) (outcome : FileOutcome) :
    ApplySite config sites app input outcome (applySite config.caddy sites app input outcome) := by
  unfold applySite
  dsimp only
  split
  · next fails => exact .raises fails
  · split
    · next found => exact .unchanged found
    · cases outcome with
      | works => exact .written
      | moveFails moved => exact .written
      | writeFails left =>
          cases left with
          | none => exact .refused rfl
          | some left => exact .torn left rfl

variable {outcome : FileOutcome} {sites : Sites}

/-- If nothing is moved away, all files stay. -/
theorem Sites.staying_of_none_moved
    {host keep : String}
    (none_ : (sites.entries.map Prod.fst).any (movedAway sites host keep outcome) = false) :
    (sites.staying host keep outcome).entries = sites.entries := by
  refine List.filter_eq_self.mpr fun entry listed => ?_
  rw [List.any_eq_false] at none_
  have stays := none_ entry.1 (List.mem_map_of_mem listed)
  rw [Bool.not_eq_true] at stays
  exact (congrArg Bool.not stays : _)

theorem Sites.find?_staying_self
    (sites : Sites) (host app : String) (outcome : FileOutcome) :
    (sites.staying host app outcome).find? app = sites.find? app := by
  rw [Sites.find?_staying, movedAway_self]
  rfl

variable {input : SiteInput} {app : String}

/-- An `apply` of the manager that does not raise leaves the file as it is rendered. -/
theorem applySite_find?_self
    (works : (applySite config.caddy sites app input outcome).2.isSome) :
    (applySite config.caddy sites app input outcome).1.find? app =
      some (renderSite config.caddy input) := by
  have spec := applySite_spec config sites app input outcome
  generalize applySite config.caddy sites app input outcome = result at spec works ⊢
  cases spec with
  | raises fails => cases works
  | unchanged found => exact found
  | refused same => cases works
  | torn left same => cases works
  | written => exact (Dictionary.find?_set _ _ _ _).trans (if_pos rfl)

/-- The files of other apps stay or are moved away. -/
theorem applySite_find?_of_ne
    (sites : Sites) {app other : String} (apart : app ≠ other) (input : SiteInput)
    (outcome : FileOutcome) :
    (applySite config.caddy sites app input outcome).1.find? other =
      (sites.staying input.ingress.host app outcome).find? other := by
  have spec := applySite_spec config sites app input outcome
  generalize applySite config.caddy sites app input outcome = result at spec ⊢
  cases spec with
  | raises fails => rfl
  | unchanged found => rfl
  | refused same => rfl
  | torn left same => exact (Dictionary.find?_set _ _ _ _).trans (if_neg apart)
  | written => exact (Dictionary.find?_set _ _ _ _).trans (if_neg apart)

/-- With care, an `apply` of the manager that reports no change leaves all files as they
are. -/
theorem applySite_entries
    (whole : ∀ left, outcome ≠ .writeFails (some left))
    (moves : (sites.entries.map Prod.fst).any (movedAway sites input.ingress.host app outcome) =
        true →
      moveRaises sites input.ingress.host app outcome = false ∧
        outcome ≠ .writeFails none ∧ sites.find? app ≠ some (renderSite config.caddy input))
    (unreported : (applySite config.caddy sites app input outcome).2 ≠ some true) :
    (applySite config.caddy sites app input outcome).1.entries = sites.entries := by
  have spec := applySite_spec config sites app input outcome
  generalize applySite config.caddy sites app input outcome = result at spec unreported ⊢
  cases moved : (sites.entries.map Prod.fst).any
    (movedAway sites input.ingress.host app outcome) with
  | false =>
      have stays := Sites.staying_of_none_moved moved
      cases spec with
      | raises fails => exact stays
      | unchanged found => exact stays
      | refused same => exact stays
      | torn left same => exact absurd same (whole left)
      | written => exact absurd rfl unreported
  | true =>
      obtain ⟨lasts, accepted, differs⟩ := moves moved
      cases spec with
      | raises fails => exact absurd fails (Bool.eq_false_iff.mp lasts)
      | unchanged found =>
          rw [Sites.find?_staying_self] at found
          exact absurd found differs
      | refused same => exact absurd same accepted
      | torn left same => exact absurd same (whole left)
      | written => exact absurd rfl unreported

/-! ## What is kept -/

/-- The remembered inputs render the files, and the flag tells when they have to be
loaded. -/
structure Tidy (world : IngressWorld) : Prop where
  placed : ∀ app input, world.placed.find? app = some input →
    world.sites.find? app = some (renderSite config.caddy input)
  loaded : Loaded world

/-- Rendering a site keeps what is remembered of the files. -/
theorem Tidy.placed_render
    {world : IngressWorld} (tidy : Tidy config world) (manifest : SiteManifest)
    (ingress : IngressSpec) (upstreams : List String) (now : Rat) (outcome : FileOutcome)
    (app : String) (input : SiteInput)
    (found : (world.render config manifest ingress upstreams now outcome).placed.find? app =
      some input) :
    (world.render config manifest ingress upstreams now outcome).sites.find? app =
      some (renderSite config.caddy input) := by
  simp only [IngressWorld.render] at found ⊢
  generalize inputIs : world.inputOf config manifest ingress upstreams now = rendered at found ⊢
  have host : rendered.ingress.host = ingress.host := by
    rw [← inputIs]
    rfl
  have kept : ∀ name, (world.placed.keep fun name =>
      !movedAway world.sites ingress.host manifest.app outcome name).find? name = some input →
        (world.sites.staying rendered.ingress.host manifest.app outcome).find? name =
          some (renderSite config.caddy input) := by
    intro name there
    rw [Dictionary.find?_keep] at there
    rw [host, Sites.find?_staying]
    cases moved : movedAway world.sites ingress.host manifest.app outcome name with
    | true => rw [moved] at there; cases there
    | false =>
        rw [moved] at there
        exact tidy.placed name input there
  by_cases same : manifest.app = app
  · subst same
    split at found
    · next works =>
        rw [Dictionary.find?_set, if_pos rfl] at found
        obtain rfl := Option.some.inj found
        exact applySite_find?_self config works
    · split at found
      · next unchanged =>
          have stays := kept manifest.app found
          rw [Sites.find?_staying_self] at stays
          exact unchanged.trans stays
      · rw [Dictionary.find?_drop, if_pos rfl] at found
        cases found
  · rw [applySite_find?_of_ne config world.sites same]
    split at found
    · rw [Dictionary.find?_set, if_neg same] at found
      exact kept app found
    · split at found
      · exact kept app found
      · rw [Dictionary.find?_drop, if_neg same] at found
        exact kept app found

variable {manifest : SiteManifest}

/-- An `apply` of a manifest with an ingress renders unless its signature is recorded. -/
theorem IngressWorld.apply_eq
    {world : IngressWorld} {given : IngressSpec} (present : manifest.ingress = some given)
    (upstreams : List String) (tls : Option (String × String)) (now : Rat)
    (outcome : FileOutcome) :
    world.apply config manifest upstreams tls now outcome =
      if world.Skips manifest.app (world.applied config manifest given upstreams tls now) then world
      else world.render config manifest (given.resolve tls) upstreams now outcome := by
  unfold IngressWorld.apply
  rw [present]
  rfl

/-- An `apply` with care keeps the invariant and renders. -/
theorem Tidy.apply
    {world : IngressWorld} (tidy : Tidy config world) {upstreams : List String}
    {tls : Option (String × String)} {now : Rat}
    (careful : Careful config world (.apply manifest upstreams tls now outcome)) :
    Tidy config (world.apply config manifest upstreams tls now outcome) ∧
      Renders config world (.apply manifest upstreams tls now outcome) := by
  cases present : manifest.ingress with
  | none =>
      refine ⟨?_, fun given found => nomatch present.symm.trans found⟩
      unfold IngressWorld.apply
      rw [present]
      exact tidy
  | some given =>
      have care := careful given present
      have equation := world.apply_eq config present upstreams tls now outcome
      by_cases skips : world.Skips manifest.app
        (world.applied config manifest given upstreams tls now)
      · rw [if_pos skips] at equation
        dsimp only at care
        rw [if_pos skips] at care
        obtain ⟨input, placed, same⟩ := Option.map_eq_some_iff.mp care
        refine ⟨?_, fun other found _ => ?_⟩
        · rw [equation]
          exact tidy
        obtain rfl := Option.some.inj (present.symm.trans found)
        rw [equation]
        exact (tidy.placed manifest.app input placed).trans (congrArg some same)
      · rw [if_neg skips] at equation
        dsimp only at care
        rw [if_neg skips] at care
        refine ⟨?_, fun other found renders => ?_⟩
        · rw [equation]
          refine ⟨fun app input => tidy.placed_render config _ _ _ _ _ app input, fun clear => ?_⟩
          simp only [IngressWorld.render, Bool.or_eq_false_iff, decide_eq_false_iff_not]
            at clear ⊢
          obtain ⟨whole, moves⟩ := care clear.1
          exact ⟨tidy.loaded clear.1, not_not.mpr (applySite_entries config whole moves clear.2)⟩
        · obtain rfl := Option.some.inj (present.symm.trans found)
          rw [equation]
          rcases renders with skipped | works
          · exact absurd skipped skips
          · exact applySite_find?_self config works

theorem Tidy.remove
    {world : IngressWorld} (tidy : Tidy config world) (app : String)
    (unlinks : Bool) : Tidy config (world.remove app unlinks) := by
  unfold IngressWorld.remove
  split
  · refine ⟨fun other input found => ?_, fun clean => absurd clean (by simp)⟩
    dsimp only at found ⊢
    rw [Dictionary.find?_drop] at found ⊢
    split at found
    · cases found
    · next apart =>
        rw [if_neg apart]
        exact tidy.placed other input found
  · exact tidy

theorem Tidy.doReload
    {world : IngressWorld} (tidy : Tidy config world) {succeeds : Bool}
    (careful : world.dirty = true → succeeds = true) : Tidy config (world.doReload succeeds) := by
  unfold IngressWorld.doReload
  split
  · next due =>
      refine ⟨tidy.placed, fun _ => ?_⟩
      rw [careful due]
      exact Bool.and_false _
  · exact tidy

theorem Tidy.step
    {world next : IngressWorld} {action : IngressAction} (tidy : Tidy config world)
    (careful : Careful config world action)
    (stepped : world.step config action = some next) : Tidy config next := by
  cases action with
  | apply manifest upstreams tls now outcome =>
      obtain rfl := Option.some.inj stepped
      exact (tidy.apply config careful).1
  | remove app unlinks =>
      obtain rfl := Option.some.inj stepped
      exact tidy.remove config app unlinks
  | reload succeeds =>
      simp only [IngressWorld.step] at stepped
      split at stepped
      · split at stepped
        · obtain rfl := Option.some.inj stepped
          exact ⟨tidy.placed, tidy.loaded⟩
        · next now =>
            obtain rfl := Option.some.inj stepped
            exact tidy.doReload config fun due => careful due (not_lt.mp now)
      · obtain rfl := Option.some.inj stepped
        exact tidy
  | timerFires succeeds =>
      obtain ⟨-, same⟩ := Option.ite_none_right_eq_some.mp stepped
      obtain rfl := Option.some.inj same
      have reloaded := tidy.doReload config careful
      exact ⟨reloaded.placed, reloaded.loaded⟩

/-! ## Runs -/

/-- Along every run whose files are changed with care, the files are as unconditional
renders leave them, and while the flag is clear Caddy has loaded them. -/
theorem faithful_of_careful
    {sites : Sites} {canary : Dictionary String CanaryState} {actions : List IngressAction}
    (careful : Machine.Along (IngressWorld.step config) (Careful config) (.initial sites canary)
      actions) :
    Machine.Along (IngressWorld.step config) (Faithful config) (.initial sites canary)
      actions := by
  have tidy : Tidy config (.initial sites canary) := ⟨nofun, fun _ => rfl⟩
  generalize IngressWorld.initial sites canary = world at careful tidy
  induction actions generalizing world with
  | nil => trivial
  | cons action rest ih =>
      obtain ⟨here, later⟩ := careful
      refine ⟨⟨?_, fun next stepped => (tidy.step config here stepped).loaded⟩,
        fun next stepped => ?_⟩
      · cases action with
        | apply manifest upstreams tls now outcome => exact (tidy.apply config here).2
        | _ => trivial
      · exact ih next (later next stepped) (tidy.step config here stepped)

/-! ## Two runs -/

/-- A service on a host, without a store. -/
def sampleService : ServiceConfig := ⟨⟨none, "docker", "", false⟩, false, 0⟩

def sampleSite (path : String) : SiteManifest where
  app := "web"
  ingress := some ⟨"web.local", path, [], none, none, none⟩
  readinessProbe := none
  rollout := ⟨none, none, none⟩

/-- An `apply` that nothing goes wrong in. -/
def plainApply (path : String) (upstreams : List String) : IngressAction :=
  .apply (sampleSite path) upstreams none 0 .works

/-- A sufficient test of `Careful` for calls in which nothing goes wrong. -/
def carefulTest (world : IngressWorld) : IngressAction → Bool
  | .apply manifest upstreams tls now outcome =>
      match manifest.ingress, outcome with
      | some given, .works =>
          let applied := world.applied config manifest given upstreams tls now
          if world.Skips manifest.app applied then
            decide ((world.placed.find? manifest.app).map (renderSite config.caddy) =
              some (renderSite config.caddy applied.input))
          else
            !(world.sites.entries.map Prod.fst).any
              (movedAway world.sites applied.ingress.host manifest.app .works)
      | _, _ => false
  | .remove _ _ => true
  | .reload succeeds => succeeds
  | .timerFires succeeds => succeeds

theorem careful_of_test
    (world : IngressWorld) (action : IngressAction)
    (passed : carefulTest config world action = true) : Careful config world action := by
  cases action with
  | apply manifest upstreams tls now outcome =>
      intro given present
      cases outcome with
      | works =>
          simp only [carefulTest, present] at passed
          dsimp only
          split
          · next skips =>
              rw [if_pos skips] at passed
              exact of_decide_eq_true passed
          · next differs =>
              rw [if_neg differs] at passed
              refine fun _ => ⟨nofun, fun moves => ?_⟩
              rw [IngressWorld.Moves] at moves
              rw [moves] at passed
              cases passed
      | moveFails moved => simp [carefulTest, present] at passed
      | writeFails left => simp [carefulTest, present] at passed
  | remove app unlinks => trivial
  | reload succeeds => exact fun _ _ => passed
  | timerFires succeeds => exact fun _ => passed

/-- An app gets a second upstream, is removed, and comes back. -/
def carefulRun : List IngressAction :=
  [plainApply "/" ["10.0.0.1:80"], .reload true,
    plainApply "/" ["10.0.0.1:80", "10.0.0.2:80"], .reload true,
    plainApply "/" ["10.0.0.1:80", "10.0.0.2:80"],
    .remove "web" true, .reload true, plainApply "/api" ["10.0.0.1:80"]]

theorem faithful_carefulRun :
    Machine.Along (IngressWorld.step sampleService) (Faithful sampleService)
      (.initial Dictionary.empty Dictionary.empty) carefulRun := by
  have tested : Machine.Along (IngressWorld.step sampleService)
      (fun world action => carefulTest sampleService world action = true)
      (.initial Dictionary.empty Dictionary.empty) carefulRun := by
    decide +kernel
  exact faithful_of_careful sampleService (tested.weaken (careful_of_test sampleService))

/-- The path of an app changes: its file keeps the old one. -/
theorem not_faithful_changedPath :
    ¬ Machine.Along (IngressWorld.step sampleService) (Faithful sampleService)
      (.initial Dictionary.empty Dictionary.empty)
      [plainApply "/" ["10.0.0.1:80"], .reload true, plainApply "/api" ["10.0.0.1:80"]] := by
  rintro ⟨-, first⟩
  obtain ⟨-, second⟩ := first _ rfl
  obtain ⟨⟨renders, -⟩, -⟩ := second _ rfl
  have skipped := renders _ rfl (.inl (by decide +kernel))
  revert skipped
  decide +kernel

end Ingress
end K1s
