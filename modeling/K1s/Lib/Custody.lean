import K1s.Lib.Program

/-!
# Programs that hold what they have seen

A program may look at a part of the shared state and act on what it has seen some
operations later.  From the look to the act it holds the part.  A program respects
the custody when each of its operations does what is asked of it, provided that the
parts it holds are not disturbed.

The rule of this module: if every operation leaves alone the parts that other threads
hold, then every operation of an interleaving of respectful programs does what is
asked of it.
-/

namespace K1s

/-- Parts of a shared state, and what is asked of the operations on it. -/
structure Custody (σ : Type) (Op : Type) (Reply : Op → Type) (κ ν : Type) where
  execute : (operation : Op) → σ → Reply operation × σ
  /-- The operations that act on a part. -/
  acts : κ → Op → Prop
  /-- The operations by which a program sees the parts afresh. -/
  looks : Op → Prop
  /-- What a part holds. -/
  view : κ → σ → ν
  /-- What every operation does to the state. -/
  grows : σ → σ → Prop
  grows_refl : ∀ state, grows state state
  grows_trans : ∀ first second third, grows first second → grows second third → grows first third
  grows_execute : ∀ operation state, grows state (execute operation state).2
  /-- What is asked of an operation. -/
  sound : Op → σ → Prop

namespace Custody

variable {σ : Type} {Op : Type} {Reply : Op → Type} {κ ν α ι : Type}
variable (custody : Custody σ Op Reply κ ν)

/-- The program may act on the part without another look. -/
def Holds (key : κ) (program : Program Op Reply α) : Prop :=
  program.May (custody.acts key) custody.looks

/-- What may happen to the state while the program waits. -/
structure Undisturbed (program : Program Op Reply α) (state reached : σ) : Prop where
  grows : custody.grows state reached
  held : ∀ key, custody.Holds key program → custody.view key reached = custody.view key state

/-- Every operation of the program does what is asked of it if the parts it holds are
not disturbed. -/
def Respects : Program Op Reply α → σ → Prop
  | .done _, _ => True
  | .raise, _ => True
  | .perform operation next, state =>
      ∀ reached, custody.Undisturbed (.perform operation next) state reached →
        custody.sound operation reached ∧ Respects (next (custody.execute operation reached).1)
            (custody.execute operation reached).2

variable {custody}

theorem Undisturbed.refl (program : Program Op Reply α) (state : σ) :
    custody.Undisturbed program state state :=
  ⟨custody.grows_refl state, fun _ _ => rfl⟩

theorem Undisturbed.trans
    {program : Program Op Reply α} {first second third : σ}
    (one : custody.Undisturbed program first second)
    (two : custody.Undisturbed program second third) :
    custody.Undisturbed program first third :=
  ⟨custody.grows_trans _ _ _ one.grows two.grows,
    fun key holds => (two.held key holds).trans (one.held key holds)⟩

theorem Respects.later
    {program : Program Op Reply α} {state reached : σ} (respects : custody.Respects program state)
    (undisturbed : custody.Undisturbed program state reached) :
    custody.Respects program reached := by
  cases program with
  | done value => trivial
  | raise => trivial
  | perform operation next => exact fun after later => respects after (undisturbed.trans later)

theorem Respects.ite
    {test : Prop} [Decidable test] {first second : Program Op Reply α} {state : σ}
    (whenTrue : test → custody.Respects first state)
    (whenFalse : ¬ test → custody.Respects second state) :
    custody.Respects (if test then first else second) state := by
  split
  · exact whenTrue ‹_›
  · exact whenFalse ‹_›

/-- A program whose operations always do what is asked of them. -/
theorem respects_of_uses
    {allowed : Op → Prop} {program : Program Op Reply α} (uses : program.Uses allowed)
    (always : ∀ operation, allowed operation → ∀ state, custody.sound operation state)
    (state : σ) : custody.Respects program state := by
  induction program generalizing state with
  | done value => trivial
  | raise => trivial
  | perform operation next ih =>
      exact fun reached _ => ⟨always operation uses.1 reached, ih _ (uses.2 _) _⟩

/-- Such a program in front of another one. -/
theorem respects_andThen
    {β : Type} {allowed : Op → Prop} {program : Program Op Reply α}
    {next : α → Program Op Reply β} (uses : program.Uses allowed)
    (always : ∀ operation, allowed operation → ∀ state, custody.sound operation state)
    (continued : ∀ value state, custody.Respects (next value) state)
    (state : σ) : custody.Respects (program.andThen next) state := by
  induction program generalizing state with
  | done value => exact continued value state
  | raise => trivial
  | perform operation rest ih =>
      exact fun reached _ => ⟨always operation uses.1 reached, ih _ (uses.2 _) _⟩

/-! ## Interleavings -/

variable (custody)

/-- An operation leaves alone the parts that other threads hold. -/
def Apart (pool : Program.Pool σ Op Reply α) : Program.PoolAction ι → Prop
  | .start _ _ => True
  | .advance thread =>
      ∀ operation next, pool.threads thread = some (.perform operation next) →
        ∀ other program key, other ≠ thread → pool.threads other = some program →
          custody.Holds key program → custody.view key (custody.execute operation pool.state).2 =
              custody.view key pool.state

/-- An operation does what is asked of it. -/
def Sound (pool : Program.Pool σ Op Reply α) : Program.PoolAction ι → Prop
  | .start _ _ => True
  | .advance thread =>
      ∀ operation next, pool.threads thread = some (.perform operation next) →
        custody.sound operation pool.state

/-- Every thread respects the custody. -/
def Kept (pool : Program.Pool σ Op Reply α) : Prop :=
  ∀ thread program, pool.threads thread = some program → custody.Respects program pool.state

variable {custody} {body : ι → Program Op Reply α}

theorem Kept.sound
    {pool : Program.Pool σ Op Reply α} {action : Program.PoolAction ι}
    (kept : custody.Kept pool) : custody.Sound pool action := by
  cases action with
  | start thread call => trivial
  | advance thread =>
      intro operation next running
      exact (kept thread _ running pool.state (.refl _ _)).1

theorem Kept.step
    (bodies : ∀ call state, custody.Respects (body call) state)
    {pool next : Program.Pool σ Op Reply α} {action : Program.PoolAction ι}
    (kept : custody.Kept pool) (apart : custody.Apart pool action)
    (stepped : pool.step custody.execute body action = some next) : custody.Kept next := by
  rcases Program.Pool.step_cases stepped with
    ⟨thread, call, rfl, -, rfl⟩ | ⟨thread, operation, rest, rfl, present, rfl⟩
  · intro other program running
    rcases Program.Pool.of_update running with ⟨rfl, rfl⟩ | ⟨-, running⟩
    · exact bodies call pool.state
    · exact kept other program running
  · intro other program running
    rcases Program.Pool.of_update running with ⟨rfl, rfl⟩ | ⟨same, running⟩
    · exact (kept other _ present pool.state (.refl _ _)).2
    · exact (kept other program running).later
        ⟨custody.grows_execute operation pool.state, fun key holds =>
          apart operation rest present other program key same running holds⟩

/-- Every operation of a run whose operations leave alone what others hold does what
is asked of it. -/
theorem sound_of_apart
    (bodies : ∀ call state, custody.Respects (body call) state) (state : σ)
    (actions : List (Program.PoolAction ι))
    (apart : Machine.Along (Program.Pool.step custody.execute body) custody.Apart
      (Program.Pool.idle state : Program.Pool σ Op Reply α) actions) :
    Machine.Along (Program.Pool.step custody.execute body) custody.Sound
      (Program.Pool.idle state : Program.Pool σ Op Reply α) actions := by
  have initial : custody.Kept (Program.Pool.idle state : Program.Pool σ Op Reply α) :=
    fun _ _ running => by simp [Program.Pool.idle] at running
  generalize (Program.Pool.idle state : Program.Pool σ Op Reply α) = pool at apart initial
  induction actions generalizing pool with
  | nil => trivial
  | cons action rest ih =>
      exact ⟨initial.sound, fun next stepped => ih next
        (apart.2 next stepped) (initial.step bodies apart.1 stepped)⟩

end Custody
end K1s
