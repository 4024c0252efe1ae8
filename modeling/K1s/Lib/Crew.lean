import K1s.Lib.Program

/-!
# Calls with roles

A crew is a pool of threads that remembers the call each thread was started on.
Every call has its own view of what the others may do to the shared state while
it runs (`rely`), and of what it does to it itself (`guarantee`).  Two calls are
compatible when the guarantee of each is something the other can rely on.

The rule of this module: if a call is started only while all calls that are
still running are compatible with it, then every operation keeps the guarantee
of its call, and every call that ends has reached its postcondition.
-/

namespace K1s

variable {σ : Type} {Op : Type} {Reply : Op → Type} {α β ι : Type}

/-- What the calls of a kind rely on and guarantee. -/
structure Protocol (σ : Type) (Op : Type) (Reply : Op → Type) (ι : Type) where
  execute : (operation : Op) → σ → Reply operation × σ
  /-- What may happen to the shared state while the call waits. -/
  rely : ι → σ → σ → Prop
  rely_refl : ∀ call state, rely call state state
  rely_trans : ∀ call first second third, rely call first second →
    rely call second third → rely call first third
  /-- What an operation of the call does to the shared state. -/
  guarantee : ι → σ → σ → Prop
  /-- Calls that may run at the same time. -/
  compatible : ι → ι → Prop
  compatible_symm : ∀ first second, compatible first second → compatible second first
  rely_of_guarantee : ∀ first second before after, compatible first second →
    guarantee first before after → rely second before after

namespace Program

/-- Items that a loop passes over can be left out of it. -/
theorem forEach_ite
    (items : List α) (test : α → Prop) [DecidablePred test] (key : α → β)
    (body : β → Program Op Reply Unit) :
    forEach items (fun item => if test item then body (key item) else .done ()) =
      forEach ((items.filter fun item => test item).map key) body := by
  induction items with
  | nil => rfl
  | cons item rest ih =>
      by_cases taken : test item
      · simp [forEach, taken, ih]
      · simp [forEach, taken, ih]

end Program

namespace Protocol

variable (protocol : Protocol σ Op Reply ι) (call : ι)

/-- Every operation of the program keeps the guarantee of the call, and the
program ends in its postcondition unless it raises. -/
def Follows (post : α → σ → Prop) : Program Op Reply α → σ → Prop
  | .done value, state => post value state
  | .raise, _ => True
  | .perform operation next, state =>
      ∀ reached, protocol.rely call state reached →
        protocol.guarantee call reached (protocol.execute operation reached).2 ∧
          Follows post (next (protocol.execute operation reached).1)
            (protocol.execute operation reached).2

variable {protocol} {call}

theorem Follows.weaken
    {post other : α → σ → Prop} {program : Program Op Reply α} {state : σ}
    (follows : protocol.Follows call post program state)
    (implies : ∀ value reached, post value reached → other value reached) :
    protocol.Follows call other program state := by
  induction program generalizing state with
  | done value => exact implies value state follows
  | raise => trivial
  | perform operation next ih =>
      intro reached later
      obtain ⟨kept, rest⟩ := follows reached later
      exact ⟨kept, ih _ rest⟩

theorem Follows.andThen
    {middle : α → σ → Prop} {post : β → σ → Prop} {program : Program Op Reply α}
    {next : α → Program Op Reply β} {state : σ}
    (follows : protocol.Follows call middle program state)
    (continued : ∀ value reached, middle value reached →
      protocol.Follows call post (next value) reached) :
    protocol.Follows call post (program.andThen next) state := by
  induction program generalizing state with
  | done value => exact continued value state follows
  | raise => trivial
  | perform operation rest ih =>
      intro reached later
      obtain ⟨kept, remaining⟩ := follows reached later
      exact ⟨kept, ih _ remaining⟩

theorem Follows.ofOption_andThen
    {post : β → σ → Prop} {value : Option α} {next : α → Program Op Reply β} {state : σ}
    (continued : ∀ given, value = some given → protocol.Follows call post (next given) state) :
    protocol.Follows call post ((Program.ofOption value).andThen next) state := by
  cases value with
  | none => trivial
  | some given => exact continued given rfl

theorem Follows.ite
    {post : α → σ → Prop} {test : Prop} [Decidable test] {first second : Program Op Reply α}
    {state : σ} (whenTrue : test → protocol.Follows call post first state)
    (whenFalse : ¬ test → protocol.Follows call post second state) :
    protocol.Follows call post (if test then first else second) state := by
  split
  · exact whenTrue ‹_›
  · exact whenFalse ‹_›

/-- What the others do does not disturb a program that still has to run. -/
theorem Follows.later
    {post : α → σ → Prop} {operation : Op} {next : Reply operation → Program Op Reply α}
    {state reached : σ} (follows : protocol.Follows call post (.perform operation next) state)
    (moved : protocol.rely call state reached) :
    protocol.Follows call post (.perform operation next) reached :=
  fun after later => follows after (protocol.rely_trans _ _ _ _ moved later)

end Protocol

/-! ## Crews -/

/-- The shared state, the programs of the threads and the calls they were
started on. -/
structure Crew (σ : Type) (Op : Type) (Reply : Op → Type) (α ι : Type) where
  state : σ
  threads : Nat → Option (ι × Program Op Reply α)

namespace Crew

/-- No thread has been started. -/
def idle (state : σ) : Crew σ Op Reply α ι where
  state := state
  threads := fun _ => none

def step
    (execute : (operation : Op) → σ → Reply operation × σ) (body : ι → Program Op Reply α)
    (crew : Crew σ Op Reply α ι) :
    Program.PoolAction ι → Option (Crew σ Op Reply α ι)
  | .start thread call =>
      match crew.threads thread with
      | none =>
          some { crew with
            threads := Function.update crew.threads thread (some (call, body call)) }
      | some _ => none
  | .advance thread =>
      match crew.threads thread with
      | some (call, .perform operation next) =>
          let (reply, after) := execute operation crew.state
          some
            { state := after
              threads := Function.update crew.threads thread (some (call, next reply)) }
      | _ => none

/-- A step leaves the shared state or applies one operation to it. -/
theorem state_of_step
    {execute : (operation : Op) → σ → Reply operation × σ} {crew next : Crew σ Op Reply α ι}
    {action : Program.PoolAction ι} (stepped : crew.step execute body action = some next) :
    next.state = crew.state ∨ ∃ operation, next.state = (execute operation crew.state).2 := by
  cases action with
  | start thread call =>
      simp only [step] at stepped
      split at stepped
      · obtain rfl := Option.some.inj stepped
        exact .inl rfl
      · cases stepped
  | advance thread =>
      simp only [step] at stepped
      split at stepped
      · obtain rfl := Option.some.inj stepped
        exact .inr ⟨_, rfl⟩
      · cases stepped

def Busy (crew : Crew σ Op Reply α ι) (thread : Nat) (call : ι) : Prop :=
  ∃ operation next, crew.threads thread = some (call, .perform operation next)

/-- A call is started when its precondition holds and the calls that are still
running are compatible with it. -/
def StartsApart
    (protocol : Protocol σ Op Reply ι) (ready : ι → Crew σ Op Reply α ι → Prop)
    (crew : Crew σ Op Reply α ι) : Program.PoolAction ι → Prop
  | .start _ call =>
      ready call crew ∧ ∀ thread running, crew.Busy thread running →
        protocol.compatible running call
  | .advance _ => True

/-- The operation keeps the guarantee of its call, and if it is the last one the
call has reached its postcondition. -/
def Sound
    (protocol : Protocol σ Op Reply ι) (post : ι → α → σ → Prop)
    (crew : Crew σ Op Reply α ι) : Program.PoolAction ι → Prop
  | .start _ _ => True
  | .advance thread =>
      ∀ call operation next, crew.threads thread = some (call, .perform operation next) →
        protocol.guarantee call crew.state (protocol.execute operation crew.state).2 ∧
          ∀ value, next (protocol.execute operation crew.state).1 = .done value →
            post call value (protocol.execute operation crew.state).2

/-- Every thread that is in the middle of a call follows the protocol, and any
two of them are compatible. -/
structure Kept
    (protocol : Protocol σ Op Reply ι) (post : ι → α → σ → Prop)
    (crew : Crew σ Op Reply α ι) : Prop where
  follows : ∀ thread call operation next,
    crew.threads thread = some (call, .perform operation next) →
      protocol.Follows call (post call) (.perform operation next) crew.state
  apart : ∀ first second one two, first ≠ second → crew.Busy first one →
    crew.Busy second two → protocol.compatible one two

section Rule

variable
    {protocol : Protocol σ Op Reply ι}
    {body : ι → Program Op Reply α}
    {ready : ι → Crew σ Op Reply α ι → Prop}
    {post : ι → α → σ → Prop}

theorem Kept.sound
    {crew : Crew σ Op Reply α ι} {action : Program.PoolAction ι}
    (kept : crew.Kept protocol post) : crew.Sound protocol post action := by
  cases action with
  | start thread call => trivial
  | advance thread =>
      intro call operation next running
      obtain ⟨guarantee, rest⟩ := kept.follows thread call operation next running crew.state
        (protocol.rely_refl call crew.state)
      refine ⟨guarantee, fun value ended => ?_⟩
      rw [ended] at rest
      exact rest

theorem Kept.step
    (bodies : ∀ call crew, ready call crew →
      protocol.Follows call (post call) (body call) crew.state)
    {crew next : Crew σ Op Reply α ι}
    {action : Program.PoolAction ι}
    (kept : crew.Kept protocol post)
    (apart : crew.StartsApart protocol ready action)
    (stepped : crew.step protocol.execute body action = some next) :
    next.Kept protocol post := by
  cases action with
  | start thread call =>
      cases present : crew.threads thread with
      | some entry => simp [Crew.step, present] at stepped
      | none =>
          simp only [Crew.step, present, Option.some.injEq] at stepped
          subst stepped
          have elsewhere : ∀ other running, other ≠ thread → Busy { crew with
                threads := Function.update crew.threads thread (some (call, body call)) }
                other running → crew.Busy other running := by
            rintro other running different ⟨operation, rest, found⟩
            simp only [Function.update_of_ne different] at found
            exact ⟨operation, rest, found⟩
          have own : ∀ running, Busy { crew with
                threads := Function.update crew.threads thread (some (call, body call)) }
                thread running → running = call := by
            rintro running ⟨operation, rest, found⟩
            simp only [Function.update_self, Option.some.injEq, Prod.mk.injEq] at found
            exact found.1.symm
          constructor
          · intro other running operation rest found
            by_cases same : other = thread
            · subst same
              simp only [Function.update_self, Option.some.injEq, Prod.mk.injEq] at found
              obtain ⟨rfl, equal⟩ := found
              exact equal ▸ bodies call crew apart.1
            · simp only [Function.update_of_ne same] at found
              exact kept.follows other running operation rest found
          · intro first second one two different busyFirst busySecond
            by_cases same : first = thread
            · subst same
              rw [own one busyFirst]
              exact protocol.compatible_symm _ _
                (apart.2 second two (elsewhere second two (Ne.symm different) busySecond))
            · have oneBusy := elsewhere first one same busyFirst
              by_cases other : second = thread
              · subst other
                rw [own two busySecond]
                exact apart.2 first one oneBusy
              · exact kept.apart first second one two different oneBusy
                  (elsewhere second two other busySecond)
  | advance thread =>
      cases present : crew.threads thread with
      | none => simp [Crew.step, present] at stepped
      | some entry =>
          obtain ⟨call, program⟩ := entry
          cases program with
          | done value => simp [Crew.step, present] at stepped
          | raise => simp [Crew.step, present] at stepped
          | perform operation rest =>
              simp only [Crew.step, present, Option.some.injEq] at stepped
              subst stepped
              obtain ⟨guarantee, remaining⟩ := kept.follows thread call operation rest present
                crew.state (protocol.rely_refl call crew.state)
              have busy : crew.Busy thread call := ⟨operation, rest, present⟩
              have before : ∀ other running, Busy
                  { state := (protocol.execute operation crew.state).2
                    threads := Function.update crew.threads thread
                      (some (call, rest (protocol.execute operation crew.state).1)) }
                  other running → crew.Busy other running := by
                rintro other running ⟨following, continued, found⟩
                by_cases same : other = thread
                · subst same
                  simp only [Function.update_self, Option.some.injEq, Prod.mk.injEq] at found
                  exact found.1 ▸ busy
                · simp only [Function.update_of_ne same] at found
                  exact ⟨following, continued, found⟩
              constructor
              · intro other running following continued found
                by_cases same : other = thread
                · subst same
                  simp only [Function.update_self, Option.some.injEq, Prod.mk.injEq] at found
                  obtain ⟨rfl, equal⟩ := found
                  exact equal ▸ remaining
                · simp only [Function.update_of_ne same] at found
                  refine (kept.follows other running following continued found).later ?_
                  exact protocol.rely_of_guarantee call running _ _
                    (kept.apart thread other call running (Ne.symm same) busy
                      ⟨following, continued, found⟩) guarantee
              · intro first second one two different busyFirst busySecond
                exact kept.apart first second one two different (before _ _ busyFirst)
                  (before _ _ busySecond)

/-- Every operation of a run whose calls are started apart is sound. -/
theorem sound_of_startsApart
    (bodies : ∀ call crew, ready call crew →
      protocol.Follows call (post call) (body call) crew.state)
    (state : σ)
    (actions : List (Program.PoolAction ι))
    (apart : Machine.Along (Crew.step protocol.execute body) (StartsApart protocol ready)
      (Crew.idle state : Crew σ Op Reply α ι) actions) :
    Machine.Along (Crew.step protocol.execute body) (Sound protocol post)
      (Crew.idle state : Crew σ Op Reply α ι) actions := by
  have initial : (Crew.idle state : Crew σ Op Reply α ι).Kept protocol post :=
    ⟨fun _ _ _ _ found => by simp [Crew.idle] at found,
      fun _ _ _ _ _ ⟨_, _, found⟩ => by simp [Crew.idle] at found⟩
  generalize (Crew.idle state : Crew σ Op Reply α ι) = crew at apart initial
  induction actions generalizing crew with
  | nil => trivial
  | cons action rest ih =>
      exact ⟨initial.sound, fun next stepped => ih next
        (apart.2 next stepped) (initial.step bodies apart.1 stepped)⟩

end Rule

end Crew
end K1s
