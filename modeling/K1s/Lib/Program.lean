import K1s.Lib.Machine

/-!
# Programs over atomic operations

A program performs operations on a shared state one at a time and chooses how
to go on from each reply.  The module runs a program alone, interleaves any
number of programs, and gives the rule by which a property of the shared state
is proved of every interleaving.

The rule is of the rely and guarantee kind.  A `Discipline` fixes an invariant
of the shared state and a reflexive and transitive relation that everything
which happens to it must respect.  A program is `Safe` when each of its
operations keeps to the discipline, taken in any state that others may have
reached by keeping to it since the program's last operation.  A pool of safe
programs keeps the invariant.
-/

namespace K1s

/-- A program that has finished, has raised an exception, or is about to
perform an operation. -/
inductive Program (Op : Type) (Reply : Op → Type) (α : Type)
  | done (value : α)
  | raise
  | perform (operation : Op) (next : Reply operation → Program Op Reply α)

namespace Program

variable {Op : Type} {Reply : Op → Type} {α β : Type}

/-- Continue with the value of a finished program. -/
def andThen
    (program : Program Op Reply α)
    (next : α → Program Op Reply β) : Program Op Reply β :=
  match program with
  | .done value => next value
  | .raise => .raise
  | .perform operation rest =>
      .perform operation fun reply => (rest reply).andThen next

instance : Monad (Program Op Reply) where
  pure := .done
  bind := andThen

def ask (operation : Op) : Program Op Reply (Reply operation) :=
  .perform operation .done

/-- A value that may be missing because computing it raised an exception. -/
def ofOption : Option α → Program Op Reply α
  | some value => .done value
  | none => .raise

/-- Run to the end, with `none` for an exception. -/
def attempt : Program Op Reply α → Program Op Reply (Option α)
  | .done value => .done (some value)
  | .raise => .done none
  | .perform operation rest => .perform operation fun reply => (rest reply).attempt

/-- Run a program for every item of a list, in order. -/
def forEach (items : List α) (body : α → Program Op Reply Unit) : Program Op Reply Unit :=
  match items with
  | [] => .done ()
  | item :: rest => (body item).andThen fun _ => forEach rest body

/-- Run a program for every item of a list, in order, and join the results. -/
def collect (items : List α) (body : α → Program Op Reply (List β)) :
    Program Op Reply (List β) :=
  match items with
  | [] => .done []
  | item :: rest =>
      (body item).andThen fun found =>
        (collect rest body).andThen fun others => .done (found ++ others)

@[simp] theorem pure_eq (value : α) :
    (pure value : Program Op Reply α) = .done value := rfl

@[simp] theorem bind_eq (program : Program Op Reply α) (next : α → Program Op Reply β) :
    program >>= next = program.andThen next := rfl

@[simp] theorem done_andThen (value : α) (next : α → Program Op Reply β) :
    (done value).andThen next = next value := rfl

@[simp] theorem raise_andThen (next : α → Program Op Reply β) :
    (raise : Program Op Reply α).andThen next = .raise := rfl

@[simp] theorem perform_andThen
    (operation : Op) (rest : Reply operation → Program Op Reply α)
    (next : α → Program Op Reply β) :
    (perform operation rest).andThen next =
      .perform operation fun reply => (rest reply).andThen next := rfl

/-! ## One program alone -/

variable {σ : Type}

/-- Run a program to its end.  The state reached counts whether or not it
raised an exception. -/
def runAlone (execute : (operation : Op) → σ → Reply operation × σ) :
    Program Op Reply α → σ → Option α × σ
  | .done value, state => (some value, state)
  | .raise, state => (none, state)
  | .perform operation next, state =>
      let (reply, after) := execute operation state
      runAlone execute (next reply) after

@[simp] theorem runAlone_done
    (execute : (operation : Op) → σ → Reply operation × σ) (value : α) (state : σ) :
    runAlone execute (.done value : Program Op Reply α) state = (some value, state) := rfl

@[simp] theorem runAlone_raise
    (execute : (operation : Op) → σ → Reply operation × σ) (state : σ) :
    runAlone execute (.raise : Program Op Reply α) state = (none, state) := rfl

@[simp] theorem runAlone_perform
    (execute : (operation : Op) → σ → Reply operation × σ) (operation : Op)
    (next : Reply operation → Program Op Reply α) (state : σ) :
    runAlone execute (.perform operation next) state =
      runAlone execute (next (execute operation state).1) (execute operation state).2 := rfl

/-- Two programs in sequence. -/
theorem runAlone_andThen
    (execute : (operation : Op) → σ → Reply operation × σ) (program : Program Op Reply α)
    (next : α → Program Op Reply β) (state : σ) :
    runAlone execute (program.andThen next) state =
      match runAlone execute program state with
      | (some value, after) => runAlone execute (next value) after
      | (none, after) => (none, after) := by
  induction program generalizing state with
  | done value => rfl
  | raise => rfl
  | perform operation rest ih =>
      simp only [perform_andThen, runAlone_perform, ih]

/-- A value that may be missing leaves the state alone. -/
theorem runAlone_ofOption
    (execute : (operation : Op) → σ → Reply operation × σ) (value : Option α) (state : σ) :
    runAlone execute (.ofOption value : Program Op Reply α) state = (value, state) := by
  cases value <;> rfl

/-- An exception is turned into a value. -/
theorem runAlone_attempt
    (execute : (operation : Op) → σ → Reply operation × σ) (program : Program Op Reply α)
    (state : σ) :
    runAlone execute program.attempt state =
      (some (runAlone execute program state).1, (runAlone execute program state).2) := by
  induction program generalizing state with
  | done value => rfl
  | raise => rfl
  | perform operation rest ih =>
      simp only [attempt, runAlone_perform, ih]

/-- Programs that only look, one for every item. -/
theorem runAlone_collect
    (execute : (operation : Op) → σ → Reply operation × σ) (items : List α)
    (body : α → Program Op Reply (List β)) (found : α → Option (List β)) (state : σ)
    (looks : ∀ item, runAlone execute (body item) state = (found item, state)) :
    runAlone execute (collect items body) state =
      ((items.mapM found).map List.flatten, state) := by
  induction items with
  | nil => rfl
  | cons item rest ih =>
      simp only [collect, runAlone_andThen, looks, List.mapM_cons]
      cases found item with
      | none => rfl
      | some first =>
          simp only [ih]
          cases rest.mapM found with
          | none => rfl
          | some others => rfl

/-- Every operation that the program performs when it runs alone meets a
condition in the state it is performed in. -/
def Along
    (execute : (operation : Op) → σ → Reply operation × σ)
    (condition : σ → Op → Prop) : Program Op Reply α → σ → Prop
  | .done _, _ => True
  | .raise, _ => True
  | .perform operation next, state =>
      condition state operation ∧ Along execute condition (next (execute operation state).1)
          (execute operation state).2

/-- A decidable condition can be checked by running the program. -/
instance Along.decidable
    (execute : (operation : Op) → σ → Reply operation × σ) (condition : σ → Op → Prop)
    [∀ state operation, Decidable (condition state operation)] :
    (program : Program Op Reply α) → (state : σ) →
      Decidable (program.Along execute condition state)
  | .done _, _ => inferInstanceAs (Decidable True)
  | .raise, _ => inferInstanceAs (Decidable True)
  | .perform operation next, state =>
      have := Along.decidable execute condition (next (execute operation state).1)
        (execute operation state).2
      inferInstanceAs (Decidable (condition state operation ∧
        (next (execute operation state).1).Along execute condition (execute operation state).2))

variable {program : Program Op Reply α} {state : σ}

/-- What every operation that meets the condition preserves, a program alone
preserves. -/
theorem invariant_of_runAlone
    {execute : (operation : Op) → σ → Reply operation × σ} {condition : σ → Op → Prop}
    (invariant : σ → Prop)
    (preserves : ∀ state operation, invariant state → condition state operation →
      invariant (execute operation state).2)
    (initial : invariant state)
    (along : program.Along execute condition state) :
    invariant (runAlone execute program state).2 := by
  induction program generalizing state with
  | done value => exact initial
  | raise => exact initial
  | perform operation next ih =>
      exact ih _ (preserves state operation initial along.1) along.2

/-- Run alone, every operation meets a condition in the state it is performed
in, and the program ends in its postcondition unless it raises. -/
def Checked
    (execute : (operation : Op) → σ → Reply operation × σ) (condition : σ → Op → Prop)
    (post : α → σ → Prop) : Program Op Reply α → σ → Prop
  | .done value, state => post value state
  | .raise, _ => True
  | .perform operation next, state =>
      condition state operation ∧ Checked execute condition post (next (execute operation state).1)
          (execute operation state).2

variable {value : Option α} {first second : Program Op Reply α} {next : α → Program Op Reply β}
  {middle other post : α → σ → Prop} {after : σ}

section Checked

variable {execute : (operation : Op) → σ → Reply operation × σ} {condition : σ → Op → Prop}

theorem Checked.along (checked : program.Checked execute condition post state) :
    program.Along execute condition state := by
  induction program generalizing state with
  | done value => trivial
  | raise => trivial
  | perform operation next ih =>
      exact ⟨checked.1, ih _ checked.2⟩

theorem Checked.weaken
    (checked : program.Checked execute condition post state)
    (implies : ∀ value reached, post value reached → other value reached) :
    program.Checked execute condition other state := by
  induction program generalizing state with
  | done value => exact implies value state checked
  | raise => trivial
  | perform operation next ih =>
      exact ⟨checked.1, ih _ checked.2⟩

theorem Checked.andThen
    {post : β → σ → Prop} (checked : program.Checked execute condition middle state)
    (continued : ∀ value reached, middle value reached →
      (next value).Checked execute condition post reached) :
    (program.andThen next).Checked execute condition post state := by
  induction program generalizing state with
  | done value => exact continued value state checked
  | raise => trivial
  | perform operation rest ih =>
      exact ⟨checked.1, ih _ checked.2⟩

theorem Checked.ofOption_andThen
    {post : β → σ → Prop}
    (continued : ∀ found, value = some found → (next found).Checked execute condition post state) :
    ((ofOption value).andThen next).Checked execute condition post state := by
  cases value with
  | none => trivial
  | some found => exact continued found rfl

theorem Checked.ite
    {test : Prop} [Decidable test] (whenTrue : test → first.Checked execute condition post state)
    (whenFalse : ¬ test → second.Checked execute condition post state) :
    (if test then first else second).Checked execute condition post state := by
  split
  · exact whenTrue ‹_›
  · exact whenFalse ‹_›

/-- What a checked program has ended in. -/
theorem Checked.post_of_runAlone
    {value : α} (checked : program.Checked execute condition post state)
    (ran : runAlone execute program state = (some value, after)) : post value after := by
  induction program generalizing state with
  | done found =>
      obtain ⟨same, rfl⟩ := Prod.ext_iff.mp ran
      obtain rfl := Option.some.inj same
      exact checked
  | raise => cases ran
  | perform operation next ih => exact ih _ checked.2 ran

end Checked

/-! ### Partial correctness -/

/-- Run alone, the program ends in its postcondition unless it raises an exception. -/
abbrev Ends
    (execute : (operation : Op) → σ → Reply operation × σ) (post : α → σ → Prop)
    (program : Program Op Reply α)
    (state : σ) : Prop :=
  program.Checked execute (fun _ _ => True) post state

theorem Ends.of_forall
    {execute : (operation : Op) → σ → Reply operation × σ}
    (always : ∀ value reached, post value reached) : program.Ends execute post state := by
  induction program generalizing state with
  | done value => exact always value state
  | raise => trivial
  | perform operation next ih => exact ⟨trivial, ih _⟩

/-- An operation, and what comes after it. -/
theorem Ends.ask_andThen
    {execute : (operation : Op) → σ → Reply operation × σ} {post : β → σ → Prop}
    {operation : Op} {next : Reply operation → Program Op Reply β}
    (continued : (next (execute operation state).1).Ends execute post
      (execute operation state).2) :
    ((ask operation).andThen next).Ends execute post state :=
  ⟨trivial, continued⟩

/-! ## Interleavings -/

/-- The shared state and the programs of the threads that have been started. -/
structure Pool (σ : Type) (Op : Type) (Reply : Op → Type) (α : Type) where
  state : σ
  threads : Nat → Option (Program Op Reply α)

/-- A thread is started on a call, or performs its next operation. -/
inductive PoolAction (ι : Type)
  | start (thread : Nat) (call : ι)
  | advance (thread : Nat)

namespace Pool

variable {ι : Type}

/-- No thread has been started. -/
def idle (state : σ) : Pool σ Op Reply α where
  state := state
  threads := fun _ => none

/-- The next operation of a thread, if it has one. -/
def pending (pool : Pool σ Op Reply α) (thread : Nat) : Option Op :=
  match pool.threads thread with
  | some (.perform operation _) => some operation
  | _ => none

def step
    (execute : (operation : Op) → σ → Reply operation × σ) (body : ι → Program Op Reply α)
    (pool : Pool σ Op Reply α) :
    PoolAction ι → Option (Pool σ Op Reply α)
  | .start thread call =>
      match pool.threads thread with
      | none =>
          some { pool with
            threads := Function.update pool.threads thread (some (body call)) }
      | some _ => none
  | .advance thread =>
      match pool.threads thread with
      | some (.perform operation next) =>
          let (reply, after) := execute operation pool.state
          some
            { state := after
              threads :=
                Function.update pool.threads thread (some (next reply)) }
      | _ => none

end Pool

/-! ## Keeping to a discipline -/

/-- What the operations of all programs may rely on and have to keep. -/
structure Discipline (σ : Type) (Op : Type) (Reply : Op → Type) where
  execute : (operation : Op) → σ → Reply operation × σ
  /-- Which operations may be taken in which state. -/
  permitted : σ → Op → Prop
  /-- What holds of the shared state at all times. -/
  invariant : σ → Prop
  /-- What happens to the shared state between two looks at it. -/
  later : σ → σ → Prop
  later_refl : ∀ state, later state state
  later_trans : ∀ first second third, later first second → later second third → later first third

variable (discipline : Discipline σ Op Reply)

/-- Every permitted operation of the program keeps the invariant and respects
the relation, and a finished program has reached its postcondition. -/
def Safe (post : α → σ → Prop) : Program Op Reply α → σ → Prop
  | .done value, state => post value state
  | .raise, _ => True
  | .perform operation next, state =>
      ∀ reached, discipline.later state reached → discipline.invariant reached →
        discipline.permitted reached operation →
        discipline.later reached (discipline.execute operation reached).2 ∧
          discipline.invariant (discipline.execute operation reached).2 ∧
          Safe post (next (discipline.execute operation reached).1)
            (discipline.execute operation reached).2

variable {discipline}

theorem Safe.weaken
    (safe : Safe discipline post program state)
    (implies : ∀ value reached, post value reached → other value reached) :
    Safe discipline other program state := by
  induction program generalizing state with
  | done value => exact implies value state safe
  | raise => trivial
  | perform operation next ih =>
      intro reached later holds permitted
      obtain ⟨respects, kept, rest⟩ := safe reached later holds permitted
      exact ⟨respects, kept, ih _ rest⟩

variable {fact : σ → Prop}

/-- Facts that survive what happens to the shared state survive a program. -/
theorem Safe.frame
    (safe : Safe discipline post program state) (initial : fact state)
    (stable : ∀ first second, discipline.later first second → fact first → fact second) :
    Safe discipline (fun value reached => post value reached ∧ fact reached) program state := by
  induction program generalizing state with
  | done value => exact ⟨safe, initial⟩
  | raise => trivial
  | perform operation next ih =>
      intro reached later holds permitted
      obtain ⟨respects, kept, rest⟩ := safe reached later holds permitted
      refine ⟨respects, kept, ih _ rest ?_⟩
      exact stable reached _ respects (stable state reached later initial)

/-- What the other programs do does not make a program unsafe. -/
theorem Safe.later
    {state reached : σ} (safe : Safe discipline post program state)
    (moved : discipline.later state reached)
    (stable : ∀ value first second, discipline.later first second →
      post value first → post value second) :
    Safe discipline post program reached := by
  cases program with
  | done value => exact stable value state reached moved safe
  | raise => trivial
  | perform operation next =>
      intro after later holds permitted
      exact safe after (discipline.later_trans _ _ _ moved later) holds permitted

/-- A program may rely on the postcondition of the program before it. -/
theorem Safe.andThen
    {post : β → σ → Prop} (safe : Safe discipline middle program state)
    (continued : ∀ value reached, middle value reached →
      Safe discipline post (next value) reached) :
    Safe discipline post (program.andThen next) state := by
  induction program generalizing state with
  | done value => exact continued value state safe
  | raise => trivial
  | perform operation rest ih =>
      intro reached later holds permitted
      obtain ⟨respects, kept, remaining⟩ := safe reached later holds permitted
      exact ⟨respects, kept, ih _ remaining⟩

/-- A value that may be missing is there when the program goes on. -/
theorem Safe.ofOption_andThen
    {post : β → σ → Prop}
    (continued : ∀ found, value = some found → Safe discipline post (next found) state) :
    Safe discipline post ((ofOption value).andThen next) state := by
  cases value with
  | none => trivial
  | some found => exact continued found rfl

theorem Safe.ofOption (reached : ∀ found, value = some found → post found state) :
    Safe discipline post (Program.ofOption value) state := by
  cases value with
  | none => trivial
  | some found => exact reached found rfl

/-- Both branches are safe. -/
theorem Safe.ite
    {condition : Prop} [Decidable condition]
    (whenTrue : condition → Safe discipline post first state)
    (whenFalse : ¬ condition → Safe discipline post second state) :
    Safe discipline post (if condition then first else second) state := by
  split
  · exact whenTrue ‹_›
  · exact whenFalse ‹_›

variable {items : List α}

/-- A loop is safe when a stable fact makes every turn safe. -/
theorem Safe.forEach
    {body : α → Program Op Reply Unit} (initial : fact state)
    (turns : ∀ item ∈ items, ∀ reached, fact reached →
      Safe discipline (fun _ => fact) (body item) reached) :
    Safe discipline (fun _ => fact) (forEach items body) state := by
  induction items generalizing state with
  | nil => exact initial
  | cons item rest ih =>
      refine Safe.andThen (turns item (by simp) state initial) ?_
      intro _ reached holds
      exact ih holds fun other member =>
        turns other (List.mem_cons_of_mem item member)

/-- Every operation that the program can come to is an allowed one. -/
def Uses (allowed : Op → Prop) : Program Op Reply α → Prop
  | .done _ => True
  | .raise => True
  | .perform operation next =>
      allowed operation ∧ ∀ reply, Uses allowed (next reply)

namespace Uses

variable {allowed : Op → Prop}

theorem mono
    {other : Op → Prop} (uses : program.Uses allowed)
    (implies : ∀ operation, allowed operation → other operation) : program.Uses other := by
  induction program with
  | done value => trivial
  | raise => trivial
  | perform operation next ih =>
      exact ⟨implies operation uses.1,
        fun reply => ih reply (uses.2 reply)⟩

theorem andThen
    (uses : program.Uses allowed) (continued : ∀ value, (next value).Uses allowed) :
    (program.andThen next).Uses allowed := by
  induction program with
  | done value => exact continued value
  | raise => trivial
  | perform operation rest ih =>
      exact ⟨uses.1, fun reply => ih reply (uses.2 reply)⟩

theorem ite
    {condition : Prop} [Decidable condition] (whenTrue : first.Uses allowed)
    (whenFalse : second.Uses allowed) :
    (if condition then first else second).Uses allowed := by
  split
  · exact whenTrue
  · exact whenFalse

theorem forEach
    {body : α → Program Op Reply Unit} (turns : ∀ item ∈ items, (body item).Uses allowed) :
    (Program.forEach items body).Uses allowed := by
  induction items with
  | nil => trivial
  | cons item rest ih =>
      exact (turns item (by simp)).andThen fun _ => ih
        fun other member => turns other (List.mem_cons_of_mem item member)

theorem ofOption (value : Option α) :
    (Program.ofOption value : Program Op Reply α).Uses allowed := by
  cases value <;> trivial

/-- A program of operations that keep to the discipline by themselves is safe,
and stable facts survive it. -/
theorem safe
    (uses : program.Uses allowed)
    (operations : ∀ operation, allowed operation → ∀ reached,
      discipline.invariant reached → discipline.permitted reached operation →
      discipline.later reached (discipline.execute operation reached).2 ∧
        discipline.invariant (discipline.execute operation reached).2)
    (stable : ∀ first second, discipline.later first second → fact first → fact second)
    (initial : fact state) : Safe discipline (fun _ => fact) program state := by
  induction program generalizing state with
  | done value => exact initial
  | raise => trivial
  | perform operation next ih =>
      intro reached later holds permitted
      obtain ⟨respects, kept⟩ :=
        operations operation uses.1 reached holds permitted
      refine ⟨respects, kept, ih _ (uses.2 _) ?_⟩
      exact stable reached _ respects (stable state reached later initial)

/-- What the allowed operations leave alone, a program of them leaves alone. -/
theorem runAlone_eq
    {γ : Type} {execute : (operation : Op) → σ → Reply operation × σ}
    (uses : program.Uses allowed) (view : σ → γ)
    (operations : ∀ operation, allowed operation → ∀ state,
      view (execute operation state).2 = view state)
    (state : σ) : view (runAlone execute program state).2 = view state := by
  induction program generalizing state with
  | done value => rfl
  | raise => rfl
  | perform operation next ih =>
      rw [runAlone_perform, ih _ (uses.2 _), operations operation uses.1]

/-- A program of operations that meet the condition wherever an invariant
holds, and keep it. -/
theorem checked
    {execute : (operation : Op) → σ → Reply operation × σ} {condition : σ → Op → Prop}
    {invariant : σ → Prop} (uses : program.Uses allowed)
    (operations : ∀ operation, allowed operation → ∀ reached, invariant reached →
      condition reached operation ∧ invariant (execute operation reached).2)
    (initial : invariant state) :
    program.Checked execute condition (fun _ => invariant) state := by
  induction program generalizing state with
  | done value => exact initial
  | raise => trivial
  | perform operation next ih =>
      obtain ⟨meets, kept⟩ := operations operation uses.1 state initial
      exact ⟨meets, ih _ (uses.2 _) kept⟩

end Uses

/-! ## What a program is bound to do -/

/-- On every path the program comes to an operation of this sort, and does not
stop before it. -/
def Will (expected : Op → Prop) : Program Op Reply α → Prop
  | .done _ => False
  | .raise => False
  | .perform operation next =>
      expected operation ∨ ∀ reply, Will expected (next reply)

/-- Whether a program has come to its end. -/
def isFinished : Program Op Reply α → Bool
  | .done _ => true
  | .raise => true
  | .perform _ _ => false

theorem Will.not_isFinished
    {expected : Op → Prop}
    (will : program.Will expected) : program.isFinished = false := by
  cases program with
  | done value => exact will.elim
  | raise => exact will.elim
  | perform operation next => rfl

/-- On no path does the program raise an exception. -/
def NeverRaises : Program Op Reply α → Prop
  | .done _ => True
  | .raise => False
  | .perform _ next => ∀ reply, NeverRaises (next reply)

namespace NeverRaises

theorem andThen
    (never : program.NeverRaises)
    (continued : ∀ value, (next value).NeverRaises) : (program.andThen next).NeverRaises := by
  induction program with
  | done value => exact continued value
  | raise => exact never.elim
  | perform operation rest ih =>
      intro reply
      exact ih reply (never reply)

theorem ite
    {condition : Prop} [Decidable condition] (whenTrue : first.NeverRaises)
    (whenFalse : second.NeverRaises) : (if condition then first else second).NeverRaises := by
  split
  · exact whenTrue
  · exact whenFalse

/-- Such a program comes to its end. -/
theorem exists_runAlone
    (never : program.NeverRaises) (execute : (operation : Op) → σ → Reply operation × σ)
    (state : σ) : ∃ value after, runAlone execute program state = (some value, after) := by
  induction program generalizing state with
  | done value => exact ⟨value, state, rfl⟩
  | raise => exact never.elim
  | perform operation next ih => exact ih _ (never _) _

end NeverRaises

/-! ## What a program may still do -/

/-- Some replies take the program to an operation of the one sort with no
operation of the other sort before it. -/
def May (expected barrier : Op → Prop) : Program Op Reply α → Prop
  | .done _ => False
  | .raise => False
  | .perform operation next =>
      expected operation ∨ ¬ barrier operation ∧ ∃ reply, May expected barrier (next reply)

section May

variable {expected barrier : Op → Prop}

@[simp] theorem may_done (value : α) :
    (done value : Program Op Reply α).May expected barrier ↔ False := Iff.rfl

@[simp] theorem may_raise :
    (raise : Program Op Reply α).May expected barrier ↔ False := Iff.rfl

@[simp] theorem may_perform (operation : Op) (next : Reply operation → Program Op Reply α) :
    (perform operation next).May expected barrier ↔ expected operation ∨
        ¬ barrier operation ∧ ∃ reply, (next reply).May expected barrier := Iff.rfl

end May

/-! ## What a program alone leads to -/

/-- Run alone, the program comes to its end with a value and in a state that
satisfy the postcondition.  It does not when it raises an exception. -/
def Leads
    (execute : (operation : Op) → σ → Reply operation × σ)
    (post : α → σ → Prop) : Program Op Reply α → σ → Prop
  | .done value, state => post value state
  | .raise, _ => False
  | .perform operation next, state =>
      Leads execute post (next (execute operation state).1) (execute operation state).2

section Leads

variable {execute : (operation : Op) → σ → Reply operation × σ}

@[simp] theorem leads_done (post : α → σ → Prop) (value : α) (state : σ) :
    Leads execute post (.done value : Program Op Reply α) state ↔ post value state :=
  Iff.rfl

@[simp] theorem leads_raise (post : α → σ → Prop) (state : σ) :
    Leads execute post (.raise : Program Op Reply α) state ↔ False := Iff.rfl

@[simp] theorem leads_andThen
    (post : β → σ → Prop) (program : Program Op Reply α) (next : α → Program Op Reply β)
    (state : σ) :
    Leads execute post (program.andThen next) state ↔
      Leads execute (fun value after => Leads execute post (next value) after) program
        state := by
  induction program generalizing state with
  | done value => rfl
  | raise => rfl
  | perform operation rest ih =>
      exact ih (execute operation state).1 (execute operation state).2

@[simp] theorem leads_ofOption (post : α → σ → Prop) (value : Option α) (state : σ) :
    Leads execute post (ofOption value : Program Op Reply α) state ↔
      ∃ found, value = some found ∧ post found state := by
  cases value with
  | none => simp [ofOption]
  | some found => simp [ofOption]

/-- The same in terms of the run. -/
theorem leads_iff_runAlone
    (post : α → σ → Prop) (program : Program Op Reply α) (state : σ) :
    Leads execute post program state ↔
      ∃ value after, runAlone execute program state = (some value, after) ∧ post value after := by
  induction program generalizing state with
  | done value => simp [and_assoc]
  | raise => simp
  | perform operation rest ih =>
      exact ih (execute operation state).1 (execute operation state).2

theorem Leads.imp
    (leads : Leads execute post program state)
    (implies : ∀ value after, post value after → other value after) :
    Leads execute other program state := by
  induction program generalizing state with
  | done value => exact implies value state leads
  | raise => exact leads
  | perform operation rest ih => exact ih _ leads

theorem leads_congr
    (program : Program Op Reply α) (state : σ)
    (same : ∀ value after, post value after ↔ other value after) :
    Leads execute post program state ↔ Leads execute other program state :=
  ⟨fun leads => leads.imp fun value after => (same value after).mp,
    fun leads => leads.imp fun value after => (same value after).mpr⟩

/-- A program that only looks leads to what it finds. -/
theorem leads_of_runAlone_eq
    {found : Option α} (looks : runAlone execute program state = (found, state)) :
    Leads execute post program state ↔ ∃ value, found = some value ∧ post value state := by
  rw [leads_iff_runAlone, looks]
  simp [and_assoc]

/-- A program whose run is known leads to its end. -/
theorem leads_of_runAlone
    {value : α} (ran : runAlone execute program state = (some value, after)) :
    Leads execute post program state ↔ post value after := by
  rw [leads_iff_runAlone, ran]
  simp [and_assoc]

/-- What does not depend on the program stands beside it. -/
theorem leads_and_left
    (fact : Prop) (post : α → σ → Prop) (program : Program Op Reply α) (state : σ) :
    Leads execute (fun value after => fact ∧ post value after) program state ↔
      fact ∧ Leads execute post program state := by
  rw [leads_iff_runAlone, leads_iff_runAlone]
  constructor
  · rintro ⟨value, after, ran, holds, reached⟩
    exact ⟨holds, value, after, ran, reached⟩
  · rintro ⟨holds, value, after, ran, reached⟩
    exact ⟨value, after, ran, holds, reached⟩

end Leads

namespace Pool

variable {ι : Type} {body : ι → Program Op Reply α}

variable {pool : Pool σ Op Reply α} {action : PoolAction ι}

theorem step_cases
    {execute : (operation : Op) → σ → Reply operation × σ} {pool next : Pool σ Op Reply α}
    (stepped : pool.step execute body action = some next) :
    (∃ thread call, action = .start thread call ∧ pool.threads thread = none ∧ next =
        { pool with threads := Function.update pool.threads thread (some (body call)) }) ∨
    ∃ thread operation rest, action = .advance thread ∧
      pool.threads thread = some (.perform operation rest) ∧
      next =
        { state := (execute operation pool.state).2
          threads := Function.update pool.threads thread
            (some (rest (execute operation pool.state).1)) } := by
  cases action with
  | start thread call =>
      cases present : pool.threads thread with
      | some program => simp [step, present] at stepped
      | none =>
          simp only [step, present, Option.some.injEq] at stepped
          exact .inl ⟨thread, call, rfl, present, stepped.symm⟩
  | advance thread =>
      cases present : pool.threads thread with
      | none => simp [step, present] at stepped
      | some program =>
          cases program with
          | done value => simp [step, present] at stepped
          | raise => simp [step, present] at stepped
          | perform operation rest =>
              simp only [step, present, Option.some.injEq] at stepped
              exact .inr ⟨thread, operation, rest, rfl, present, stepped.symm⟩

theorem of_update
    {threads : Nat → Option (Program Op Reply α)} {thread other : Nat}
    {changed program : Program Op Reply α}
    (running : Function.update threads thread (some changed) other = some program) :
    (other = thread ∧ program = changed) ∨ (other ≠ thread ∧ threads other = some program) := by
  by_cases same : other = thread
  · subst same
    rw [Function.update_self, Option.some.injEq] at running
    exact .inl ⟨rfl, running.symm⟩
  · rw [Function.update_of_ne same] at running
    exact .inr ⟨same, running⟩

/-- The invariant holds and every thread is safe. -/
structure Kept
    (discipline : Discipline σ Op Reply)
    (pool : Pool σ Op Reply α) : Prop where
  holds : discipline.invariant pool.state
  safe : ∀ thread program, pool.threads thread = some program →
    Safe discipline (fun _ _ => True) program pool.state

/-- Calls that may be started are safe, and the operation a thread advances by
is permitted. -/
def Permitted
    (discipline : Discipline σ Op Reply)
    (pool : Pool σ Op Reply α) : PoolAction ι → Prop
  | .start _ _ => True
  | .advance thread =>
      ∀ operation, pool.pending thread = some operation → discipline.permitted pool.state operation

theorem step_kept
    (bodies : ∀ call state, discipline.invariant state →
      Safe discipline (fun _ _ => True) (body call) state)
    (pool next : Pool σ Op Reply α)
    (action : PoolAction ι)
    (kept : pool.Kept discipline)
    (permitted : pool.Permitted discipline action)
    (stepped : pool.step discipline.execute body action = some next) :
    next.Kept discipline := by
  rcases step_cases stepped with
    ⟨thread, call, rfl, -, rfl⟩ | ⟨thread, operation, rest, rfl, present, rfl⟩
  · refine ⟨kept.holds, fun other program running => ?_⟩
    rcases of_update running with ⟨rfl, rfl⟩ | ⟨-, running⟩
    · exact bodies call pool.state kept.holds
    · exact kept.safe other program running
  · obtain ⟨respects, holds, remaining⟩ :=
      kept.safe thread _ present pool.state (discipline.later_refl pool.state) kept.holds
        (permitted operation (by simp [pending, present]))
    refine ⟨holds, fun other program running => ?_⟩
    rcases of_update running with ⟨rfl, rfl⟩ | ⟨-, running⟩
    · exact remaining
    · exact (kept.safe other program running).later respects (fun _ _ _ _ _ => trivial)

variable {actions : List (PoolAction ι)}

/-- The invariant holds in every state that a pool of safe calls reaches by
permitted operations. -/
theorem invariant_of_run
    (bodies : ∀ call state, discipline.invariant state →
      Safe discipline (fun _ _ => True) (body call) state)
    {reached : Pool σ Op Reply α}
    (initial : discipline.invariant state)
    (along : Machine.Along (step discipline.execute body)
      (Permitted discipline) (idle state) actions)
    (ran : Machine.run (step discipline.execute body) (idle state) actions = some reached) :
    discipline.invariant reached.state := by
  have kept : reached.Kept discipline := Machine.invariant_of_step
    (fun pool action next => step_kept bodies pool next action)
    ⟨initial, fun _ _ running => by simp [idle] at running⟩ along ran
  exact kept.holds

theorem step_later
    {pool next : Pool σ Op Reply α} {action : PoolAction ι} (kept : pool.Kept discipline)
    (permitted : pool.Permitted discipline action)
    (stepped : pool.step discipline.execute body action = some next) :
    discipline.later pool.state next.state := by
  rcases step_cases stepped with
    ⟨thread, call, rfl, -, rfl⟩ | ⟨thread, operation, rest, rfl, present, rfl⟩
  · exact discipline.later_refl pool.state
  · exact (kept.safe thread _ present pool.state (discipline.later_refl pool.state) kept.holds
      (permitted operation (by simp [pending, present]))).1

/-- What later states keep is kept from the first state of such a run to the last. -/
theorem later_of_run
    (bodies : ∀ call state, discipline.invariant state →
      Safe discipline (fun _ _ => True) (body call) state)
    {reached : Pool σ Op Reply α} (initial : discipline.invariant state)
    (along : Machine.Along (step discipline.execute body)
      (Permitted discipline) (idle state) actions)
    (ran : Machine.run (step discipline.execute body) (idle state) actions = some reached) :
    discipline.later state reached.state := by
  have start : (idle state : Pool σ Op Reply α).Kept discipline :=
    ⟨initial, fun _ _ running => by simp [idle] at running⟩
  have kept := Machine.invariant_of_step
    (fun pool action next (holds : pool.Kept discipline ∧ discipline.later state pool.state)
        permitted stepped =>
      (⟨step_kept bodies pool next action holds.1 permitted stepped,
        discipline.later_trans _ _ _ holds.2 (step_later holds.1 permitted stepped)⟩ :
        next.Kept discipline ∧ discipline.later state next.state))
    ⟨start, discipline.later_refl state⟩ along ran
  exact kept.2

/-- A reflexive and transitive relation that every operation respects relates the ends of every
run. -/
theorem related_of_run
    {execute : (operation : Op) → σ → Reply operation × σ} (relation : σ → σ → Prop)
    (reflexive : ∀ state, relation state state)
    (transitive : ∀ first second third, relation first second →
      relation second third → relation first third)
    (respects : ∀ operation state, relation state (execute operation state).2)
    {start finish : Pool σ Op Reply α}
    (ran : Machine.run (step execute body) start actions = some finish) :
    relation start.state finish.state := by
  refine Machine.related_of_run (fun first second => relation first.state second.state)
    (fun _ => reflexive _) (fun _ _ _ => transitive _ _ _) ?_ ran
  intro pool action next stepped
  rcases step_cases stepped with ⟨_, _, -, -, rfl⟩ | ⟨_, operation, _, -, -, rfl⟩
  · exact reflexive pool.state
  · exact respects operation pool.state

/-- No thread may come to an operation on a closed item before it looks
again. -/
def Clear
    {κ : Type} (expected : κ → Op → Prop) (barrier : Op → Prop) (closed : σ → κ → Prop)
    (pool : Pool σ Op Reply α) : Prop :=
  ∀ thread program item, pool.threads thread = some program →
    program.May (expected item) barrier → ¬ closed pool.state item

/-- A pool stays clear when a look takes in no closed item, and an item is
closed only when no thread may come to it. -/
theorem Clear.step
    {κ : Type} {expected : κ → Op → Prop} {barrier : Op → Prop} {closed : σ → κ → Prop}
    {execute : (operation : Op) → σ → Reply operation × σ}
    (bodies : ∀ call item, ¬ (body call).May (expected item) barrier)
    {pool next : Pool σ Op Reply α} (clear : pool.Clear expected barrier closed)
    (stepped : pool.step execute body action = some next)
    (looks : ∀ thread operation rest, action = .advance thread →
      pool.threads thread = some (.perform operation rest) → barrier operation →
      ∀ item, (rest (execute operation pool.state).1).May (expected item) barrier →
        ¬ closed pool.state item)
    (closes : ∀ thread operation rest, action = .advance thread →
      pool.threads thread = some (.perform operation rest) →
      ∀ item, closed (execute operation pool.state).2 item → closed pool.state item ∨
          ¬ (rest (execute operation pool.state).1).May (expected item) barrier ∧
            ∀ other program, pool.threads other = some program →
              ¬ program.May (expected item) barrier) :
    next.Clear expected barrier closed := by
  rcases step_cases stepped with
    ⟨thread, call, rfl, -, rfl⟩ | ⟨thread, operation, rest, rfl, present, rfl⟩
  · intro other program item running may
    rcases of_update running with ⟨rfl, rfl⟩ | ⟨-, running⟩
    · exact absurd may (bodies call item)
    · exact clear other program item running may
  · intro other program item running may isClosed
    have prior := closes thread operation rest rfl present item isClosed
    rcases of_update running with ⟨rfl, rfl⟩ | ⟨-, running⟩
    · rcases prior with before | ⟨own, -⟩
      · by_cases look : barrier operation
        · exact looks other operation rest rfl present look item may before
        · exact clear other _ item present (.inr ⟨look, _, may⟩) before
      · exact own may
    · rcases prior with before | ⟨-, others⟩
      · exact clear other program item running may before
      · exact others other program running may

/-! ## Finitely many threads -/

/-- All threads from a number on are idle. -/
def IdleFrom (count : Nat) (pool : Pool σ Op Reply α) : Prop :=
  ∀ thread, count ≤ thread → pool.threads thread = none

/-- The action is one of the first threads. -/
def OnThreads (count : Nat) : PoolAction ι → Prop
  | .start thread _ => thread < count
  | .advance thread => thread < count

instance OnThreads.decidable (count : Nat) :
    (action : PoolAction ι) → Decidable (OnThreads count action)
  | .start thread _ => inferInstanceAs (Decidable (thread < count))
  | .advance thread => inferInstanceAs (Decidable (thread < count))

variable {count : Nat}

theorem IdleFrom.step
    {execute : (operation : Op) → σ → Reply operation × σ} {pool next : Pool σ Op Reply α}
    (idle : pool.IdleFrom count) (below : OnThreads count action)
    (stepped : pool.step execute body action = some next) : next.IdleFrom count := by
  intro thread above
  rcases step_cases stepped with
    ⟨started, call, rfl, -, rfl⟩ | ⟨advanced, operation, rest, rfl, -, rfl⟩
  · have apart : thread ≠ started := (Nat.lt_of_lt_of_le below above).ne'
    exact (Function.update_of_ne apart _ _).trans (idle thread above)
  · have apart : thread ≠ advanced := (Nat.lt_of_lt_of_le below above).ne'
    exact (Function.update_of_ne apart _ _).trans (idle thread above)

/-- What holds when all other threads are idle or among the first ones, holds along
a run of the first threads. -/
theorem along_of_idleFrom
    {execute : (operation : Op) → σ → Reply operation × σ}
    {condition tested : Pool σ Op Reply α → PoolAction ι → Prop}
    (implies : ∀ pool action, pool.IdleFrom count → tested pool action → condition pool action)
    (idle : pool.IdleFrom count) (below : ∀ action ∈ actions, OnThreads count action)
    (along : Machine.Along (step execute body) tested pool actions) :
    Machine.Along (step execute body) condition pool actions := by
  induction actions generalizing pool with
  | nil => trivial
  | cons action rest ih =>
      refine ⟨implies pool action idle along.1, fun next stepped => ?_⟩
      exact ih (idle.step (below action (by simp)) stepped)
        (fun other member => below other (List.mem_cons_of_mem action member))
        (along.2 next stepped)

end Pool

end Program
end K1s
