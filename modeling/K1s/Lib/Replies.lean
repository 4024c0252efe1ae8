import K1s.Lib.Program

/-!
# Programs whatever the replies are

What a program returns, and that it raises no exception, can be proved of all replies at
once where the state that the operations work on does not matter.
-/

namespace K1s
namespace Program

variable {Op : Type} {Reply : Op → Type} {α β : Type}

/-! ## What is returned -/

/-- Whatever the replies are, the program returns a value that satisfies the
postcondition, unless it raises an exception. -/
def Returns (post : α → Prop) : Program Op Reply α → Prop
  | .done value => post value
  | .raise => True
  | .perform _ next => ∀ reply, Returns post (next reply)

variable {first program second : Program Op Reply α} {condition : Prop} {σ : Type}
  {next : α → Program Op Reply β}

namespace Returns

variable {post : α → Prop}

theorem of_forall
    (always : ∀ value, post value)
    (program : Program Op Reply α) : program.Returns post := by
  induction program with
  | done value => exact always value
  | raise => trivial
  | perform operation next ih => exact ih

/-- What is known of the first value may be used. -/
theorem bind
    {middle : α → Prop} {post : β → Prop} (returns : program.Returns middle)
    (continued : ∀ value, middle value → (next value).Returns post) :
    (program.andThen next).Returns post := by
  induction program with
  | done value => exact continued value returns
  | raise => trivial
  | perform operation rest ih =>
      intro reply
      exact ih reply (returns reply)

theorem andThen
    {post : β → Prop}
    (continued : ∀ value, (next value).Returns post) : (program.andThen next).Returns post := by
  have returns : program.Returns fun _ => True := of_forall (fun _ => trivial) program
  exact returns.bind fun value _ => continued value

theorem ite
    [Decidable condition] (whenTrue : condition → first.Returns post)
    (whenFalse : ¬ condition → second.Returns post) :
    (if condition then first else second).Returns post := by
  split
  · exact whenTrue ‹_›
  · exact whenFalse ‹_›

theorem of_runAlone
    (returns : program.Returns post) {execute : (operation : Op) → σ → Reply operation × σ}
    {state : σ} {value : α}
    (ran : (runAlone execute program state).1 = some value) : post value := by
  induction program generalizing state with
  | done found =>
      obtain rfl := Option.some.inj ran
      exact returns
  | raise => cases ran
  | perform operation next ih => exact ih _ (returns _) ran

end Returns

/-! ## No exception -/

/-- The program raises no exception where the replies are as expected. -/
def Unfailing (expected : (operation : Op) → Reply operation → Prop) :
    Program Op Reply α → Prop
  | .done _ => True
  | .raise => False
  | .perform operation next =>
      ∀ reply, expected operation reply → Unfailing expected (next reply)

namespace Unfailing

variable {expected : (operation : Op) → Reply operation → Prop}

theorem andThen
    (unfailing : program.Unfailing expected)
    (continued : ∀ value, (next value).Unfailing expected) :
    (program.andThen next).Unfailing expected := by
  induction program with
  | done value => exact continued value
  | raise => exact unfailing.elim
  | perform operation rest ih =>
      intro reply isExpected
      exact ih reply (unfailing reply isExpected)

theorem ite
    [Decidable condition] (whenTrue : first.Unfailing expected)
    (whenFalse : second.Unfailing expected) :
    (if condition then first else second).Unfailing expected := by
  split
  · exact whenTrue
  · exact whenFalse

/-- What turns every exception into a value raises none. -/
theorem attempt (program : Program Op Reply α) : program.attempt.Unfailing expected := by
  induction program with
  | done value => trivial
  | raise => trivial
  | perform operation next ih =>
      intro reply _
      exact ih reply

variable {items : List α}

theorem forEach
    {body : α → Program Op Reply Unit} (bodies : ∀ item, (body item).Unfailing expected) :
    (Program.forEach items body).Unfailing expected := by
  induction items with
  | nil => trivial
  | cons item rest ih =>
      exact (bodies item).andThen fun _ => ih

theorem collect
    {body : α → Program Op Reply (List β)} (bodies : ∀ item, (body item).Unfailing expected) :
    (Program.collect items body).Unfailing expected := by
  induction items with
  | nil => trivial
  | cons item rest ih =>
      exact (bodies item).andThen fun _ => ih.andThen fun _ => trivial

/-- A run comes to its end. -/
theorem exists_of_runAlone
    (unfailing : program.Unfailing expected)
    {execute : (operation : Op) → σ → Reply operation × σ}
    (answers : ∀ operation state, expected operation (execute operation state).1)
    (state : σ) : ∃ value, (runAlone execute program state).1 = some value := by
  induction program generalizing state with
  | done value => exact ⟨value, rfl⟩
  | raise => exact unfailing.elim
  | perform operation next ih =>
      exact ih _ (unfailing _ (answers operation state)) _

end Unfailing

end Program
end K1s
