import Mathlib

/-!
# Machines whose actions may be disabled

A machine is a partial step function on states.  This module runs finite lists
of actions and gives the two rules that turn a fact about one step into a fact
about a whole run: an invariant rule, and a rule for a reflexive and transitive
relation between the first and the last state.

Both rules come with a side condition on the actions of the run, evaluated in
the state in which each action is taken.
-/

namespace K1s
namespace Machine

variable {σ α : Type*}

/-- Run a list of actions, stopping at the first disabled one. -/
def run (step : σ → α → Option σ) : σ → List α → Option σ
  | state, [] => some state
  | state, action :: rest =>
      (step state action).bind fun next => run step next rest

@[simp] theorem run_nil (step : σ → α → Option σ) (state : σ) :
    run step state [] = some state := rfl

theorem run_cons_eq_some
    (step : σ → α → Option σ) (start finish : σ) (action : α) (rest : List α) :
    run step start (action :: rest) = some finish ↔ ∃ next, step start action = some next ∧
        run step next rest = some finish := by
  simp [run, Option.bind_eq_some_iff]

/-- A run over a concatenation passes through a middle state. -/
theorem run_append_eq_some
    (step : σ → α → Option σ) (start finish : σ) (front back : List α) :
    run step start (front ++ back) = some finish ↔ ∃ middle, run step start front = some middle ∧
        run step middle back = some finish := by
  induction front generalizing start with
  | nil => simp
  | cons action rest ih =>
      simp only [List.cons_append, run_cons_eq_some, ih]
      constructor
      · rintro ⟨next, stepped, middle, prior, after⟩
        exact ⟨middle, ⟨next, stepped, prior⟩, after⟩
      · rintro ⟨middle, ⟨next, stepped, prior⟩, after⟩
        exact ⟨next, stepped, middle, prior, after⟩

/-- Every action of the run meets `condition` in the state it is taken in. -/
def Along (step : σ → α → Option σ) (condition : σ → α → Prop) :
    σ → List α → Prop
  | _, [] => True
  | state, action :: rest =>
      condition state action ∧
        ∀ next, step state action = some next → Along step condition next rest

/-- A weaker condition holds along the same run. -/
theorem Along.weaken
    {step : σ → α → Option σ} {condition other : σ → α → Prop} {start : σ}
    {actions : List α} (along : Along step condition start actions)
    (implies : ∀ state action, condition state action → other state action) :
    Along step other start actions := by
  induction actions generalizing start with
  | nil => trivial
  | cons action rest ih =>
      exact ⟨implies start action along.1, fun next stepped =>
        ih (along.2 next stepped)⟩

/-- A permitted step in front of a permitted run. -/
theorem Along.cons
    {step : σ → α → Option σ} {condition : σ → α → Prop} {start next : σ} {action : α}
    {rest : List α} (stepped : step start action = some next)
    (meets : condition start action) (along : Along step condition next rest) :
    Along step condition start (action :: rest) := by
  refine ⟨meets, ?_⟩
  intro other otherStep
  rw [stepped] at otherStep
  exact Option.some.inj otherStep ▸ along

/-- A decidable condition can be checked by taking the run. -/
instance Along.decidable
    (step : σ → α → Option σ) (condition : σ → α → Prop)
    [∀ state action, Decidable (condition state action)] :
    (state : σ) → (actions : List α) → Decidable (Along step condition state actions)
  | _, [] => inferInstanceAs (Decidable True)
  | state, action :: rest =>
      match stepped : step state action with
      | none =>
          decidable_of_iff (condition state action) (by simp [Along, stepped])
      | some next =>
          have := Along.decidable step condition next rest
          decidable_of_iff (condition state action ∧ Along step condition next rest)
            (by simp [Along, stepped])

/-- A condition holds along a run if it holds of each action in the state that the
actions before it lead to. -/
theorem along_of_prefixes
    {step : σ → α → Option σ} {condition : σ → α → Prop}
    [∀ state action, Decidable (condition state action)] {start : σ} {actions : List α}
    (holds : (List.range actions.length).all (fun number =>
      (run step start (actions.take number)).all fun state =>
        (actions[number]?).all fun action => decide (condition state action))) :
    Along step condition start actions := by
  induction actions generalizing start with
  | nil => trivial
  | cons action rest ih =>
      rw [List.all_eq_true] at holds
      have first := holds 0 (by simp)
      refine ⟨by simpa using first, fun next stepped => ih ?_⟩
      rw [List.all_eq_true]
      intro number small
      have later := holds (number + 1) (by simpa using small)
      simpa [run, stepped] using later

/-- The condition of a run holds of both parts of a split run. -/
theorem Along.split
    {step : σ → α → Option σ} {condition : σ → α → Prop} {start middle : σ}
    {front back : List α} (along : Along step condition start (front ++ back))
    (prior : run step start front = some middle) :
    Along step condition start front ∧ Along step condition middle back := by
  induction front generalizing start with
  | nil =>
      simp only [run_nil, Option.some.injEq] at prior
      subst middle
      exact ⟨trivial, along⟩
  | cons action rest ih =>
      obtain ⟨next, stepped, remaining⟩ :=
        (run_cons_eq_some step start middle action rest).mp prior
      obtain ⟨meets, continued⟩ := along
      refine ⟨⟨meets, ?_⟩, ?_⟩
      · intro other otherStep
        obtain rfl : next = other := by
          rw [stepped] at otherStep
          exact Option.some.inj otherStep
        exact (ih (continued next stepped) remaining).1
      · exact (ih (continued next stepped) remaining).2

/-- What every permitted step preserves holds at the end of every run whose
actions are all permitted. -/
theorem invariant_of_step
    {step : σ → α → Option σ} {condition : σ → α → Prop} {invariant : σ → Prop}
    (preserves : ∀ state action next, invariant state →
      condition state action → step state action = some next → invariant next)
    {start finish : σ}
    {actions : List α}
    (initial : invariant start)
    (along : Along step condition start actions)
    (ran : run step start actions = some finish) : invariant finish := by
  induction actions generalizing start with
  | nil =>
      simp only [run_nil, Option.some.injEq] at ran
      exact ran ▸ initial
  | cons action rest ih =>
      obtain ⟨next, stepped, remaining⟩ :=
        (run_cons_eq_some step start finish action rest).mp ran
      exact ih (preserves start action next initial along.1 stepped)
        (along.2 next stepped) remaining

/-- Two conditions that agree in the states that satisfy an invariant of all steps
hold along the same runs. -/
theorem along_iff_of_invariant
    {step : σ → α → Option σ} {condition other : σ → α → Prop} {invariant : σ → Prop}
    (preserves : ∀ state action next, invariant state →
      step state action = some next → invariant next)
    (same : ∀ state action, invariant state → (condition state action ↔ other state action))
    {start : σ}
    (initial : invariant start)
    (actions : List α) :
    Along step condition start actions ↔ Along step other start actions := by
  induction actions generalizing start with
  | nil => exact Iff.rfl
  | cons action rest ih =>
      refine and_congr (same start action initial) (forall_congr' fun next => ?_)
      refine imp_congr_right fun stepped => ?_
      exact ih (preserves start action next initial stepped)

/-- A condition holds along every run whose actions meet another one, when an
invariant that such actions keep gives it. -/
theorem along_of_invariant
    {step : σ → α → Option σ} {condition other : σ → α → Prop} {invariant : σ → Prop}
    (preserves : ∀ state action next, invariant state → condition state action →
      step state action = some next → invariant next)
    (implies : ∀ state action, invariant state → condition state action → other state action)
    {start : σ}
    {actions : List α}
    (initial : invariant start)
    (along : Along step condition start actions) : Along step other start actions := by
  induction actions generalizing start with
  | nil => trivial
  | cons action rest ih =>
      refine ⟨implies start action initial along.1, fun next stepped => ?_⟩
      exact ih (preserves start action next initial along.1 stepped)
        (along.2 next stepped)

/-- Two conditions agree along every run when they agree wherever an invariant
holds that the steps which meet the first keep. -/
theorem along_iff_of_step
    {step : σ → α → Option σ} {condition other : σ → α → Prop} {invariant : σ → Prop}
    (preserves : ∀ state action next, invariant state → condition state action →
      step state action = some next → invariant next)
    (same : ∀ state action, invariant state → (condition state action ↔ other state action))
    {start : σ}
    (initial : invariant start)
    (actions : List α) :
    Along step condition start actions ↔ Along step other start actions := by
  induction actions generalizing start with
  | nil => exact Iff.rfl
  | cons action rest ih =>
      constructor
      · rintro ⟨meets, along⟩
        refine ⟨(same start action initial).mp meets, fun next stepped => ?_⟩
        exact (ih (preserves start action next initial meets stepped)).mp
          (along next stepped)
      · rintro ⟨meets, along⟩
        have meets := (same start action initial).mpr meets
        refine ⟨meets, fun next stepped => ?_⟩
        exact (ih (preserves start action next initial meets stepped)).mpr
          (along next stepped)

/-- A reflexive and transitive relation that every permitted step respects
relates the two ends of every run whose actions are all permitted. -/
theorem related_of_step
    {step : σ → α → Option σ} {condition : σ → α → Prop} (relation : σ → σ → Prop)
    (reflexive : ∀ state, relation state state)
    (transitive : ∀ first second third, relation first second →
      relation second third → relation first third)
    (respects : ∀ state action next, condition state action →
      step state action = some next → relation state next)
    {start finish : σ}
    {actions : List α}
    (along : Along step condition start actions)
    (ran : run step start actions = some finish) : relation start finish := by
  induction actions generalizing start with
  | nil =>
      simp only [run_nil, Option.some.injEq] at ran
      exact ran ▸ reflexive start
  | cons action rest ih =>
      obtain ⟨next, stepped, remaining⟩ :=
        (run_cons_eq_some step start finish action rest).mp ran
      exact transitive start next finish (respects start action next along.1 stepped)
        (ih (along.2 next stepped) remaining)

/-! Runs whose actions are under no condition. -/

theorem along_of_forall
    {step : σ → α → Option σ} {condition : σ → α → Prop}
    (always : ∀ state action, condition state action) (start : σ)
    (actions : List α) : Along step condition start actions := by
  induction actions generalizing start with
  | nil => trivial
  | cons action rest ih =>
      exact ⟨always start action, fun next _ => ih next⟩

theorem invariant_of_run
    {step : σ → α → Option σ} {invariant : σ → Prop}
    (preserves : ∀ state action next, invariant state →
      step state action = some next → invariant next)
    {start finish : σ}
    {actions : List α}
    (initial : invariant start)
    (ran : run step start actions = some finish) : invariant finish :=
  invariant_of_step (fun state action next holds (_ : True) => preserves state action next holds)
    initial (along_of_forall (fun _ _ => trivial) start actions) ran

theorem related_of_run
    {step : σ → α → Option σ} (relation : σ → σ → Prop)
    (reflexive : ∀ state, relation state state)
    (transitive : ∀ first second third, relation first second →
      relation second third → relation first third)
    (respects : ∀ state action next, step state action = some next → relation state next)
    {start finish : σ}
    {actions : List α}
    (ran : run step start actions = some finish) : relation start finish :=
  related_of_step relation reflexive transitive
    (fun state action next (_ : True) => respects state action next)
    (along_of_forall (fun _ _ => trivial) start actions) ran

end Machine
end K1s
