import K1s.Lib.Machine

/-!
# Refinement in lock step

An implementation and its specification take the same actions.  The specification may
ask the implementation how it answers an action, and has a state of its own.  The
implementation refines the specification along a run when its view agrees with that
state after every front of the run.

The rule of this module turns this into a condition on single steps.
-/

namespace K1s
namespace LockStep

open Machine

variable {σ τ α : Type*}
  (step : σ → α → σ)
  (view : σ → τ)
  (spec : σ → τ → α → τ)

def specRun : σ → τ → List α → τ
  | _, state, [] => state
  | system, state, action :: rest =>
      specRun (step system action) (spec system state action) rest

/-- After every front of the run, the view of the implementation is the state of the
specification. -/
def Refines (system : σ) (actions : List α) : Prop :=
  ∀ front, front <+: actions →
    view (front.foldl step system) = specRun step spec system (view system) front

/-- The step does to the view what the specification does to its state. -/
def Agrees (system : σ) (action : α) : Prop :=
  view (step system action) = spec system (view system) action

/-- A run refines its specification exactly when every step of it agrees. -/
theorem refines_iff (system : σ) (actions : List α) :
    Refines step view spec system actions ↔
      Along (fun system action => some (step system action)) (Agrees step view spec) system
        actions := by
  induction actions generalizing system with
  | nil =>
      refine iff_of_true (fun front isFront => ?_) trivial
      rw [List.prefix_nil.mp isFront]
      rfl
  | cons action rest ih =>
      constructor
      · intro refines
        have agrees : Agrees step view spec system action :=
          refines [action] (List.prefix_append [action] rest)
        refine ⟨agrees, fun next stepped => ?_⟩
        obtain rfl := Option.some.inj stepped
        refine (ih (step system action)).mp fun front isFront => ?_
        have whole := refines (action :: front) ((List.prefix_cons_inj action).mpr isFront)
        rw [List.foldl_cons, specRun] at whole
        rw [whole, ← show view (step system action) = spec system (view system) action from
          agrees]
      · rintro ⟨agrees, along⟩ front isFront
        cases front with
        | nil => rfl
        | cons first others =>
            obtain ⟨rfl, isRest⟩ := List.cons_prefix_cons.mp isFront
            have later := (ih (step system first)).mpr (along _ rfl) others isRest
            rw [List.foldl_cons, specRun, later]
            rw [show view (step system first) = spec system (view system) first from agrees]

end LockStep
end K1s
