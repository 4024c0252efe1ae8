import Mathlib.Data.Nat.Find

/-!
# Runs that descend

A run is seen through a view of its states.  Where a rank of the states never rises, and
falls whenever the view changes, the view changes at most as often as the first rank
says, and from some state on it stays as it is.
-/

namespace K1s

variable {ι : Type*}

/-- The rank never rises, and falls where the view changes. -/
structure Descends (view : Nat → ι) (rank : Nat → Nat) : Prop where
  bounded : ∀ index, rank (index + 1) ≤ rank index
  falls : ∀ index, view (index + 1) ≠ view index → rank (index + 1) < rank index

/-- How often the view changes in the first steps. -/
def changes [DecidableEq ι] (view : Nat → ι) (steps : Nat) : Nat :=
  (List.range steps).countP fun index => view (index + 1) ≠ view index

@[simp] theorem changes_zero [DecidableEq ι] (view : Nat → ι) : changes view 0 = 0 := rfl

theorem changes_succ [DecidableEq ι] (view : Nat → ι) (steps : Nat) :
    changes view (steps + 1) =
      changes view steps + if view (steps + 1) ≠ view steps then 1 else 0 := by
  simp [changes, List.range_succ, List.countP_append, List.countP_cons]

namespace Descends

variable {view : Nat → ι} {rank : Nat → Nat}

/-- It is enough that every step lowers the rank or keeps both. -/
theorem of_lower_or_same
    (steps : ∀ index, rank (index + 1) < rank index ∨
      view (index + 1) = view index ∧ rank (index + 1) = rank index) :
    Descends view rank := by
  constructor
  · intro index
    rcases steps index with lower | ⟨-, same⟩
    · exact Nat.le_of_lt lower
    · exact Nat.le_of_eq same
  · intro index changed
    rcases steps index with lower | ⟨same, -⟩
    · exact lower
    · exact absurd same changed

theorem rank_le
    (descends : Descends view rank)
    (start steps : Nat) : rank (start + steps) ≤ rank start := by
  induction steps with
  | zero => exact Nat.le_refl _
  | succ steps ih =>
      exact Nat.le_trans (descends.bounded (start + steps)) ih

/-- Every change uses up some of the rank. -/
theorem changes_add_rank_le
    [DecidableEq ι] (descends : Descends view rank)
    (steps : Nat) : changes view steps + rank steps ≤ rank 0 := by
  induction steps with
  | zero => simp
  | succ steps ih =>
      rw [changes_succ]
      split_ifs with changed
      · have lower := descends.falls steps changed
        omega
      · have lower := descends.bounded steps
        omega

theorem changes_le
    [DecidableEq ι] (descends : Descends view rank)
    (steps : Nat) : changes view steps ≤ rank 0 := by
  have bound := descends.changes_add_rank_le steps
  omega

/-- From a state of the least rank on, the view does not change. -/
theorem exists_stays (descends : Descends view rank) :
    ∃ start, ∀ steps, view (start + steps) = view start := by
  have reached : ∃ least start, rank start = least := ⟨rank 0, 0, rfl⟩
  classical
  obtain ⟨start, isLeast⟩ := Nat.find_spec reached
  refine ⟨start, fun steps => ?_⟩
  induction steps with
  | zero => rfl
  | succ steps ih =>
      rw [← ih]
      by_contra changed
      have lower := descends.falls (start + steps) changed
      have upper := descends.rank_le start steps
      have least := Nat.find_min' reached ⟨start + steps + 1, rfl⟩
      omega

end Descends

end K1s
