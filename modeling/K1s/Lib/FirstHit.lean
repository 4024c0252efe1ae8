import Mathlib.Probability.ProbabilityMassFunction.Constructions
import Mathlib.Data.List.Count
import Mathlib.Tactic.FieldSimp
import Mathlib.Tactic.Linarith

/-!
# The first hit of a list of independent tries

Tries are made one after the other until one hits.  A list of `n` tries is fair if
each of them hits with the probability of one in those that are left: the first
with `1 / n`, the last for certain.  Then some try hits, and all are equally likely
to be the first.
-/

namespace K1s
namespace FirstHit

open scoped NNReal ENNReal

abbrev Chance := { probability : ℝ≥0 // probability ≤ 1 }

noncomputable def oneIn (count : ℕ) : Chance :=
  ⟨(count : ℝ≥0)⁻¹, Nat.cast_inv_le_one count⟩

@[simp] theorem coe_oneIn (count : ℕ) :
    ((oneIn count).1 : ℝ≥0∞) = ((count : ℝ≥0)⁻¹ : ℝ≥0) := rfl

noncomputable def hits (chance : Chance) : PMF Bool :=
  PMF.ofFintype (fun hit => (if hit then chance.1 else 1 - chance.1 : ℝ≥0)) (by
    have total : chance.1 + (1 - chance.1) = 1 := add_tsub_cancel_of_le chance.2
    rw [Fintype.sum_bool, ← ENNReal.coe_add]
    exact congrArg ENNReal.ofNNReal total)

variable {α : Type}

/-- What the first hit is labelled with, if there is a hit. -/
noncomputable def firstHit : List (Chance × α) → PMF (Option α)
  | [] => PMF.pure none
  | (chance, label) :: rest =>
      (hits chance).bind fun hit =>
        if hit then PMF.pure (some label) else firstHit rest

@[simp] theorem firstHit_nil : firstHit ([] : List (Chance × α)) = PMF.pure none := rfl

/-- Either the head hits, or the first hit is one of the rest. -/
theorem firstHit_cons_apply
    [DecidableEq α] (chance : Chance) (label : α) (rest : List (Chance × α))
    (outcome : Option α) :
    firstHit ((chance, label) :: rest) outcome =
      chance.1 * (if outcome = some label then 1 else 0) +
        (1 - chance.1 : ℝ≥0) * firstHit rest outcome := by
  rw [firstHit, PMF.bind_apply, tsum_bool, add_comm]
  simp [hits, PMF.pure_apply]

noncomputable def fairChances : ℕ → List Chance
  | 0 => []
  | count + 1 => oneIn (count + 1) :: fairChances count

noncomputable def fairTries (labels : List α) : List (Chance × α) :=
  (fairChances labels.length).zip labels

@[simp] theorem fairTries_nil : fairTries ([] : List α) = [] := rfl

@[simp] theorem fairTries_cons (label : α) (rest : List α) :
    fairTries (label :: rest) = (oneIn (rest.length + 1), label) :: fairTries rest := rfl

/-- What is left of a try that hits with one in `count + 1`. -/
theorem one_sub_oneIn_succ (count : ℕ) :
    (1 - (oneIn (count + 1)).1 : ℝ≥0) = count * ((count + 1 : ℕ) : ℝ≥0)⁻¹ := by
  apply tsub_eq_of_eq_add
  have positive : ((count + 1 : ℕ) : ℝ≥0) ≠ 0 := Nat.cast_ne_zero.2 (Nat.succ_ne_zero count)
  have total : (count * ((count + 1 : ℕ) : ℝ≥0)⁻¹ + ((count + 1 : ℕ) : ℝ≥0)⁻¹ : ℝ≥0) = 1 := by
    rw [← add_one_mul, ← Nat.cast_succ, mul_inv_cancel₀ positive]
  exact total.symm

/-- A fair list never misses. -/
theorem firstHit_fairTries_none (labels : List α) (nonempty : labels ≠ []) :
    firstHit (fairTries labels) none = 0 := by
  classical
  induction labels with
  | nil => exact absurd rfl nonempty
  | cons label rest ih =>
      rw [fairTries_cons, firstHit_cons_apply]
      cases rest with
      | nil => simp [oneIn]
      | cons next others =>
          rw [ih (List.cons_ne_nil next others)]
          simp

/-- Each label comes up as often as it stands in a fair list. -/
theorem firstHit_fairTries_some [BEq α] [LawfulBEq α] (labels : List α) (wanted : α) :
    firstHit (fairTries labels) (some wanted) =
      ((labels.count wanted * (labels.length : ℝ≥0)⁻¹ : ℝ≥0) : ℝ≥0∞) := by
  classical
  induction labels with
  | nil => simp [PMF.pure_apply]
  | cons label rest ih =>
      rw [fairTries_cons, firstHit_cons_apply, ih, one_sub_oneIn_succ]
      have telescopes : (rest.length * ((rest.length + 1 : ℕ) : ℝ≥0)⁻¹ *
          (rest.count wanted * (rest.length : ℝ≥0)⁻¹) : ℝ≥0) =
            rest.count wanted * ((rest.length + 1 : ℕ) : ℝ≥0)⁻¹ := by
        cases rest with
        | nil => simp
        | cons next others =>
            have positive : ((next :: others).length : ℝ≥0) ≠ 0 := by simp
            field_simp
      rw [← ENNReal.coe_mul, telescopes, coe_oneIn, List.length_cons]
      by_cases same : wanted = label
      · rw [same, if_pos rfl, mul_one, List.count_cons_self, ← ENNReal.coe_add,
          Nat.cast_succ (rest.count label), add_one_mul, add_comm]
      · rw [if_neg (by simpa using same), mul_zero, zero_add, List.count_cons_of_ne (Ne.symm same)]

end FirstHit
end K1s
