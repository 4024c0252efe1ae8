import K1s.Lib.FirstHit
import K1s.Network.ServiceNat

/-!
# The choice of a backend

The rules that `IptablesProvider._add_backend_rules` writes to the chain of a port,
with the probabilities of the statistic match as exact rationals, and the walk of a
packet along them.  A packet goes where the first rule that matches it sends it.  The
jump that leads to the chain takes packets of the protocol of its rules only.

The main result is that the walk of a packet ends at each of the `n` backends with
probability `1 / n`.  The written rules are the exact ones, with each probability
rounded to five digits.
-/

namespace K1s
namespace Network

open scoped NNReal ENNReal
open Py FirstHit

/-! ## The rules -/

/-- `-p proto -m statistic --mode random --probability p -j DNAT`, where a rule without
the statistic match has no probability. -/
structure ExactRule where
  proto : String
  probability : Option { probability : ℚ≥0 // probability ≤ 1 }
  target : String × Int
  deriving DecidableEq

/-- `1.0 / float(count)`. -/
def oneOutOf (count : Nat) : { probability : ℚ≥0 // probability ≤ 1 } :=
  ⟨(count : ℚ≥0)⁻¹, Nat.cast_inv_le_one count⟩

variable (backends : List (String × Int)) (proto packetProto : String)

def addBackendRules : List ExactRule :=
  let count := backends.length
  match backends with
  | [] => []
  | [backend] => [⟨lower proto, none, backend⟩]
  | _ =>
      backends.zipIdx.map fun (backend, idx) =>
        { proto := lower proto
          probability := if idx < count - 1 then some (oneOutOf (count - idx)) else none
          target := backend }

example :
    (addBackendRules [("a", 80), ("b", 80), ("c", 80)] "TCP").map
        (fun rule => rule.probability.map Subtype.val) =
      [some (1 / 3), some (1 / 2), none] := by
  decide +kernel

/-! ## The walk of a packet -/

namespace ExactRule

/-- The probability that the rule matches a packet of a protocol. -/
noncomputable def chance (rule : ExactRule) : Chance :=
  if rule.proto = packetProto then
    match rule.probability with
    | none => oneIn 1
    | some probability => ⟨(probability.1 : ℝ≥0), by exact_mod_cast probability.2⟩
  else ⟨0, zero_le_one⟩

end ExactRule

/-- The label of the rule that a packet matches first, if it matches one. -/
noncomputable def walk {α : Type} (rules : List ExactRule) (labels : List α) : PMF (Option α) :=
  firstHit ((rules.map fun rule => rule.chance packetProto).zip labels)

/-- The position of the rule that a packet matches first. -/
noncomputable def matchedRule (rules : List ExactRule) : PMF (Option Nat) :=
  walk packetProto rules (List.range rules.length)

noncomputable def sentTo (rules : List ExactRule) : PMF (Option (String × Int)) :=
  walk packetProto rules (rules.map ExactRule.target)

/-! ## The rules are fair -/

def ruleAt (count : Nat) (backend : String × Int) (idx : Nat) : ExactRule where
  proto := proto
  probability := if idx < count - 1 then some (oneOutOf (count - idx)) else none
  target := backend

theorem addBackendRules_eq :
    addBackendRules backends proto = backends.zipIdx.map fun entry =>
        ruleAt (lower proto) backends.length entry.1 entry.2 := by
  match backends with
  | [] => rfl
  | [backend] => rfl
  | first :: second :: rest => rfl

@[simp] theorem length_addBackendRules :
    (addBackendRules backends proto).length = backends.length := by
  rw [addBackendRules_eq, List.length_map, List.length_zipIdx]

/-- The rules send to the backends in their order. -/
@[simp] theorem targets_addBackendRules :
    (addBackendRules backends proto).map ExactRule.target = backends := by
  rw [addBackendRules_eq, List.map_map]
  exact List.zipIdx_map_fst 0 backends

/-- The rule at `idx` matches one packet out of those that are left. -/
theorem chance_ruleAt
    {proto : String} {count idx : Nat} (backend : String × Int) (inside : idx < count) :
    (ruleAt proto count backend idx).chance proto = oneIn (count - idx) := by
  unfold ExactRule.chance ruleAt
  rw [if_pos rfl]
  by_cases before : idx < count - 1
  · simp only [if_pos before]
    apply Subtype.ext
    exact (NNRat.cast_inv _).trans (congrArg _ (NNRat.cast_natCast _))
  · have last : count - idx = 1 := by omega
    simp only [if_neg before, last]

theorem chances_zipIdx (backends : List (String × Int)) (start : Nat) :
    ((backends.zipIdx start).map fun entry =>
        (ruleAt proto (start + backends.length) entry.1 entry.2).chance proto) =
      fairChances backends.length := by
  induction backends generalizing start with
  | nil => rfl
  | cons backend rest ih =>
      have later := ih (start + 1)
      rw [List.zipIdx_cons, List.map_cons, List.length_cons, fairChances,
        chance_ruleAt backend (by omega), Nat.add_sub_cancel_left]
      rw [show start + 1 + rest.length = start + (rest.length + 1) by omega] at later
      rw [later]

/-- A packet of the protocol meets fair tries. -/
theorem walk_addBackendRules
    {α : Type} (labels : List α) (oneEach : labels.length = backends.length) :
    walk (lower proto) (addBackendRules backends proto) labels = firstHit (fairTries labels) := by
  have chances := chances_zipIdx (lower proto) backends 0
  rw [Nat.zero_add] at chances
  rw [walk, addBackendRules_eq, List.map_map, fairTries, oneEach, ← chances]
  rfl

/-- The walk ends at the rule of each of the backends with probability `1 / n`, it
always ends at a rule, and a backend that is listed several times gets as many
shares. -/
theorem backends_fair
    (backends : List (String × Int)) (proto : String) (nonempty : backends ≠ []) :
    (∀ idx < backends.length,
      matchedRule (lower proto) (addBackendRules backends proto) (some idx) =
          (backends.length : ℝ≥0∞)⁻¹ ∧
        ((addBackendRules backends proto)[idx]?.map ExactRule.target) = backends[idx]?) ∧
      matchedRule (lower proto) (addBackendRules backends proto) none = 0 ∧
      ∀ backend, sentTo (lower proto) (addBackendRules backends proto) (some backend) =
          (backends.count backend : ℝ≥0∞) * (backends.length : ℝ≥0∞)⁻¹ := by
  have positive : (backends.length : ℝ≥0) ≠ 0 := by simpa using nonempty
  have positions : matchedRule (lower proto) (addBackendRules backends proto) =
      firstHit (fairTries (List.range backends.length)) := by
    rw [matchedRule, length_addBackendRules]
    exact walk_addBackendRules backends proto _ List.length_range
  have destinations : sentTo (lower proto) (addBackendRules backends proto) =
      firstHit (fairTries backends) := by
    rw [sentTo, targets_addBackendRules]
    exact walk_addBackendRules backends proto _ rfl
  refine ⟨fun idx inside => ⟨?_, ?_⟩, ?_, fun backend => ?_⟩
  · have once : (List.range backends.length).count idx = 1 :=
      List.count_eq_one_of_mem List.nodup_range (List.mem_range.2 inside)
    rw [positions, firstHit_fairTries_some, once, List.length_range, Nat.cast_one, one_mul,
      ENNReal.coe_inv positive, ENNReal.coe_natCast]
  · rw [← List.getElem?_map, targets_addBackendRules]
  · rw [positions]
    exact firstHit_fairTries_none _ (by simpa using nonempty)
  · rw [destinations, firstHit_fairTries_some, ENNReal.coe_mul, ENNReal.coe_inv positive,
      ENNReal.coe_natCast, ENNReal.coe_natCast]

theorem backends_fair_three :
    (∀ idx < 3, matchedRule (lower "TCP")
        (addBackendRules [("a", 80), ("b", 80), ("c", 80)] "TCP") (some idx) = (3 : ℝ≥0∞)⁻¹) ∧
      matchedRule (lower "TCP")
        (addBackendRules [("a", 80), ("b", 80), ("c", 80)] "TCP") none = 0 := by
  have fair := backends_fair [("a", 80), ("b", 80), ("c", 80)] "TCP" (by decide)
  exact ⟨fun idx inside => (fair.1 idx inside).1, fair.2.1⟩

/-! ## What the commands say -/

end Network
end K1s
