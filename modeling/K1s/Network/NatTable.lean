import K1s.Lib.Dictionary
import K1s.Py.Text

/-!
# The service chains of the NAT table

The commands that `IptablesProvider` sends to `iptables -t nat`, on the chains that it
makes: a base chain of jumps, and one chain of backends for each service port.  A command
that `iptables` refuses changes nothing.  Addresses are compared as texts.
-/

namespace K1s
namespace Network

/-- `-p proto --dport dport -d dest -j target`. -/
structure JumpRule where
  dest : String
  dport : Int
  proto : String
  target : String
  deriving DecidableEq

/-- `-p proto -j DNAT --to-destination host:port`, with the probability of a random
choice in units of 0.00001. -/
structure BackendRule where
  proto : String
  probability : Option Nat
  host : String
  port : Int
  deriving DecidableEq

/-- Which rules are well formed. -/
structure RuleChecks where
  jump : JumpRule → Bool
  backend : BackendRule → Bool

/-- The base chain, once there is one, and the chains of the service ports. -/
structure NatTable where
  base : Option (List JumpRule)
  chains : Dictionary String (List BackendRule)

namespace NatTable

variable (checks : RuleChecks) (table : NatTable)

def jumps : List JumpRule := table.base.getD []

/-- `_ensure_chain` of the base chain. -/
def ensureBase : NatTable := { table with base := some table.jumps }

/-- `_ensure_chain` of the chain of a port. -/
def ensureChain (name : String) : NatTable :=
  { table with chains := table.chains.set name ((table.chains.find? name).getD []) }

def flushChain (name : String) : NatTable :=
  match table.chains.find? name with
  | none => table
  | some _ => { table with chains := table.chains.set name [] }

def appendBackend (name : String) (rule : BackendRule) : NatTable :=
  match table.chains.find? name with
  | none => table
  | some rules =>
      if checks.backend rule then { table with chains := table.chains.set name (rules ++ [rule]) }
      else table

/-- `_ensure_jump` from the base chain. -/
def ensureJump (rule : JumpRule) : NatTable :=
  match table.base with
  | none => table
  | some jumps =>
      if rule ∈ jumps then table
      else if checks.jump rule ∧ (table.chains.find? rule.target).isSome then
        { table with base := some (jumps ++ [rule]) }
      else table

/-- `_delete_jump` from the base chain. -/
def deleteJump (rule : JumpRule) : NatTable :=
  { table with base := table.base.map fun jumps => jumps.erase rule }

/-- `_delete_chain`: a chain that a jump still leads to is only emptied. -/
def deleteChain (name : String) : NatTable :=
  let flushed := table.flushChain name
  if flushed.jumps.any fun rule => decide (rule.target = name) then flushed
  else { flushed with chains := flushed.chains.drop name }

/-! ## What the commands do -/

@[simp] theorem jumps_ensureBase : table.ensureBase.jumps = table.jumps := rfl

@[simp] theorem jumps_ensureChain (name : String) :
    (table.ensureChain name).jumps = table.jumps := rfl

@[simp] theorem base_ensureChain (name : String) :
    (table.ensureChain name).base = table.base := rfl

@[simp] theorem base_flushChain (name : String) : (table.flushChain name).base = table.base := by
  unfold flushChain
  split <;> rfl

@[simp] theorem jumps_flushChain (name : String) :
    (table.flushChain name).jumps = table.jumps := by
  rw [jumps, base_flushChain, jumps]

@[simp] theorem base_appendBackend (name : String) (rule : BackendRule) :
    (table.appendBackend checks name rule).base = table.base := by
  unfold appendBackend
  split
  · rfl
  · split <;> rfl

@[simp] theorem chains_ensureJump (rule : JumpRule) :
    (table.ensureJump checks rule).chains = table.chains := by
  unfold ensureJump
  split
  · rfl
  · split
    · rfl
    · split <;> rfl

theorem find?_ensureChain (name other : String) :
    (table.ensureChain name).chains.find? other =
      if name = other then some ((table.chains.find? name).getD []) else
        table.chains.find? other :=
  Dictionary.find?_set ..

theorem find?_flushChain (name other : String) :
    (table.flushChain name).chains.find? other =
      if name = other then (table.chains.find? name).map fun _ => [] else
        table.chains.find? other := by
  unfold flushChain
  cases present : table.chains.find? name with
  | none =>
      dsimp only
      split
      · next same => rw [← same, present, Option.map_none]
      · rfl
  | some rules => exact Dictionary.find?_set ..

theorem find?_appendBackend
    (name other : String) {rule : BackendRule} (accepted : checks.backend rule) :
    (table.appendBackend checks name rule).chains.find? other =
      if name = other then (table.chains.find? name).map fun rules => rules ++ [rule] else
        table.chains.find? other := by
  unfold appendBackend
  cases present : table.chains.find? name with
  | none =>
      dsimp only
      split
      · next same => rw [← same, present, Option.map_none]
      · rfl
  | some rules =>
      simp only [accepted, if_true]
      exact Dictionary.find?_set ..

theorem jumps_ensureJump
    {rule : JumpRule} (ready : table.base.isSome) (accepted : checks.jump rule)
    (target : (table.chains.find? rule.target).isSome) :
    (table.ensureJump checks rule).jumps =
      if rule ∈ table.jumps then table.jumps else table.jumps ++ [rule] := by
  obtain ⟨jumps, present⟩ := Option.isSome_iff_exists.mp ready
  have isJumps : table.jumps = jumps := by rw [NatTable.jumps, present, Option.getD_some]
  rw [isJumps]
  unfold ensureJump
  rw [present]
  dsimp only
  split
  · exact isJumps
  · rw [if_pos ⟨accepted, target⟩]
    rfl

theorem base_ensureJump (rule : JumpRule) (ready : table.base.isSome) :
    (table.ensureJump checks rule).base.isSome := by
  unfold ensureJump
  split
  · exact ready
  · split
    · exact ready
    · split
      · rfl
      · exact ready

@[simp] theorem jumps_deleteJump (rule : JumpRule) :
    (table.deleteJump rule).jumps = table.jumps.erase rule := by
  unfold deleteJump jumps
  cases table.base with
  | none => rfl
  | some jumps => rfl

@[simp] theorem jumps_deleteChain (name : String) :
    (table.deleteChain name).jumps = table.jumps := by
  unfold deleteChain
  dsimp only
  split
  · rw [jumps_flushChain]
  · exact jumps_flushChain table name

theorem find?_deleteChain
    {name : String} (free : ∀ rule ∈ table.jumps, rule.target ≠ name) (other : String) :
    (table.deleteChain name).chains.find? other =
      if name = other then none else table.chains.find? other := by
  have unreferenced : ((table.flushChain name).jumps.any fun rule =>
      decide (rule.target = name)) = false := by
    rw [jumps_flushChain, List.any_eq_false]
    intro rule listed
    rw [decide_eq_true_eq]
    exact free rule listed
  unfold deleteChain
  dsimp only
  rw [if_neg (by rw [unreferenced]; exact Bool.false_ne_true), Dictionary.find?_drop]
  split
  · rfl
  · next different => rw [find?_flushChain, if_neg different]

end NatTable

end Network
end K1s
