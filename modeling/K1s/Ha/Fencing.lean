import K1s.Lib.Machine

/-!
# The mutation fence of an executor

`SQLiteFenceStore` keeps, for every executor scope, the controller identity and
epoch it last accepted, and the identifiers of the operations it committed.
Executors bracket every mutation with `begin` and `commit`.

The two calls are modelled first as functions on the two tables.  `begin` reads
both tables in statements of their own before it opens the transaction that
writes, so the module then splits it into the statements that other calls can
be interleaved with, and adds the executor's side of a delivery.
-/

namespace K1s
namespace Ha

/-- The controller identity and operation a mutating request carries. -/
structure MutationEnvelope where
  controllerId : String
  controllerEpoch : Int
  operationId : String
  deriving DecidableEq

/-- A row of `fence_scopes`, without its primary key. -/
structure FenceScopeState where
  controllerId : String
  controllerEpoch : Int
  updatedAt : String
  deriving DecidableEq

/-- A row of `fence_operations`, without its primary key. -/
structure FenceOperation where
  controllerId : String
  controllerEpoch : Int
  committedAt : String
  deriving DecidableEq

/-- The three answers of `begin`. -/
inductive FenceStatus
  | accept
  | duplicate
  | stale
  deriving DecidableEq

/-- The answer of `begin` with the scope's row. -/
structure FenceDecision where
  status : FenceStatus
  current : Option FenceScopeState
  epochAdvanced : Bool := false
  deriving DecidableEq

/-- The two tables of the fence database, read through their primary keys. -/
structure FenceStore where
  fenceScopes : String → Option FenceScopeState
  fenceOperations : String → String → Option FenceOperation

variable (store : FenceStore) (scope : String)

namespace FenceStore

/-- The database that `init` creates. -/
def empty : FenceStore where
  fenceScopes := fun _ => none
  fenceOperations := fun _ _ => none

/-- The recorded row of a scope. -/
def current : Option FenceScopeState :=
  store.fenceScopes scope

variable (row : FenceScopeState)

/-- Replace the row of one scope. -/
def setScope : FenceStore :=
  { store with fenceScopes := Function.update store.fenceScopes scope (some row) }

def setOperation
    (scope operationId : String)
    (row : FenceOperation) : FenceStore :=
  { store with
    fenceOperations := Function.update store.fenceOperations scope
      (Function.update (store.fenceOperations scope) operationId (some row)) }

@[simp] theorem setScope_fenceScopes_self :
    (store.setScope scope row).fenceScopes scope = some row := by
  simp [setScope]

theorem setScope_fenceScopes_of_ne {scope other : String} (different : other ≠ scope) :
    (store.setScope scope row).fenceScopes other = store.fenceScopes other := by
  simp [setScope, Function.update_of_ne different]

@[simp] theorem setScope_fenceOperations :
    (store.setScope scope row).fenceOperations = store.fenceOperations := rfl

@[simp] theorem setOperation_fenceScopes (scope operationId : String) (row : FenceOperation) :
    (store.setOperation scope operationId row).fenceScopes =
      store.fenceScopes := rfl

@[simp] theorem setOperation_fenceOperations_self (scope operationId : String) (row : FenceOperation) :
    (store.setOperation scope operationId row).fenceOperations scope operationId = some row := by
  simp [setOperation]

/-- Operation rows are replaced but never removed. -/
theorem setOperation_isSome
    (scope operationId otherScope otherOperation : String) (row : FenceOperation)
    (present : (store.fenceOperations otherScope otherOperation).isSome) :
    ((store.setOperation scope operationId row).fenceOperations
      otherScope otherOperation).isSome := by
  by_cases sameScope : otherScope = scope
  · subst sameScope
    by_cases sameOperation : otherOperation = operationId
    · subst sameOperation
      simp
    · simpa [setOperation, Function.update_of_ne sameOperation] using present
  · simpa [setOperation, Function.update_of_ne sameScope] using present

end FenceStore

/-- The two tests after which `begin` answers `stale`: the envelope is older
than the recorded epoch, or claims it for another controller. -/
def FenceScopeState.stale
    (current : FenceScopeState)
    (envelope : MutationEnvelope) : Bool :=
  decide (envelope.controllerEpoch < current.controllerEpoch) ||
    (decide (envelope.controllerEpoch = current.controllerEpoch) &&
      decide (envelope.controllerId ≠ current.controllerId))

/-- Whether `begin` finds the envelope stale against the row it selected. -/
def staleAgainst
    (current : Option FenceScopeState)
    (envelope : MutationEnvelope) : Bool :=
  current.any fun row => row.stale envelope

/-- Whether `begin` takes the envelope for a new epoch. -/
def epochAdvanced
    (current : Option FenceScopeState)
    (envelope : MutationEnvelope) : Bool :=
  match current with
  | none => true
  | some row => decide (row.controllerEpoch < envelope.controllerEpoch)

namespace FenceStore

variable (envelope : MutationEnvelope) (now : String)

/-- The write of `begin`: an `INSERT` when it selected no row, an `UPDATE` of
the identity when the epoch advanced, and otherwise an `UPDATE` of the time
only.  The statement acts on the table as it is when it runs; `none` is the
integrity error of an `INSERT` that meets a row. -/
def record
    (selected : Option FenceScopeState)
    (now : String) : Option FenceStore :=
  let row : FenceScopeState :=
    ⟨envelope.controllerId, envelope.controllerEpoch, now⟩
  match selected, store.fenceScopes scope with
  | none, some _ => none
  | none, none => some (store.setScope scope row)
  | some _, none => some store
  | some _, some stored =>
      if epochAdvanced selected envelope then
        some (store.setScope scope row)
      else
        some (store.setScope scope { stored with updatedAt := now })

/-- `begin`, when no other call runs between its statements. -/
def begin : Option (FenceDecision × FenceStore) :=
  let current := store.current scope
  if staleAgainst current envelope then
    some ({ status := .stale, current := current }, store)
  else if (store.fenceOperations scope envelope.operationId).isSome then
    some ({ status := .duplicate, current := current }, store)
  else
    (store.record scope envelope current now).map fun written =>
      ({ status := .accept
         current := written.current scope
         epochAdvanced := epochAdvanced current envelope }, written)

/-- `commit`: both statements run in one transaction. -/
def commit : FenceStore :=
  (store.setOperation scope envelope.operationId
      ⟨envelope.controllerId, envelope.controllerEpoch, now⟩).setScope scope
    ⟨envelope.controllerId, envelope.controllerEpoch, now⟩

@[simp] theorem commit_fenceScopes_self :
    (store.commit scope envelope now).fenceScopes scope =
      some ⟨envelope.controllerId, envelope.controllerEpoch, now⟩ := by
  simp [commit]

theorem commit_fenceScopes_of_ne {scope other : String} (different : other ≠ scope) :
    (store.commit scope envelope now).fenceScopes other = store.fenceScopes other := by
  rw [commit, setScope_fenceScopes_of_ne _ _ different, setOperation_fenceScopes]

@[simp] theorem commit_fenceOperations_self :
    ((store.commit scope envelope now).fenceOperations scope envelope.operationId).isSome := by
  simp [commit]

/-- A `commit` removes no operation. -/
theorem commit_isSome
    (scope otherScope otherOperation : String) (envelope : MutationEnvelope) (now : String)
    (present : (store.fenceOperations otherScope otherOperation).isSome) :
    ((store.commit scope envelope now).fenceOperations otherScope otherOperation).isSome :=
  setOperation_isSome store scope envelope.operationId otherScope otherOperation _ present

/-- The write of `begin` leaves the operations alone. -/
theorem record_fenceOperations
    {store written : FenceStore} {scope now : String} {envelope : MutationEnvelope}
    {selected : Option FenceScopeState}
    (result : store.record scope envelope selected now = some written) :
    written.fenceOperations = store.fenceOperations := by
  unfold record at result
  cases selected <;> cases recorded : store.fenceScopes scope <;>
    simp only [recorded] at result
  · rw [← Option.some.inj result, setScope_fenceOperations]
  · cases result
  · rw [← Option.some.inj result]
  · split at result <;>
      rw [← Option.some.inj result, setScope_fenceOperations]

end FenceStore

end Ha
end K1s
