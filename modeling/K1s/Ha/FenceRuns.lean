import K1s.Ha.Fencing

/-!
# Deliveries racing for a fence

Any number of deliveries run the protocol of an executor against one fence
database: `begin`, then the guarded effect, then `commit`.  The statements of
`begin` are actions of their own, because nothing holds the database between
them.  `commit` calls that belong to no delivery are allowed as well.

The scope row is written by three of the actions.  Along a run in which none of
them carries an envelope that is stale for the row it overwrites, the recorded
epoch never decreases and an accepted identity is never accepted again after a
newer one.  A delivery executes its effect at most once per operation along a
run in which no delivery checks for an operation while another delivery of it
is under way.
-/

namespace K1s
namespace Ha

open Machine

/-- How far one delivery has come. -/
inductive DeliveryPhase
  /-- Not received yet. -/
  | idle
  /-- `begin` selected the scope row and did not find the envelope stale. -/
  | selected
      (scope : String)
      (envelope : MutationEnvelope)
      (current : Option FenceScopeState)
  /-- `begin` found no committed operation either. -/
  | looked
      (scope : String)
      (envelope : MutationEnvelope)
      (current : Option FenceScopeState)
  /-- `begin` returned `accept`. -/
  | accepted (scope : String) (envelope : MutationEnvelope)
  /-- The guarded effect has been carried out. -/
  | executed (scope : String) (envelope : MutationEnvelope)
  /-- Nothing is left to do: refused, abandoned, failed or committed. -/
  | closed
  deriving DecidableEq

/-- The fence database, the deliveries, and the effects carried out so far,
each by its scope and operation. -/
structure FenceSystem where
  store : FenceStore
  deliveries : Nat → DeliveryPhase
  executions : List (String × String)

/-- One statement of some delivery, or a `commit` call of its own. -/
inductive FenceAction
  /-- `begin` is called and selects the scope row. -/
  | select (delivery : Nat) (scope : String) (envelope : MutationEnvelope)
  /-- `begin` selects the operation row. -/
  | lookup (delivery : Nat)
  /-- `begin` writes the scope row and commits its transaction. -/
  | record (delivery : Nat) (now : String)
  /-- The executor carries out the guarded effect. -/
  | execute (delivery : Nat)
  /-- The executor calls `commit` for the delivery. -/
  | finish (delivery : Nat) (now : String)
  /-- The delivery ends before the effect: a failed dispatch or an error. -/
  | abandon (delivery : Nat)
  /-- A `commit` call outside any delivery. -/
  | commit (scope : String) (envelope : MutationEnvelope) (now : String)
  deriving DecidableEq

variable {action : FenceAction} {next system : FenceSystem}

namespace FenceSystem

/-- Nothing has been delivered to an executor with the given database. -/
def start (store : FenceStore) : FenceSystem where
  store := store
  deliveries := fun _ => .idle
  executions := []

def setPhase
    (system : FenceSystem) (delivery : Nat)
    (phase : DeliveryPhase) : FenceSystem :=
  { system with
    deliveries := Function.update system.deliveries delivery phase }

@[simp] theorem setPhase_store
    (system : FenceSystem) (delivery : Nat) (phase : DeliveryPhase) :
    (system.setPhase delivery phase).store = system.store := rfl

@[simp] theorem setPhase_executions
    (system : FenceSystem) (delivery : Nat) (phase : DeliveryPhase) :
    (system.setPhase delivery phase).executions = system.executions := rfl

@[simp] theorem setPhase_deliveries
    (system : FenceSystem) (delivery other : Nat) (phase : DeliveryPhase) :
    (system.setPhase delivery phase).deliveries other =
      if other = delivery then phase else system.deliveries other := by
  simp [setPhase, Function.update_apply]

@[simp] theorem setPhase_setPhase
    (system : FenceSystem) (delivery : Nat) (earlier later : DeliveryPhase) :
    (system.setPhase delivery earlier).setPhase delivery later =
      system.setPhase delivery later := by
  simp [setPhase]

/-- The effect of one action, `none` where the delivery is not ready for it. -/
def step (system : FenceSystem) : FenceAction → Option FenceSystem
  | .select delivery scope envelope =>
      match system.deliveries delivery with
      | .idle =>
          let current := system.store.current scope
          if staleAgainst current envelope then
            some (system.setPhase delivery .closed)
          else
            some (system.setPhase delivery (.selected scope envelope current))
      | _ => none
  | .lookup delivery =>
      match system.deliveries delivery with
      | .selected scope envelope current =>
          if (system.store.fenceOperations scope envelope.operationId).isSome then
            some (system.setPhase delivery .closed)
          else
            some (system.setPhase delivery (.looked scope envelope current))
      | _ => none
  | .record delivery now =>
      match system.deliveries delivery with
      | .looked scope envelope current =>
          match system.store.record scope envelope current now with
          | some written =>
              some { system.setPhase delivery (.accepted scope envelope) with
                store := written }
          | none => some (system.setPhase delivery .closed)
      | _ => none
  | .execute delivery =>
      match system.deliveries delivery with
      | .accepted scope envelope =>
          some { system.setPhase delivery (.executed scope envelope) with
            executions := (scope, envelope.operationId) :: system.executions }
      | _ => none
  | .finish delivery now =>
      match system.deliveries delivery with
      | .executed scope envelope =>
          some { system.setPhase delivery .closed with
            store := system.store.commit scope envelope now }
      | _ => none
  | .abandon delivery =>
      match system.deliveries delivery with
      | .selected _ _ _ | .looked _ _ _ | .accepted _ _ =>
          some (system.setPhase delivery .closed)
      | _ => none
  | .commit scope envelope now =>
      some { system with store := system.store.commit scope envelope now }

/-- The scope and envelope of an action that writes the scope table. -/
def writes (system : FenceSystem) :
    FenceAction → Option (String × MutationEnvelope)
  | .record delivery _ =>
      match system.deliveries delivery with
      | .looked scope envelope _ => some (scope, envelope)
      | _ => none
  | .finish delivery _ =>
      match system.deliveries delivery with
      | .executed scope envelope => some (scope, envelope)
      | _ => none
  | .commit scope envelope _ => some (scope, envelope)
  | _ => none

/-- The actions a system can take, with the state each one leads to. -/
inductive Stepped (system : FenceSystem) : FenceAction → FenceSystem → Prop
  | selectStale {delivery scope envelope} :
      system.deliveries delivery = .idle →
      staleAgainst (system.store.current scope) envelope = true →
      Stepped system (.select delivery scope envelope) (system.setPhase delivery .closed)
  | select {delivery scope envelope} :
      system.deliveries delivery = .idle →
      staleAgainst (system.store.current scope) envelope = false →
      Stepped system (.select delivery scope envelope) (system.setPhase delivery
          (.selected scope envelope (system.store.current scope)))
  | lookupDuplicate {delivery scope envelope current} :
      system.deliveries delivery = .selected scope envelope current →
      Stepped system (.lookup delivery) (system.setPhase delivery .closed)
  | lookup {delivery scope envelope current} :
      system.deliveries delivery = .selected scope envelope current →
      system.store.fenceOperations scope envelope.operationId = none →
      Stepped system (.lookup delivery) (system.setPhase delivery (.looked scope envelope current))
  | record {delivery now scope envelope current written} :
      system.deliveries delivery = .looked scope envelope current →
      system.store.record scope envelope current now = some written →
      Stepped system (.record delivery now)
        { system.setPhase delivery (.accepted scope envelope) with
          store := written }
  | recordFailed {delivery now scope envelope current} :
      system.deliveries delivery = .looked scope envelope current →
      Stepped system (.record delivery now) (system.setPhase delivery .closed)
  | execute {delivery scope envelope} :
      system.deliveries delivery = .accepted scope envelope →
      Stepped system (.execute delivery)
        { system.setPhase delivery (.executed scope envelope) with
          executions := (scope, envelope.operationId) :: system.executions }
  | finish {delivery now scope envelope} :
      system.deliveries delivery = .executed scope envelope →
      Stepped system (.finish delivery now)
        { system.setPhase delivery .closed with
          store := system.store.commit scope envelope now }
  | abandon {delivery} :
      (∀ scope envelope, system.deliveries delivery ≠ .executed scope envelope) →
      Stepped system (.abandon delivery) (system.setPhase delivery .closed)
  | commit {scope envelope now} :
      Stepped system (.commit scope envelope now)
        { system with store := system.store.commit scope envelope now }

/-- Every successful step is one of the listed ones. -/
theorem stepped_of_step (stepped : system.step action = some next) :
    Stepped system action next := by
  cases action with
  | select delivery scope envelope =>
      cases phase : system.deliveries delivery with
      | idle =>
          cases old : staleAgainst (system.store.current scope) envelope with
          | true =>
              simp only [step, phase, old, if_true, Option.some.injEq] at stepped
              exact stepped ▸ .selectStale phase old
          | false =>
              simp only [step, phase, old, Bool.false_eq_true, if_false,
                Option.some.injEq] at stepped
              exact stepped ▸ .select phase old
      | _ => simp [step, phase] at stepped
  | lookup delivery =>
      cases phase : system.deliveries delivery with
      | selected scope envelope current =>
          cases row : system.store.fenceOperations scope envelope.operationId with
          | none =>
              simp only [step, phase, row, Option.isSome_none,
                Bool.false_eq_true, if_false, Option.some.injEq] at stepped
              exact stepped ▸ .lookup phase row
          | some operation =>
              simp only [step, phase, row, Option.isSome_some, if_true,
                Option.some.injEq] at stepped
              exact stepped ▸ .lookupDuplicate phase
      | _ => simp [step, phase] at stepped
  | record delivery now =>
      cases phase : system.deliveries delivery with
      | looked scope envelope current =>
          cases result : system.store.record scope envelope current now with
          | some written =>
              simp only [step, phase, result, Option.some.injEq] at stepped
              exact stepped ▸ .record phase result
          | none =>
              simp only [step, phase, result, Option.some.injEq] at stepped
              exact stepped ▸ .recordFailed phase
      | _ => simp [step, phase] at stepped
  | execute delivery =>
      cases phase : system.deliveries delivery with
      | accepted scope envelope =>
          simp only [step, phase, Option.some.injEq] at stepped
          exact stepped ▸ .execute phase
      | _ => simp [step, phase] at stepped
  | finish delivery now =>
      cases phase : system.deliveries delivery with
      | executed scope envelope =>
          simp only [step, phase, Option.some.injEq] at stepped
          exact stepped ▸ .finish phase
      | _ => simp [step, phase] at stepped
  | abandon delivery =>
      cases phase : system.deliveries delivery with
      | selected scope envelope current | looked scope envelope current
      | accepted scope envelope =>
          simp only [step, phase, Option.some.injEq] at stepped
          exact stepped ▸ .abandon (by simp [phase])
      | _ => simp [step, phase] at stepped
  | commit scope envelope now =>
      simp only [step, Option.some.injEq] at stepped
      exact stepped ▸ .commit

end FenceSystem

/-! ## The order of recorded identities -/

/-- A later row of a scope has a greater epoch, or the same epoch and the same
controller. -/
def FenceScopeState.Precedes (earlier later : FenceScopeState) : Prop :=
  earlier.controllerEpoch < later.controllerEpoch ∨
    (earlier.controllerEpoch = later.controllerEpoch ∧ earlier.controllerId = later.controllerId)

namespace FenceScopeState.Precedes

theorem refl (row : FenceScopeState) : row.Precedes row :=
  .inr ⟨rfl, rfl⟩

theorem trans
    {first second third : FenceScopeState} (earlier : first.Precedes second)
    (later : second.Precedes third) : first.Precedes third := by
  rcases earlier with earlier | ⟨earlierEpoch, earlierId⟩
  · rcases later with later | ⟨laterEpoch, _⟩
    · exact .inl (earlier.trans later)
    · exact .inl (laterEpoch ▸ earlier)
  · rcases later with later | ⟨laterEpoch, laterId⟩
    · exact .inl (earlierEpoch ▸ later)
    · exact .inr ⟨earlierEpoch.trans laterEpoch, earlierId.trans laterId⟩

theorem epoch_le {earlier later : FenceScopeState} (precedes : earlier.Precedes later) :
    earlier.controllerEpoch ≤ later.controllerEpoch := by
  rcases precedes with less | ⟨equal, _⟩
  · exact less.le
  · exact equal.le

end FenceScopeState.Precedes

/-- An envelope is not stale for a row exactly when the row precedes the row
the envelope would write. -/
theorem staleAgainst_some_eq_false
    (row : FenceScopeState) (envelope : MutationEnvelope) (now : String) :
    staleAgainst (some row) envelope = false ↔
      row.Precedes ⟨envelope.controllerId, envelope.controllerEpoch, now⟩ := by
  simp only [staleAgainst, Option.any_some, FenceScopeState.stale,
    Bool.or_eq_false_iff, decide_eq_false_iff_not, not_lt, Bool.and_eq_false_iff,
    FenceScopeState.Precedes]
  constructor
  · rintro ⟨atMost, different | same⟩
    · exact .inl (lt_of_le_of_ne atMost fun equal => different equal.symm)
    · rcases atMost.lt_or_eq with less | equal
      · exact .inl less
      · exact .inr ⟨equal, (not_not.mp same).symm⟩
  · rintro (less | ⟨equal, same⟩)
    · exact ⟨less.le, .inl less.ne'⟩
    · exact ⟨equal.le, .inr (not_not.mpr same.symm)⟩

variable {store : FenceStore} {envelope : MutationEnvelope} {scope : String}

namespace FenceStore

/-- Every recorded row of the first store is followed in the second one. -/
def FollowedBy (first second : FenceStore) : Prop :=
  ∀ scope row, first.fenceScopes scope = some row →
    ∃ later, second.fenceScopes scope = some later ∧ row.Precedes later

theorem FollowedBy.refl (store : FenceStore) : store.FollowedBy store :=
  fun _ row recorded => ⟨row, recorded, .refl row⟩

variable {first second : FenceStore}

theorem FollowedBy.trans
    {first second third : FenceStore} (earlier : first.FollowedBy second)
    (later : second.FollowedBy third) : first.FollowedBy third := by
  intro scope row recorded
  obtain ⟨middle, middleRecorded, before⟩ := earlier scope row recorded
  obtain ⟨final, finalRecorded, after⟩ := later scope middle middleRecorded
  exact ⟨final, finalRecorded, before.trans after⟩

theorem followedBy_of_scope
    {row : FenceScopeState}
    (same : ∀ other, other ≠ scope → second.fenceScopes other = first.fenceScopes other)
    (written : second.fenceScopes scope = some row)
    (precedes : ∀ stored, first.fenceScopes scope = some stored → stored.Precedes row) :
    first.FollowedBy second := by
  intro other stored recorded
  by_cases equal : other = scope
  · subst equal
    exact ⟨row, written, precedes stored recorded⟩
  · exact ⟨stored, by rw [same other equal, recorded], .refl stored⟩

/-- A `commit` that is not stale for the scope's row moves it forward. -/
theorem followedBy_commit
    (store : FenceStore) (scope : String) (envelope : MutationEnvelope) (now : String)
    (fresh : staleAgainst (store.fenceScopes scope) envelope = false) :
    store.FollowedBy (store.commit scope envelope now) := by
  apply followedBy_of_scope
    (fun other different => commit_fenceScopes_of_ne store envelope now different)
    (commit_fenceScopes_self store scope envelope now)
  intro stored recorded
  rw [recorded] at fresh
  exact (staleAgainst_some_eq_false stored envelope now).mp fresh

variable {written : FenceStore} {selected : Option FenceScopeState} {now : String}

/-- The write of a `begin` that is not stale for the scope's row moves it
forward, whatever row the call selected. -/
theorem followedBy_record
    (fresh : staleAgainst (store.fenceScopes scope) envelope = false)
    (result : store.record scope envelope selected now = some written) :
    store.FollowedBy written := by
  unfold record at result
  cases selected with
  | none =>
      cases recorded : store.fenceScopes scope with
      | none =>
          simp only [recorded, Option.some.injEq] at result
          subst written
          exact followedBy_of_scope
            (fun _ different => setScope_fenceScopes_of_ne store _ different)
            (setScope_fenceScopes_self store scope _) (by simp [recorded])
      | some stored => simp [recorded] at result
  | some row =>
      cases recorded : store.fenceScopes scope with
      | none =>
          simp only [recorded, Option.some.injEq] at result
          exact result ▸ .refl store
      | some stored =>
          rw [recorded] at fresh
          simp only [recorded] at result
          split at result <;> simp only [Option.some.injEq] at result <;> subst written
          · refine followedBy_of_scope
              (fun _ different => setScope_fenceScopes_of_ne store _ different)
              (setScope_fenceScopes_self store scope _) ?_
            rintro other equal
            obtain rfl : stored = other := by simpa [recorded] using equal
            exact (staleAgainst_some_eq_false stored envelope now).mp fresh
          · refine followedBy_of_scope
              (fun _ different => setScope_fenceScopes_of_ne store _ different)
              (setScope_fenceScopes_self store scope _) ?_
            rintro other equal
            obtain rfl : stored = other := by simpa [recorded] using equal
            exact .inr ⟨rfl, rfl⟩

/-- After the write of a `begin` that was not stale, neither for the row it
selected nor for the row it overwrites, the scope records its identity. -/
theorem record_fenceScopes_self
    (fresh : staleAgainst (store.fenceScopes scope) envelope = false)
    (selectedFresh : staleAgainst selected envelope = false)
    (selectedBefore : ∀ row, selected = some row →
      ∃ stored, store.fenceScopes scope = some stored ∧ row.Precedes stored)
    (result : store.record scope envelope selected now = some written) :
    ∃ row, written.fenceScopes scope = some row ∧ row.controllerId = envelope.controllerId ∧
      row.controllerEpoch = envelope.controllerEpoch := by
  unfold record at result
  cases selected with
  | none =>
      cases recorded : store.fenceScopes scope with
      | none =>
          simp only [recorded, Option.some.injEq] at result
          subst written
          exact ⟨_, setScope_fenceScopes_self store scope _, rfl, rfl⟩
      | some stored => simp [recorded] at result
  | some row =>
      obtain ⟨stored, recorded, before⟩ := selectedBefore row rfl
      simp only [recorded] at result
      split at result <;> simp only [Option.some.injEq] at result <;> subst written
      · exact ⟨_, setScope_fenceScopes_self store scope _, rfl, rfl⟩
      · rename_i notAdvanced
        refine ⟨_, setScope_fenceScopes_self store scope _, ?_⟩
        rw [recorded] at fresh
        have storedBefore :=
          (staleAgainst_some_eq_false stored envelope now).mp fresh
        have rowBefore :=
          (staleAgainst_some_eq_false row envelope now).mp selectedFresh
        have sameEpoch : envelope.controllerEpoch ≤ row.controllerEpoch := by
          simpa [epochAdvanced] using notAdvanced
        have storedEpoch : stored.controllerEpoch = envelope.controllerEpoch :=
          le_antisymm storedBefore.epoch_le (sameEpoch.trans before.epoch_le)
        rcases storedBefore with less | ⟨_, sameId⟩
        · exact absurd storedEpoch less.ne
        · exact ⟨sameId, storedEpoch⟩

end FenceStore

namespace FenceSystem

/-! ## Epochs along a run -/

/-- No row of the scope table is overwritten with an envelope that is stale for
it.  `begin` makes this test against the row it selected only, and `commit`
does not make it. -/
def NotOvertaken (system : FenceSystem) (action : FenceAction) : Prop :=
  ∀ scope envelope, system.writes action = some (scope, envelope) →
    staleAgainst (system.store.fenceScopes scope) envelope = false

instance (system : FenceSystem) (action : FenceAction) :
    Decidable (system.NotOvertaken action) :=
  match written : system.writes action with
  | none => isTrue (by simp [NotOvertaken, written])
  | some (scope, envelope) =>
      decidable_of_iff (staleAgainst (system.store.fenceScopes scope) envelope = false) (by
          simp only [NotOvertaken, written, Option.some.injEq, Prod.mk.injEq]
          constructor
          · rintro fresh _ _ ⟨rfl, rfl⟩
            exact fresh
          · intro fresh
            exact fresh scope envelope ⟨rfl, rfl⟩)

/-- Rows are only moved forward by actions that are not overtaken. -/
theorem step_followedBy
    (current : system.NotOvertaken action) (stepped : system.step action = some next) :
    system.store.FollowedBy next.store := by
  cases stepped_of_step stepped with
  | record phase result =>
      exact FenceStore.followedBy_record (current _ _ (by simp [writes, phase])) result
  | finish phase =>
      exact FenceStore.followedBy_commit _ _ _ _
        (current _ _ (by simp [writes, phase]))
  | commit =>
      exact FenceStore.followedBy_commit _ _ _ _ (current _ _ rfl)
  | _ => exact .refl system.store

/-- A `begin` call under way found its envelope fresh for the row it selected,
and that row has not been moved back since. -/
def SelectedBefore (system : FenceSystem) : Prop :=
  ∀ delivery scope envelope current,
    (system.deliveries delivery = .selected scope envelope current ∨
      system.deliveries delivery = .looked scope envelope current) →
    staleAgainst current envelope = false ∧ ∀ row, current = some row →
        ∃ stored, system.store.fenceScopes scope = some stored ∧ row.Precedes stored

/-- The calls under way stay consistent while the store only moves forward. -/
theorem SelectedBefore.followed
    (before : system.SelectedBefore) (followed : system.store.FollowedBy store) :
    ({ system with store := store } : FenceSystem).SelectedBefore := by
  intro delivery scope envelope current phase
  obtain ⟨fresh, rows⟩ := before delivery scope envelope current phase
  refine ⟨fresh, fun row equal => ?_⟩
  obtain ⟨stored, recorded, precedes⟩ := rows row equal
  obtain ⟨later, laterRecorded, after⟩ := followed scope stored recorded
  exact ⟨later, laterRecorded, precedes.trans after⟩

/-- Moving one delivery to a phase outside `begin` keeps the other calls
consistent. -/
theorem SelectedBefore.setPhase
    (before : system.SelectedBefore) (delivery : Nat) (phase : DeliveryPhase)
    (outside : ∀ scope envelope current, phase ≠ .selected scope envelope current ∧
        phase ≠ .looked scope envelope current) :
    (system.setPhase delivery phase).SelectedBefore := by
  intro other scope envelope current inside
  by_cases same : other = delivery
  · subst same
    simp only [setPhase_deliveries, if_true] at inside
    rcases inside with equal | equal
    · exact absurd equal (outside scope envelope current).1
    · exact absurd equal (outside scope envelope current).2
  · simp only [setPhase_deliveries, same, if_false] at inside
    exact before other scope envelope current inside

theorem step_selectedBefore
    (before : system.SelectedBefore) (current : system.NotOvertaken action)
    (stepped : system.step action = some next) : next.SelectedBefore := by
  have followed := step_followedBy current stepped
  cases stepped_of_step stepped with
  | @select delivery scope envelope idle fresh =>
      intro other otherScope otherEnvelope otherCurrent inside
      by_cases same : other = delivery
      · subst same
        simp only [setPhase_deliveries, if_true, reduceCtorEq, or_false,
          DeliveryPhase.selected.injEq] at inside
        obtain ⟨rfl, rfl, rfl⟩ := inside
        exact ⟨fresh, fun row equal => ⟨row, equal, .refl row⟩⟩
      · simp only [setPhase_deliveries, same, if_false] at inside
        exact before other otherScope otherEnvelope otherCurrent inside
  | @lookup delivery scope envelope selectedRow phase absent =>
      intro other otherScope otherEnvelope otherCurrent inside
      by_cases same : other = delivery
      · subst same
        simp only [setPhase_deliveries, if_true, reduceCtorEq, false_or,
          DeliveryPhase.looked.injEq] at inside
        obtain ⟨rfl, rfl, rfl⟩ := inside
        exact before other scope envelope selectedRow (.inl phase)
      · simp only [setPhase_deliveries, same, if_false] at inside
        exact before other otherScope otherEnvelope otherCurrent inside
  | record phase result =>
      exact (before.setPhase _ _ (by simp)).followed followed
  | finish phase => exact (before.setPhase _ _ (by simp)).followed followed
  | execute phase =>
      exact before.setPhase _ _ (by simp)
  | commit => exact before.followed followed
  | _ => exact before.setPhase _ _ (by simp)

/-- `begin` returns `accept` for the scope and envelope at this action. -/
def Accepts
    (system : FenceSystem) (action : FenceAction) (scope : String)
    (envelope : MutationEnvelope) : Prop :=
  ∃ delivery now current written, action = .record delivery now ∧
    system.deliveries delivery = .looked scope envelope current ∧
    system.store.record scope envelope current now = some written

theorem Accepts.recorded
    (accepts : system.Accepts action scope envelope) (before : system.SelectedBefore)
    (current : system.NotOvertaken action) (stepped : system.step action = some next) :
    ∃ row, next.store.fenceScopes scope = some row ∧ row.controllerId = envelope.controllerId ∧
      row.controllerEpoch = envelope.controllerEpoch := by
  obtain ⟨delivery, now, selectedRow, written, rfl, phase, result⟩ := accepts
  obtain ⟨fresh, rows⟩ := before delivery scope envelope selectedRow (.inr phase)
  have storeFresh := current scope envelope (by simp [writes, phase])
  obtain rfl : { system.setPhase delivery (.accepted scope envelope) with
      store := written } = next := by
    simpa [step, phase, result] using stepped
  exact FenceStore.record_fenceScopes_self storeFresh fresh rows result

/-- What the fence promises of a run: recorded epochs never decrease, and after
a `begin` was accepted for a scope no later `begin` of that scope is accepted
with a smaller epoch, or with the same epoch for another controller. -/
structure Fenced (start : FenceSystem) (actions : List FenceAction) : Prop where
  epoch_le : ∀ front middle rest first second scope row, actions = front ++ (middle ++ rest) →
    run step start front = some first →
    run step first middle = some second →
    first.store.fenceScopes scope = some row →
    ∃ later, second.store.fenceScopes scope = some later ∧
      row.controllerEpoch ≤ later.controllerEpoch
  accepted : ∀ front earlier middle later rest first second scope envelope other,
    actions = front ++ (earlier :: middle ++ later :: rest) →
    run step start front = some first →
    first.Accepts earlier scope envelope →
    run step first (earlier :: middle) = some second →
    second.Accepts later scope other →
    ¬ (other.controllerEpoch < envelope.controllerEpoch ∨
      (other.controllerEpoch = envelope.controllerEpoch ∧
        other.controllerId ≠ envelope.controllerId))

/-- Along every run in which no scope row is overwritten by an overtaken call,
the fence keeps its promise. -/
theorem fenced_of_notOvertaken
    (store : FenceStore) (actions : List FenceAction)
    (current : Along step NotOvertaken (start store) actions) :
    Fenced (start store) actions := by
  have idle : (start store).SelectedBefore := by
    intro delivery scope envelope selectedRow phase
    simp [start] at phase
  have related : ∀ {first second : FenceSystem} {middle : List FenceAction},
      Along step NotOvertaken first middle →
      run step first middle = some second →
      first.store.FollowedBy second.store := fun along ran =>
    related_of_step (fun first second => first.store.FollowedBy second.store)
      (fun state => .refl state.store)
      (fun _ _ _ earlier later => earlier.trans later)
      (fun _ _ _ meets stepped => step_followedBy meets stepped) along ran
  have invariant : ∀ {front : List FenceAction} {first : FenceSystem},
      Along step NotOvertaken (start store) front →
      run step (start store) front = some first → first.SelectedBefore :=
    fun along ran => invariant_of_step
      (fun _ _ _ before meets stepped => step_selectedBefore before meets stepped)
      idle along ran
  constructor
  · intro front middle rest first second scope row split prior ran recorded
    subst split
    obtain ⟨_, onward⟩ := current.split prior
    obtain ⟨onMiddle, _⟩ := onward.split ran
    obtain ⟨later, laterRecorded, precedes⟩ :=
      related onMiddle ran scope row recorded
    exact ⟨later, laterRecorded, precedes.epoch_le⟩
  · intro front earlier middle later rest first second scope envelope other
      split prior accepts ran laterAccepts
    subst split
    obtain ⟨onFront, onward⟩ := current.split prior
    obtain ⟨onEarlier, onLater⟩ := onward.split ran
    obtain ⟨next, stepped, remaining⟩ :=
      (run_cons_eq_some step first second earlier middle).mp ran
    obtain ⟨row, recorded, rowId, rowEpoch⟩ :=
      accepts.recorded (invariant onFront prior) onEarlier.1 stepped
    obtain ⟨middleRow, middleRecorded, precedes⟩ :=
      related (onEarlier.2 next stepped) remaining scope row recorded
    obtain ⟨_, _, _, _, equal, phase, _⟩ := laterAccepts
    have fresh := onLater.1 scope other (by simp [equal, writes, phase])
    rw [middleRecorded] at fresh
    have after := precedes.trans ((staleAgainst_some_eq_false middleRow other "").mp fresh)
    rcases after with less | ⟨sameEpoch, sameId⟩
    · simp only [rowEpoch] at less
      omega
    · simp only [rowEpoch, rowId] at sameEpoch sameId
      simp [sameEpoch, sameId]

/-- Two controllers take turns: the delivery of the old one is committed before
the new one calls `begin`. -/
def orderlyHandover : List FenceAction :=
  [.select 0 "runtime" ⟨"a", 5, "op-1"⟩, .lookup 0, .record 0 "t0", .execute 0,
    .finish 0 "t1", .select 1 "runtime" ⟨"b", 6, "op-2"⟩, .lookup 1,
    .record 1 "t2", .execute 1, .finish 1 "t3"]

theorem fenced_orderlyHandover : Fenced (start .empty) orderlyHandover :=
  fenced_of_notOvertaken .empty orderlyHandover (by decide)

/-- The same two deliveries, but the old controller's effect is still running
when the new controller is accepted. -/
def overtakenCommit : List FenceAction :=
  [.select 0 "runtime" ⟨"a", 5, "op-1"⟩, .lookup 0, .record 0 "t0", .execute 0,
    .select 1 "runtime" ⟨"b", 6, "op-2"⟩, .lookup 1, .record 1 "t1",
    .finish 0 "t2"]

/-- The late commit takes the recorded epoch back from 6 to 5. -/
theorem overtakenCommit_not_fenced : ¬ Fenced (start .empty) overtakenCommit := by
  intro fenced
  have recordedBefore : (run step (start .empty) (overtakenCommit.take 7)).map
      (fun system => (system.store.fenceScopes "runtime").map
        (·.controllerEpoch)) = some (some 6) := by decide
  have recordedAfter : (run step (start .empty) overtakenCommit).map
      (fun system => (system.store.fenceScopes "runtime").map
        (·.controllerEpoch)) = some (some 5) := by decide
  obtain ⟨first, prior, firstRow⟩ := Option.map_eq_some_iff.mp recordedBefore
  obtain ⟨row, recorded, rowEpoch⟩ := Option.map_eq_some_iff.mp firstRow
  obtain ⟨second, ran, secondRow⟩ := Option.map_eq_some_iff.mp recordedAfter
  obtain ⟨middle, priorAgain, last⟩ := (run_append_eq_some step (start .empty)
    second (overtakenCommit.take 7) (overtakenCommit.drop 7)).mp ran
  obtain rfl : first = middle := Option.some.inj (prior.symm.trans priorAgain)
  obtain ⟨later, laterRecorded, atMost⟩ := fenced.epoch_le
    (overtakenCommit.take 7) (overtakenCommit.drop 7) [] first second "runtime"
    row rfl prior last recorded
  rw [laterRecorded, Option.map_some, Option.some.injEq] at secondRow
  omega

end FenceSystem

end Ha
end K1s
