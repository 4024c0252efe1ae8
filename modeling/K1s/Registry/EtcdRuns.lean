import K1s.Registry.EtcdCalls

/-!
# Versions of the registry in etcd

In every interleaving of the calls a version other than 0 is used up by the first
call that presents it and succeeds: revisions never come back.  A call that raises
a conflict has changed nothing, and the version of a key grows with every write.

The version 0 means that the key is absent.  It can be presented with success
again after the key was deleted.
-/

namespace K1s
namespace Registry

open Py (Dict Json)
open Etcd (Key)
open Program (PoolAction)

/-! ## Revisions -/

/-- What etcd keeps of its revisions: those of the keys are positive and not above
that of the store. -/
def Bounded (store : Etcd.Store) : Prop :=
  ∀ key value, store.find? key = some value →
    1 ≤ value.modRevision ∧ value.modRevision ≤ store.revision

/-- What requests do to a store: a value that was not there before has a revision
above those before. -/
structure Later (before after : Etcd.Store) : Prop where
  revision : before.revision ≤ after.revision
  values : ∀ key value, after.find? key = some value →
    before.find? key = some value ∨ before.revision < value.modRevision

/-- No value of the key has this version, or will have it. -/
def Spent (key : Key) (version : Int) (store : Etcd.Store) : Prop :=
  version ≤ store.revision ∧
    ∀ value, store.find? key = some value → (value.modRevision : Int) ≠ version

theorem Later.refl (store : Etcd.Store) : Later store store :=
  ⟨le_rfl, fun _ _ found => .inl found⟩

variable {after before : Etcd.Store} {version : Int} {key : Key}

theorem Spent.later
    (spent : Spent key version before)
    (later : Later before after) : Spent key version after := by
  have grown := later.revision
  refine ⟨by have := spent.1; omega, fun value found => ?_⟩
  rcases later.values key value found with old | new
  · exact spent.2 value old
  · have := spent.1
    omega

theorem later_putJson (store : Etcd.Store) (key : Key) (payload : Dict) :
    Later store (store.putJson key payload) := by
  refine ⟨Nat.le_succ _, fun other value found => ?_⟩
  rw [Etcd.Store.find?_putJson] at found
  split at found
  · obtain rfl := Option.some.inj found
    exact .inr (Nat.lt_succ_self _)
  · exact .inl found

theorem revision_le_delete (store : Etcd.Store) (key : Key) :
    store.revision ≤ (store.delete key).revision := by
  unfold Etcd.Store.delete
  split
  · exact Nat.le_succ _
  · exact le_rfl

theorem later_delete (store : Etcd.Store) (key : Key) : Later store (store.delete key) := by
  refine ⟨revision_le_delete store key, fun other value found => ?_⟩
  rw [Etcd.Store.find?_delete] at found
  split at found
  · cases found
  · exact .inl found

variable {store : Etcd.Store}

theorem Bounded.putJson
    (bounded : Bounded store) (key : Key)
    (payload : Dict) : Bounded (store.putJson key payload) := by
  intro other value found
  change 1 ≤ value.modRevision ∧ value.modRevision ≤ store.revision + 1
  rw [Etcd.Store.find?_putJson] at found
  split at found
  · obtain rfl := Option.some.inj found
    exact ⟨Nat.le_add_left 1 _, le_rfl⟩
  · have := bounded other value found
    omega

theorem Bounded.delete
    (bounded : Bounded store)
    (key : Key) : Bounded (store.delete key) := by
  intro other value found
  have grown := revision_le_delete store key
  rw [Etcd.Store.find?_delete] at found
  split at found
  · cases found
  · have := bounded other value found
    omega

variable {world : RegistryWorld}

theorem RegistryWorld.execute_later
    (clock : Nat → Int) (operation : RegistryOp) (bounded : Bounded world.store) :
    Later world.store (RegistryWorld.execute clock operation world).2.store ∧
      Bounded (RegistryWorld.execute clock operation world).2.store := by
  cases operation with
  | now => exact ⟨Later.refl _, bounded⟩
  | get key => exact ⟨Later.refl _, bounded⟩
  | put key payload => exact ⟨later_putJson _ key payload, bounded.putJson key payload⟩
  | delete key => exact ⟨later_delete _ key, bounded.delete key⟩
  | txn key compare change =>
      simp only [RegistryWorld.execute]
      split
      · cases change with
        | put payload => exact ⟨later_putJson _ key payload, bounded.putJson key payload⟩
        | delete => exact ⟨later_delete _ key, bounded.delete key⟩
      · exact ⟨Later.refl _, bounded⟩

variable {compare : Compare}

/-- A comparison with a version other than 0 holds only of a value with this
revision. -/
theorem Compare.exists_of_holds
    (holds : compare.holds store key = true) (nonzero : compare.version ≠ 0) :
    ∃ value, store.find? key = some value ∧ (value.modRevision : Int) = compare.version := by
  cases compare with
  | absent => exact absurd rfl nonzero
  | modRevision revision =>
      simp only [Compare.holds, decide_eq_true_eq] at holds
      cases found : store.find? key with
      | none =>
          simp only [getJson, found] at holds
          exact absurd holds.symm nonzero
      | some value =>
          simp only [getJson, found] at holds
          exact ⟨value, rfl, holds⟩

/-- A comparison with the version 0 holds only of a key that is absent. -/
theorem Compare.absent_of_holds
    (bounded : Bounded store) (holds : compare.holds store key = true)
    (zero : compare.version = 0) : store.find? key = none := by
  cases compare with
  | absent => simpa [Compare.holds] using holds
  | modRevision revision =>
      obtain rfl : revision = 0 := zero
      cases found : store.find? key with
      | none => rfl
      | some value =>
          have positive := (bounded key value found).1
          simp only [Compare.holds, getJson, found, decide_eq_true_eq] at holds
          omega

/-- After the change that a comparison allowed, its version is used up. -/
theorem spent_of_holds
    (bounded : Bounded store) (holds : compare.holds store key = true)
    (change : Change) : Spent key compare.version (change.run store key) := by
  have known : compare.version ≤ store.revision := by
    by_cases zero : compare.version = 0
    · omega
    · obtain ⟨value, found, revision⟩ := Compare.exists_of_holds holds zero
      have := (bounded key value found).2
      omega
  cases change with
  | put payload =>
      refine ⟨?_, fun value found => ?_⟩
      · change compare.version ≤ ((store.revision + 1 : Nat) : Int)
        omega
      · simp only [Change.run, Etcd.Store.find?_putJson, if_true, Option.some.injEq] at found
        subst found
        simp only
        omega
  | delete =>
      refine ⟨?_, fun value found => ?_⟩
      · have grown := revision_le_delete store key
        change compare.version ≤ ((store.delete key).revision : Int)
        omega
      · simp [Change.run] at found

/-! ## What is left of a call -/

/-- The call has made its change: it only reads, and raises no conflict. -/
def Settled : RegistryProgram Outcome → Prop
  | .done outcome => outcome.isConflict = false
  | .perform (.get _) next => ∀ reply, Settled (next reply)
  | _ => False

/-- The call has found another version: it only reads, and raises a conflict. -/
def Refused : RegistryProgram Outcome → Prop
  | .done outcome => outcome.isConflict = true
  | .perform (.get _) next => ∀ reply, Refused (next reply)
  | _ => False

/-- The call still has to present its version. -/
def Pending (key : Key) (version : Int) : RegistryProgram Outcome → Prop
  | .perform .now next => ∀ reply, Pending key version (next reply)
  | .perform (.get _) next => ∀ reply, Pending key version (next reply)
  | .perform (.txn other compare _) next =>
      other = key ∧ compare.version = version ∧ Settled (next true) ∧ Refused (next false)
  | _ => False

/-- The call raises no conflict. -/
def Sure : RegistryProgram Outcome → Prop
  | .done outcome => outcome.isConflict = false
  | .raise => True
  | .perform _ next => ∀ reply, Sure (next reply)

theorem Settled.sure {program : RegistryProgram Outcome} (settled : Settled program) :
    Sure program := by
  induction program with
  | done outcome => exact settled
  | raise => trivial
  | perform operation next ih =>
      cases operation with
      | get key => exact fun reply => ih reply (settled reply)
      | _ => exact False.elim settled

variable {program : RegistryProgram Outcome}

theorem Settled.not_pending
    (settled : Settled program) (key : Key)
    (version : Int) : ¬ Pending key version program := by
  induction program with
  | done outcome => exact id
  | raise => exact id
  | perform operation next ih =>
      cases operation with
      | get other =>
          exact fun pending => ih (none, 0) (settled _) (pending _)
      | _ => exact False.elim settled

theorem Settled.not_refused {program : RegistryProgram Outcome} (settled : Settled program) :
    ¬ Refused program := by
  induction program with
  | done outcome =>
      intro refused
      have one : outcome.isConflict = false := settled
      have other : outcome.isConflict = true := refused
      rw [one] at other
      cases other
  | raise => exact id
  | perform operation next ih =>
      cases operation with
      | get key => exact fun refused => ih (none, 0) (settled _) (refused _)
      | _ => exact False.elim settled

variable {call : RegistryCall}

section Programs

variable (root : String)

theorem pending_writeExpecting (name : String) (key : Key) (payload : Dict) (version : Int) :
    Pending key version (writeExpecting name key payload (some version)) := by
  refine ⟨rfl, ?_, fun _ => rfl, fun _ => rfl⟩
  by_cases zero : version = 0
  · simp [zero, Compare.version]
  · simp [zero, Compare.version]

/-- A call that names a version is about to present it. -/
theorem RegistryCall.pending_program (expects : call.expected = some version) :
    Pending (call.key root) version (call.program root) := by
  cases call with
  | registerApp manifest source labels expected =>
      obtain rfl : expected = some version := expects
      exact fun _ _ => pending_writeExpecting _ _ _ version
  | deleteRegisteredApp appName expected =>
      obtain rfl : expected = some version := expects
      exact ⟨rfl, rfl, rfl, fun _ => rfl⟩
  | registerAuthorityObject key content expected =>
      obtain rfl : expected = some version := expects
      exact fun _ => pending_writeExpecting _ _ _ version
  | deleteAuthorityObject key expected =>
      obtain rfl : expected = some version := expects
      exact ⟨rfl, rfl, rfl, fun _ => rfl⟩

theorem sure_deleteExpecting (name : String) (key : Key) :
    Sure (deleteExpecting name key none) := by
  rintro ⟨existing, revision⟩
  cases existing with
  | none => rfl
  | some record => exact fun _ => rfl

/-- A call that names no version raises no conflict. -/
theorem RegistryCall.sure_program
    (expects : call.expected = none) : Sure (call.program root) := by
  cases call with
  | registerApp manifest source labels expected =>
      obtain rfl : expected = none := expects
      exact fun _ _ _ _ => rfl
  | deleteRegisteredApp appName expected =>
      obtain rfl : expected = none := expects
      exact sure_deleteExpecting appName _
  | registerAuthorityObject key content expected =>
      obtain rfl : expected = none := expects
      exact fun _ _ _ => rfl
  | deleteAuthorityObject key expected =>
      obtain rfl : expected = none := expects
      exact sure_deleteExpecting (conflictKey key) _

end Programs

/-! ## All calls together -/

variable {thread : Nat} {crew : Registrars}

section Runs

variable {root : String} {clock : Nat → Int}

/-- Where a call stands: it presents its version, has used it up, or was refused.
A call that names no version cannot be refused. -/
def Stands (root : String) (call : RegistryCall) (program : RegistryProgram Outcome)
    (store : Etcd.Store) : Prop :=
  match call.expected with
  | none => Sure program
  | some version =>
      Pending (call.key root) version program ∨
        (Settled program ∧ Spent (call.key root) version store) ∨ Refused program

theorem Stands.later
    (stands : Stands root call program before)
    (later : Later before after) : Stands root call program after := by
  cases expects : call.expected with
  | none =>
      simp only [Stands, expects] at stands ⊢
      exact stands
  | some version =>
      simp only [Stands, expects] at stands ⊢
      rcases stands with pending | ⟨settled, spent⟩ | refused
      · exact .inl pending
      · exact .inr (.inl ⟨settled, spent.later later⟩)
      · exact .inr (.inr refused)

/-- Two calls have presented the same version of the same key with success. -/
def BothSettled (root : String) (first second : RegistryCall × RegistryProgram Outcome) : Prop :=
  first.1.key root = second.1.key root ∧
    (∃ version, version ≠ 0 ∧ first.1.expected = some version ∧ second.1.expected = some version) ∧
    Settled first.2 ∧ Settled second.2

theorem BothSettled.symm
    {first second : RegistryCall × RegistryProgram Outcome}
    (both : BothSettled root first second) : BothSettled root second first := by
  obtain ⟨sameKey, ⟨version, nonzero, one, two⟩, settledFirst, settledSecond⟩ := both
  exact ⟨sameKey.symm, ⟨version, nonzero, two, one⟩, settledSecond, settledFirst⟩

/-- What holds of the calls at all times. -/
structure Kept (root : String) (crew : Registrars) : Prop where
  bounded : Bounded crew.state.store
  stands : ∀ thread call program, crew.threads thread = some (call, program) →
    Stands root call program crew.state.store
  single : ∀ first second one two, first ≠ second → crew.threads first = some one →
    crew.threads second = some two → ¬ BothSettled root one two

/-- What one operation makes of the call it belongs to. -/
structure Advanced (root : String) (call : RegistryCall) (operation : RegistryOp)
    (next : operation.Reply → RegistryProgram Outcome) (before after : RegistryWorld)
    (reply : operation.Reply) : Prop where
  stands : Stands root call (next reply) after.store
  /-- A call that has changed the store raises no conflict. -/
  sure : after.store ≠ before.store → Sure (next reply)
  /-- A call becomes settled by using up a version that was there. -/
  settled : ∀ version, call.expected = some version → version ≠ 0 → Settled (next reply) →
    Settled (.perform operation next) ∨ ∃ value, before.store.find? (call.key root) = some value ∧
        (value.modRevision : Int) = version

theorem advanced_txn
    {change : Change} {next : Bool → RegistryProgram Outcome} (bounded : Bounded world.store)
    (stands : Stands root call (.perform (.txn key compare change) next) world.store) :
    Advanced root call (.txn key compare change) next world
      (RegistryWorld.execute clock (.txn key compare change) world).2
      (RegistryWorld.execute clock (.txn key compare change) world).1 := by
  cases expects : call.expected with
  | none =>
      simp only [Stands, expects] at stands
      have sure : Sure (next (RegistryWorld.execute clock (.txn key compare change) world).1) :=
        stands _
      refine ⟨?_, fun _ => sure, fun version other => ?_⟩
      · simp only [Stands, expects]
        exact sure
      · rw [expects] at other
        cases other
  | some version =>
      simp only [Stands, expects] at stands
      obtain ⟨rfl, versionEq, settled, refused⟩ :
          key = call.key root ∧ compare.version = version ∧ Settled (next true) ∧
            Refused (next false) := by
        rcases stands with pending | ⟨settled, -⟩ | refused
        · exact pending
        · exact False.elim settled
        · exact False.elim refused
      cases holds : compare.holds world.store (call.key root) with
      | true =>
          simp only [RegistryWorld.execute, holds, if_true]
          refine ⟨?_, fun _ => settled.sure, fun other same nonzero _ => .inr ?_⟩
          · simp only [Stands, expects]
            exact .inr (.inl ⟨settled, versionEq ▸ spent_of_holds bounded holds change⟩)
          · obtain rfl := Option.some.inj (expects.symm.trans same)
            rw [← versionEq]
            exact Compare.exists_of_holds holds (versionEq ▸ nonzero)
      | false =>
          simp only [RegistryWorld.execute, holds]
          refine ⟨?_, fun changed => absurd rfl changed, fun _ _ _ settledNow => ?_⟩
          · simp only [Stands, expects]
            exact .inr (.inr refused)
          · exact absurd refused settledNow.not_refused

theorem advanced_get
    {next : Option Dict × Nat → RegistryProgram Outcome}
    (stands : Stands root call (.perform (.get key) next) world.store) :
    Advanced root call (.get key) next world (RegistryWorld.execute clock (.get key) world).2
      (RegistryWorld.execute clock (.get key) world).1 := by
  refine ⟨?_, fun changed => absurd rfl changed, ?_⟩
  · cases expects : call.expected with
    | none =>
        simp only [Stands, expects] at stands ⊢
        exact stands _
    | some version =>
        simp only [Stands, expects] at stands ⊢
        rcases stands with pending | ⟨settled, spent⟩ | refused
        · exact .inl (pending _)
        · exact .inr (.inl ⟨settled _, spent⟩)
        · exact .inr (.inr (refused _))
  · intro version expects _ settledNow
    simp only [Stands, expects] at stands
    rcases stands with pending | ⟨settled, -⟩ | refused
    · exact absurd (pending _) (settledNow.not_pending _ _)
    · exact .inl settled
    · exact absurd (refused _) settledNow.not_refused

theorem advanced_now
    {next : Int → RegistryProgram Outcome}
    (stands : Stands root call (.perform .now next) world.store) :
    Advanced root call .now next world (RegistryWorld.execute clock .now world).2
      (RegistryWorld.execute clock .now world).1 := by
  refine ⟨?_, fun changed => absurd rfl changed, ?_⟩
  · cases expects : call.expected with
    | none =>
        simp only [Stands, expects] at stands ⊢
        exact stands _
    | some version =>
        simp only [Stands, expects] at stands ⊢
        rcases stands with pending | ⟨settled, -⟩ | refused
        · exact .inl (pending _)
        · exact False.elim settled
        · exact False.elim refused
  · intro version expects _ settledNow
    simp only [Stands, expects] at stands
    rcases stands with pending | ⟨settled, -⟩ | refused
    · exact absurd (pending _) (settledNow.not_pending _ _)
    · exact False.elim settled
    · exact False.elim refused

variable {operation : RegistryOp} {next : operation.Reply → RegistryProgram Outcome}

/-- An operation that only a call without a version performs. -/
theorem advanced_unversioned
    {before after : RegistryWorld} (reply : operation.Reply)
    (stands : Stands root call (.perform operation next) before.store)
    (foreign : ∀ key version, ¬ Pending key version (.perform operation next) ∧
      ¬ Settled (.perform operation next) ∧ ¬ Refused (.perform operation next)) :
    Advanced root call operation next before after reply := by
  cases expects : call.expected with
  | none =>
      simp only [Stands, expects] at stands
      refine ⟨?_, fun _ => stands reply, fun version other => ?_⟩
      · simp only [Stands, expects]
        exact stands reply
      · rw [expects] at other
        cases other
  | some version =>
      simp only [Stands, expects] at stands
      obtain ⟨notPending, notSettled, notRefused⟩ := foreign (call.key root) version
      rcases stands with pending | ⟨settled, -⟩ | refused
      · exact absurd pending notPending
      · exact absurd settled notSettled
      · exact absurd refused notRefused

theorem advanced
    (bounded : Bounded world.store)
    (stands : Stands root call (.perform operation next) world.store) :
    Advanced root call operation next world (RegistryWorld.execute clock operation world).2
      (RegistryWorld.execute clock operation world).1 := by
  cases operation with
  | now => exact advanced_now stands
  | get key => exact advanced_get stands
  | txn key compare change => exact advanced_txn bounded stands
  | put key payload => exact advanced_unversioned _ stands fun _ _ => ⟨id, id, id⟩
  | delete key => exact advanced_unversioned _ stands fun _ _ => ⟨id, id, id⟩

variable {action : PoolAction RegistryCall}

/-- A step keeps what holds of the calls, and an operation that changes the store
belongs to a call that raises no conflict. -/
theorem Kept.step
    {crew next : Registrars} (kept : Kept root crew)
    (stepped : crew.step root clock action = some next) :
    Kept root next ∧ ∀ thread, action = .advance thread →
      next.state.store ≠ crew.state.store → ∃ call program,
        next.threads thread = some (call, program) ∧ Sure program := by
  cases action with
  | start thread call =>
      cases present : crew.threads thread with
      | some entry => simp [Registrars.step, Crew.step, present] at stepped
      | none =>
          simp only [Registrars.step, Crew.step, present, Option.some.injEq] at stepped
          subst stepped
          have fresh : Stands root call (call.program root) crew.state.store := by
            cases expects : call.expected with
            | none =>
                simp only [Stands, expects]
                exact RegistryCall.sure_program root expects
            | some version =>
                simp only [Stands, expects]
                exact .inl (RegistryCall.pending_program root expects)
          have notSettled : ∀ other, ¬ BothSettled root (call, call.program root) other := by
            rintro other ⟨-, ⟨version, -, expects, -⟩, settled, -⟩
            exact settled.not_pending _ _ (RegistryCall.pending_program root expects)
          refine ⟨⟨kept.bounded, ?_, ?_⟩, fun _ same => by cases same⟩
          · intro other running program found
            by_cases own : other = thread
            · subst own
              simp only [Function.update_self, Option.some.injEq, Prod.mk.injEq] at found
              obtain ⟨rfl, rfl⟩ := found
              exact fresh
            · simp only [Function.update_of_ne own] at found
              exact kept.stands other running program found
          · intro first second one two different foundFirst foundSecond both
            by_cases ownFirst : first = thread
            · subst ownFirst
              simp only [Function.update_self, Option.some.injEq] at foundFirst
              exact notSettled two (foundFirst ▸ both)
            · simp only [Function.update_of_ne ownFirst] at foundFirst
              by_cases ownSecond : second = thread
              · subst ownSecond
                simp only [Function.update_self, Option.some.injEq] at foundSecond
                exact notSettled one (foundSecond ▸ both.symm)
              · simp only [Function.update_of_ne ownSecond] at foundSecond
                exact kept.single first second one two different foundFirst foundSecond both
  | advance thread =>
      cases present : crew.threads thread with
      | none => simp [Registrars.step, Crew.step, present] at stepped
      | some entry =>
          obtain ⟨call, program⟩ := entry
          cases program with
          | done outcome => simp [Registrars.step, Crew.step, present] at stepped
          | raise => simp [Registrars.step, Crew.step, present] at stepped
          | perform operation rest =>
              simp only [Registrars.step, Crew.step, present, Option.some.injEq] at stepped
              subst stepped
              obtain ⟨later, bounded⟩ :=
                RegistryWorld.execute_later clock operation kept.bounded
              have own : Advanced root call operation rest crew.state
                  (RegistryWorld.execute clock operation crew.state).2
                  (RegistryWorld.execute clock operation crew.state).1 :=
                advanced kept.bounded (kept.stands thread call _ present)
              have alone : ∀ other two, other ≠ thread → crew.threads other = some two →
                  ¬ BothSettled root
                    (call, rest (RegistryWorld.execute clock operation crew.state).1) two := by
                rintro other two different found ⟨sameKey, ⟨version, nonzero, one, expects⟩,
                  settledNow, settledOther⟩
                rcases own.settled version one nonzero settledNow with before | ⟨value, there, same⟩
                · exact kept.single thread other (call, .perform operation rest) two
                    (Ne.symm different) present found
                    ⟨sameKey, ⟨version, nonzero, one, expects⟩, before, settledOther⟩
                · have stands := kept.stands other two.1 two.2 found
                  simp only [Stands, expects] at stands
                  rcases stands with pending | ⟨-, spent⟩ | refused
                  · exact settledOther.not_pending _ _ pending
                  · exact spent.2 value (sameKey ▸ there) same
                  · exact settledOther.not_refused refused
              refine ⟨⟨bounded, ?_, ?_⟩, ?_⟩
              · intro other running following found
                by_cases same : other = thread
                · subst same
                  simp only [Function.update_self, Option.some.injEq, Prod.mk.injEq] at found
                  obtain ⟨rfl, rfl⟩ := found
                  exact own.stands
                · simp only [Function.update_of_ne same] at found
                  exact (kept.stands other running following found).later later
              · intro first second one two different foundFirst foundSecond both
                by_cases ownFirst : first = thread
                · subst ownFirst
                  simp only [Function.update_self, Option.some.injEq] at foundFirst
                  simp only [Function.update_of_ne (Ne.symm different)] at foundSecond
                  exact alone second two (Ne.symm different) foundSecond (foundFirst ▸ both)
                · simp only [Function.update_of_ne ownFirst] at foundFirst
                  by_cases ownSecond : second = thread
                  · subst ownSecond
                    simp only [Function.update_self, Option.some.injEq] at foundSecond
                    exact alone first one ownFirst foundFirst (foundSecond ▸ both.symm)
                  · simp only [Function.update_of_ne ownSecond] at foundSecond
                    exact kept.single first second one two different foundFirst foundSecond both
              · rintro other ⟨⟩ changed
                exact ⟨call, _, Function.update_self .., own.sure changed⟩

variable {actions : List (PoolAction RegistryCall)} {finish : Registrars}

theorem Kept.run
    (kept : Kept root crew)
    (ran : Machine.run (Registrars.step root clock) crew actions = some finish) :
    Kept root finish := by
  induction actions generalizing crew with
  | nil =>
      obtain rfl := Option.some.inj ran
      exact kept
  | cons action rest ih =>
      obtain ⟨next, stepped, remaining⟩ := (Machine.run_cons_eq_some _ _ _ _ _).mp ran
      exact ih (kept.step stepped).1 remaining

theorem kept_idle {store : Etcd.Store} (bounded : Bounded store) :
    Kept root (Crew.idle ⟨store, 0⟩ : Registrars) :=
  ⟨bounded, fun _ _ _ found => by simp [Crew.idle] at found,
    fun _ _ _ _ _ found => by simp [Crew.idle] at found⟩

/-- A call that raises no conflict keeps to it. -/
theorem sure_step
    {crew next : Registrars} (found : crew.threads thread = some (call, program))
    (sure : Sure program) (stepped : crew.step root clock action = some next) :
    ∃ following, next.threads thread = some (call, following) ∧ Sure following := by
  cases action with
  | start other started =>
      cases present : crew.threads other with
      | some entry => simp [Registrars.step, Crew.step, present] at stepped
      | none =>
          simp only [Registrars.step, Crew.step, present, Option.some.injEq] at stepped
          subst stepped
          have different : thread ≠ other := by
            rintro rfl
            rw [present] at found
            cases found
          exact ⟨program, by simp only [Function.update_of_ne different, found], sure⟩
  | advance other =>
      cases present : crew.threads other with
      | none => simp [Registrars.step, Crew.step, present] at stepped
      | some entry =>
          obtain ⟨running, current⟩ := entry
          cases current with
          | done outcome => simp [Registrars.step, Crew.step, present] at stepped
          | raise => simp [Registrars.step, Crew.step, present] at stepped
          | perform operation rest =>
              simp only [Registrars.step, Crew.step, present, Option.some.injEq] at stepped
              subst stepped
              by_cases same : thread = other
              · subst same
                rw [present] at found
                obtain ⟨rfl, rfl⟩ := Prod.mk.inj (Option.some.inj found)
                exact ⟨_, Function.update_self .., sure _⟩
              · exact ⟨program, by simp only [Function.update_of_ne same, found], sure⟩

theorem sure_run
    (found : crew.threads thread = some (call, program)) (sure : Sure program)
    (ran : Machine.run (Registrars.step root clock) crew actions = some finish) :
    ∃ following, finish.threads thread = some (call, following) ∧ Sure following := by
  induction actions generalizing crew program with
  | nil =>
      obtain rfl := Option.some.inj ran
      exact ⟨program, found, sure⟩
  | cons action rest ih =>
      obtain ⟨next, stepped, remaining⟩ := (Machine.run_cons_eq_some _ _ _ _ _).mp ran
      obtain ⟨following, foundNext, sureNext⟩ := sure_step found sure stepped
      exact ih foundNext sureNext remaining

end Runs

/-! ## Compare-and-set -/

def Registrars.Returned (crew : Registrars) (thread : Nat) (call : RegistryCall)
    (outcome : Outcome) : Prop :=
  crew.threads thread = some (call, .done outcome)

def Registrars.next? (crew : Registrars) (thread : Nat) : Option RegistryOp :=
  match crew.threads thread with
  | some (_, .perform operation _) => some operation
  | _ => none

def RegistryOp.Writes (store : Etcd.Store) (key : Key) : RegistryOp → Prop
  | .put other _ => other = key
  | .txn other compare (.put _) => other = key ∧ compare.holds store key = true
  | _ => False

/-- Of the calls that present one version of a key, at most one succeeds. -/
def AtMostOneSucceeds (root : String) (crew : Registrars) (version : Int) : Prop :=
  ∀ first second one two outcomeOne outcomeTwo, first ≠ second →
    crew.Returned first one outcomeOne → crew.Returned second two outcomeTwo →
    one.key root = two.key root → one.expected = some version → two.expected = some version →
    outcomeOne.isConflict = true ∨ outcomeTwo.isConflict = true

/-- What an operation does to the versions of the keys. -/
structure Versioned (operation : RegistryOp) (before after : Etcd.Store) : Prop where
  /-- A key that is written has a higher version afterwards. -/
  written : ∀ key, operation.Writes before key → ∃ value, after.find? key = some value ∧
    ∀ old, before.find? key = some old → old.modRevision < value.modRevision
  /-- A key that is not written has its old value, or none. -/
  others : ∀ key, ¬ operation.Writes before key → ∀ value, after.find? key = some value →
    before.find? key = some value
  /-- The version 0 is presented with success only of a key that is absent; a
  write creates it, and a deletion changes nothing. -/
  zero : ∀ key compare change, operation = .txn key compare change → compare.version = 0 →
    compare.holds before key = true → before.find? key = none ∧
      match change with
      | .put _ => (after.find? key).isSome
      | .delete => after = before

theorem delete_of_absent (absent : store.find? key = none) : store.delete key = store := by
  unfold Etcd.Store.delete
  rw [absent]

theorem versioned_putJson (bounded : Bounded store) (key : Key) (payload : Dict) :
    ∃ value, (store.putJson key payload).find? key = some value ∧
      ∀ old, store.find? key = some old → old.modRevision < value.modRevision := by
  refine ⟨⟨payload, store.revision + 1⟩, by simp, fun old found => ?_⟩
  exact Nat.lt_succ_of_le (bounded key old found).2

variable {value : Etcd.Value} {other : Key}

theorem find?_of_delete
    (found : (store.delete key).find? other = some value) : store.find? other = some value := by
  rw [Etcd.Store.find?_delete] at found
  split at found
  · cases found
  · exact found

theorem find?_of_putJson
    {payload : Dict} (different : key ≠ other)
    (found : (store.putJson key payload).find? other = some value) :
    store.find? other = some value := by
  rwa [Etcd.Store.find?_putJson, if_neg different] at found

/-- Every operation treats the versions like this. -/
theorem versioned_execute
    (clock : Nat → Int) (operation : RegistryOp) (bounded : Bounded world.store) :
    Versioned operation world.store (RegistryWorld.execute clock operation world).2.store := by
  cases operation with
  | now => exact ⟨fun _ => False.elim, fun _ _ _ => id, fun _ _ _ same => by cases same⟩
  | get key => exact ⟨fun _ => False.elim, fun _ _ _ => id, fun _ _ _ same => by cases same⟩
  | put key payload =>
      refine ⟨?_, ?_, fun _ _ _ same => by cases same⟩
      · rintro other rfl
        exact versioned_putJson bounded key payload
      · exact fun other different value found => find?_of_putJson different found
  | delete key =>
      exact ⟨fun _ => False.elim, fun _ _ _ found => find?_of_delete found,
        fun _ _ _ same => by cases same⟩
  | txn key compare change =>
      cases holds : compare.holds world.store key with
      | false =>
          simp only [RegistryWorld.execute, holds]
          refine ⟨?_, fun _ _ _ => id, ?_⟩
          · intro other writes
            cases change with
            | put payload =>
                obtain ⟨rfl, held⟩ := writes
                rw [holds] at held
                cases held
            | delete => exact False.elim writes
          · rintro other otherCompare otherChange ⟨⟩ - held
            rw [holds] at held
            cases held
      | true =>
          simp only [RegistryWorld.execute, holds, if_true]
          cases change with
          | put payload =>
              refine ⟨?_, ?_, ?_⟩
              · rintro other ⟨rfl, -⟩
                exact versioned_putJson bounded key payload
              · intro other notWritten value found
                by_cases same : key = other
                · subst same
                  exact absurd ⟨rfl, holds⟩ notWritten
                · exact find?_of_putJson same found
              · rintro other otherCompare otherChange ⟨⟩ zero held
                refine ⟨Compare.absent_of_holds bounded held zero, ?_⟩
                simp [Change.run]
          | delete =>
              refine ⟨fun _ => False.elim, fun _ _ _ found => find?_of_delete found, ?_⟩
              rintro other otherCompare otherChange ⟨⟩ zero held
              have absent := Compare.absent_of_holds bounded held zero
              exact ⟨absent, delete_of_absent absent⟩

/-- In every run at most one of the calls that present the same version other than
0 of a key succeeds, a call that raises a conflict has not changed the store, and
every operation raises the versions it writes. -/
theorem compareAndSet_of_run
    (root : String) (clock : Nat → Int) (store : Etcd.Store)
    (actions : List (PoolAction RegistryCall)) (finish : Registrars) (bounded : Bounded store)
    (ran : Machine.run (Registrars.step root clock) (Crew.idle ⟨store, 0⟩) actions = some finish) :
    (∀ version, version ≠ 0 → AtMostOneSucceeds root finish version) ∧
      ∀ front action back before after, actions = front ++ action :: back →
        Machine.run (Registrars.step root clock) (Crew.idle ⟨store, 0⟩) front = some before →
        before.step root clock action = some after →
        ∀ thread, action = .advance thread →
          (∀ call raised, finish.Returned thread call (.conflict raised) →
            after.state.store = before.state.store) ∧
          ∀ operation, before.next? thread = some operation →
            Versioned operation before.state.store after.state.store := by
  have keptFinish := (kept_idle bounded).run ran
  constructor
  · intro version nonzero first second one two outcomeOne outcomeTwo different returnedFirst
      returnedSecond sameKey expectsFirst expectsSecond
    have settled : ∀ thread call outcome, finish.Returned thread call outcome →
        call.expected = some version → outcome.isConflict = false →
        Settled (.done outcome : RegistryProgram Outcome) :=
      fun _ _ _ _ _ succeeded => succeeded
    by_contra neither
    obtain ⟨noFirst, noSecond⟩ := not_or.mp neither
    exact keptFinish.single first second _ _ different returnedFirst returnedSecond
      ⟨sameKey, ⟨version, nonzero, expectsFirst, expectsSecond⟩,
        settled first one outcomeOne returnedFirst expectsFirst (by simpa using noFirst),
        settled second two outcomeTwo returnedSecond expectsSecond (by simpa using noSecond)⟩
  · rintro front action back before after rfl ranFront stepped thread rfl
    have keptBefore := (kept_idle bounded).run ranFront
    obtain ⟨middle, ranMiddle, ranBack⟩ := (Machine.run_append_eq_some _ _ _ _ _).mp ran
    obtain rfl : before = middle := Option.some.inj (ranFront.symm.trans ranMiddle)
    obtain ⟨next, steppedNext, ranRest⟩ := (Machine.run_cons_eq_some _ _ _ _ _).mp ranBack
    obtain rfl : after = next := Option.some.inj (stepped.symm.trans steppedNext)
    refine ⟨fun call raised returned => ?_, fun operation pending => ?_⟩
    · by_contra changed
      obtain ⟨running, program, found, sure⟩ :=
        (keptBefore.step stepped).2 thread rfl changed
      obtain ⟨following, foundFinish, sureFinish⟩ := sure_run found sure ranRest
      rw [returned] at foundFinish
      obtain ⟨-, rfl⟩ := Prod.mk.inj (Option.some.inj foundFinish)
      cases sureFinish
    · cases present : before.threads thread with
      | none => simp [Registrars.next?, present] at pending
      | some entry =>
          obtain ⟨call, program⟩ := entry
          cases program with
          | done outcome => simp [Registrars.next?, present] at pending
          | raise => simp [Registrars.next?, present] at pending
          | perform performed rest =>
              simp only [Registrars.next?, present, Option.some.injEq] at pending
              subst pending
              simp only [Registrars.step, Crew.step, present, Option.some.injEq] at stepped
              subst stepped
              exact versioned_execute clock performed keptBefore.bounded

/-! ## Creations of one application -/

/-- A registration that expects the application to be absent. -/
def creation : RegistryCall := .registerApp sampleManifest none none (some 0)

/-- A clock that stands still. -/
def stillClock : Nat → Int := fun _ => 0

/-- Two registrations at the same time. -/
def twoCreations : List (PoolAction RegistryCall) :=
  [.start 0 creation, .start 1 creation, .advance 0, .advance 1, .advance 0, .advance 1,
    .advance 0, .advance 1, .advance 0, .advance 1]

theorem bounded_empty : Bounded Etcd.Store.empty := by
  intro key value found
  cases found

theorem twoCreations_runs :
    (Machine.run (Registrars.step "k1s" stillClock) (Crew.idle ⟨Etcd.Store.empty, 0⟩)
      twoCreations).isSome = true := by
  decide +kernel

theorem compareAndSet_twoCreations :
    ∃ finish, Machine.run (Registrars.step "k1s" stillClock)
        (Crew.idle ⟨Etcd.Store.empty, 0⟩) twoCreations = some finish ∧
      ∀ version, version ≠ 0 → AtMostOneSucceeds "k1s" finish version := by
  obtain ⟨finish, ran⟩ := Option.isSome_iff_exists.mp twoCreations_runs
  exact ⟨finish, ran, (compareAndSet_of_run "k1s" stillClock Etcd.Store.empty twoCreations
    finish bounded_empty ran).1⟩

/-- A registration, a deletion, and a second registration, one after the other. -/
def createdTwice : List (PoolAction RegistryCall) :=
  [.start 0 creation, .advance 0, .advance 0, .advance 0, .advance 0,
    .start 1 (.deleteRegisteredApp "web" none), .advance 1, .advance 1,
    .start 2 creation, .advance 2, .advance 2, .advance 2, .advance 2]

/-- The outcome of a call that has ended. -/
def Registrars.outcome? (crew : Registrars) (thread : Nat) : Option Outcome :=
  match crew.threads thread with
  | some (_, .done outcome) => some outcome
  | _ => none

theorem createdTwice_outcomes :
    (Machine.run (Registrars.step "k1s" stillClock) (Crew.idle ⟨Etcd.Store.empty, 0⟩)
      createdTwice).map (fun crew => (crew.outcome? 0, crew.outcome? 2)) =
      some (some (.registered 2), some (.registered 4)) := by
  decide +kernel

theorem createdTwice_calls :
    (Machine.run (Registrars.step "k1s" stillClock) (Crew.idle ⟨Etcd.Store.empty, 0⟩)
      createdTwice).map (fun crew =>
        ((crew.threads 0).map Prod.fst, (crew.threads 2).map Prod.fst)) =
      some (some creation, some creation) := rfl

theorem Registrars.returned_of_outcome?
    {outcome : Outcome} (called : (crew.threads thread).map Prod.fst = some call)
    (ended : crew.outcome? thread = some outcome) : crew.Returned thread call outcome := by
  unfold Registrars.outcome? at ended
  split at ended
  · rename_i started given found
    rw [found] at called
    obtain rfl := Option.some.inj called
    obtain rfl := Option.some.inj ended
    exact found
  · cases ended

/-- Two calls that present the version 0 of a key can succeed. -/
theorem not_atMostOneSucceeds_createdTwice :
    ¬ ∀ (root : String) (clock : Nat → Int) (store : Etcd.Store)
        (actions : List (PoolAction RegistryCall)) (finish : Registrars), Bounded store →
      Machine.run (Registrars.step root clock) (Crew.idle ⟨store, 0⟩) actions = some finish →
      ∀ version, AtMostOneSucceeds root finish version := by
  intro always
  obtain ⟨finish, ran, outcomes⟩ := Option.map_eq_some_iff.mp createdTwice_outcomes
  have calls := createdTwice_calls
  rw [ran, Option.map_some, Option.some.injEq, Prod.mk.injEq] at calls
  rw [Prod.mk.injEq] at outcomes
  have both := always "k1s" stillClock Etcd.Store.empty createdTwice finish bounded_empty ran 0
    0 2 creation creation (.registered 2) (.registered 4) (by decide)
    (Registrars.returned_of_outcome? calls.1 outcomes.1)
    (Registrars.returned_of_outcome? calls.2 outcomes.2) rfl rfl rfl
  rcases both with conflict | conflict
  · cases conflict
  · cases conflict

/-! ## Lost versions -/

theorem Later.trans
    {first second third : Etcd.Store} (one : Later first second) (two : Later second third) :
    Later first third := by
  refine ⟨one.revision.trans two.revision, fun key value found => ?_⟩
  rcases two.values key value found with old | new
  · exact one.values key value old
  · exact .inr (Nat.lt_of_le_of_lt one.revision new)

theorem later_step
    {root : String} {clock : Nat → Int} {crew next : Registrars}
    {action : PoolAction RegistryCall} (bounded : Bounded crew.state.store)
    (stepped : Registrars.step root clock crew action = some next) :
    Later crew.state.store next.state.store ∧ Bounded next.state.store := by
  rcases Crew.state_of_step stepped with same | ⟨operation, same⟩
  · rw [same]
    exact ⟨.refl _, bounded⟩
  · rw [same]
    exact RegistryWorld.execute_later clock operation bounded

theorem later_of_run
    {root : String} {clock : Nat → Int} {start finish : Registrars}
    {actions : List (PoolAction RegistryCall)} (bounded : Bounded start.state.store)
    (ran : Machine.run (Registrars.step root clock) start actions = some finish) :
    Later start.state.store finish.state.store ∧ Bounded finish.state.store := by
  let relation (first second : Registrars) : Prop := Bounded first.state.store →
    Later first.state.store second.state.store ∧ Bounded second.state.store
  refine Machine.related_of_run relation (fun _ bounded => ⟨.refl _, bounded⟩) ?_
    (fun _ _ _ stepped bounded => later_step bounded stepped) ran bounded
  intro first second third one two bounded
  obtain ⟨before, kept⟩ := one bounded
  obtain ⟨after, still⟩ := two kept
  exact ⟨before.trans after, still⟩

end Registry
end K1s
