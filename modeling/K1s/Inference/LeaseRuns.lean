import K1s.Inference.EtcdLeases
import K1s.Inference.SqliteLeases

/-!
# Reservations and releases at the same time

The calls of any number of controllers, interleaved request by request.  Every
operation of a call changes records of its own lease only, a reservation that
returns nothing leaves no record, one that returns a bundle holds it, and a
release leaves no record of its lease: provided that a reservation draws an id
that is not in use, and that a call on a lease is not started while another one
on the same lease is under way.  In SQLite the second condition is not needed
between releases.

In etcd it is.  A release deletes the keys it has listed without looking at them
again, so a second release of the same lease can delete a key that has been taken
by another lease in the meantime.
-/

namespace K1s
namespace Inference

open Machine (Along)
open Program (PoolAction)

abbrev EtcdCrew := Crew EtcdWorld EtcdOp EtcdOp.Reply LeaseOutcome LeaseCall

abbrev SqliteCrew := Crew SqliteWorld SqliteOp SqliteOp.Reply LeaseOutcome LeaseCall

section Etcd

variable (root : String) (outside : Outside)

def EtcdCrew.step : EtcdCrew → PoolAction LeaseCall → Option EtcdCrew :=
  Crew.step (EtcdWorld.execute outside) (LeaseCall.program (etcdLeases root))

/-- A reservation draws an id that no record has, and no call is started while
another one on the same lease is under way. -/
def EtcdCrew.StartsApart : EtcdCrew → PoolAction LeaseCall → Prop :=
  Crew.StartsApart (etcdProtocol root outside) (leaseReady (etcdTable root))

/-- The operation changes the records of its own lease only, a release adds none,
and a call that ends has the result it is for. -/
def EtcdCrew.Sound : EtcdCrew → PoolAction LeaseCall → Prop :=
  Crew.Sound (etcdProtocol root outside) (leaseResult (etcdTable root) (etcdKeys root))

end Etcd

section Sqlite

variable (outside : SqliteOutside)

def SqliteCrew.step : SqliteCrew → PoolAction LeaseCall → Option SqliteCrew :=
  Crew.step (SqliteWorld.execute outside) (LeaseCall.program sqliteLeases)

/-- A reservation draws an id that no record has, and no call but a release among
releases is started while another one on the same lease is under way. -/
def SqliteCrew.StartsApart : SqliteCrew → PoolAction LeaseCall → Prop :=
  Crew.StartsApart (sqliteProtocol outside) (leaseReady sqliteTable)

/-- The operation changes the records of its own lease only, a release adds none,
and a call that ends has the result it is for. -/
def SqliteCrew.Sound : SqliteCrew → PoolAction LeaseCall → Prop :=
  Crew.Sound (sqliteProtocol outside) (leaseResult sqliteTable sqliteKeys)

end Sqlite

/-- Leases are exclusive and reservations are atomic, in every interleaving in
which no two calls on one lease get in each other's way. -/
theorem leases_sound_of_startsApart
    (root : String) (etcdOutside : Outside) (etcdWorld : EtcdWorld)
    (sqliteOutside : SqliteOutside) (sqliteWorld : SqliteWorld)
    (actions : List (PoolAction LeaseCall)) :
    (Along (EtcdCrew.step root etcdOutside) (EtcdCrew.StartsApart root etcdOutside)
        (Crew.idle etcdWorld) actions →
      Along (EtcdCrew.step root etcdOutside) (EtcdCrew.Sound root etcdOutside)
        (Crew.idle etcdWorld) actions) ∧
    (Along (SqliteCrew.step sqliteOutside) (SqliteCrew.StartsApart sqliteOutside)
        (Crew.idle sqliteWorld) actions →
      Along (SqliteCrew.step sqliteOutside) (SqliteCrew.Sound sqliteOutside)
        (Crew.idle sqliteWorld) actions) := by
  constructor
  · intro apart
    exact Crew.sound_of_startsApart
      (fun call crew ready => follows_program (etcdLeases_lawful root etcdOutside) call crew ready)
      etcdWorld actions apart
  · intro apart
    exact Crew.sound_of_startsApart
      (fun call crew ready => follows_program (sqliteLeases_lawful sqliteOutside) call crew ready)
      sqliteWorld actions apart

/-! ## Two reservations side by side -/

/-- A cell of one stage on one GPU. -/
def sampleRequest (cellKey : String) : ReserveRequest where
  cellKey := cellKey
  placements := [⟨0, "n1", [0]⟩]
  ttlSeconds := 60
  masterStage := 0
  masterPortMin := 29500
  masterPortMax := 29500
  apiPortMin := 8000
  apiPortMax := 8001
  executorType := "ray"
  fallbackMode := "none"
  policyMode := "best_effort"

/-- A clock that stands still, and a network that loses nothing. -/
def calmOutside : Outside := ⟨fun _ => 0, fun _ => .answered⟩

/-- A store without records. -/
def emptyWorld : EtcdWorld := ⟨.empty, 0⟩

theorem noRecord_emptyWorld (leaseId : String) (calls : Nat) :
    (etcdTable "k1s").NoRecord leaseId ⟨.empty, calls⟩ := by
  intro key
  refine LeaseTable.records_of_none _ ?_ leaseId
  simp [etcdTable, Etcd.Store.empty, Etcd.Store.find?]

theorem along_of_forall_mem
    {σ α : Type} {step : σ → α → Option σ} {condition : σ → α → Prop} {actions : List α}
    (always : ∀ action ∈ actions, ∀ state, condition state action)
    (state : σ) : Along step condition state actions := by
  induction actions generalizing state with
  | nil => trivial
  | cons action rest ih =>
      exact ⟨always action (List.mem_cons_self ..) state, fun next _ =>
        ih (fun other member => always other (List.mem_cons_of_mem _ member))
          next⟩

/-- Two reservations on an empty store, request by request. -/
def sideBySide : List (PoolAction LeaseCall) :=
  [.start 0 (.reserve "l-1" (sampleRequest "a")), .start 1 (.reserve "l-2" (sampleRequest "b"))] ++
    [.advance 0, .advance 1, .advance 0, .advance 1, .advance 0, .advance 0]

/-- A database without rows, whose transactions never raise. -/
def calmSqlite : SqliteOutside := ⟨fun _ => 0, fun _ => false⟩

/-- Tables without rows. -/
def emptyTables : SqliteWorld := ⟨.empty, 0⟩

theorem noRecord_emptyTables (leaseId : String) (calls : Nat) :
    sqliteTable.NoRecord leaseId ⟨.empty, calls⟩ := by
  intro resource
  exact LeaseTable.records_of_none _ rfl leaseId

theorem startsApart_sideBySide :
    Along (EtcdCrew.step "k1s" calmOutside) (EtcdCrew.StartsApart "k1s" calmOutside)
      (Crew.idle emptyWorld) sideBySide := by
  refine ⟨⟨⟨by decide, noRecord_emptyWorld "l-1" 0⟩, ?_⟩, fun second stepped => ?_⟩
  · rintro thread running ⟨operation, next, found⟩
    cases found
  cases stepped
  refine ⟨⟨⟨by decide, noRecord_emptyWorld "l-2" 0⟩, ?_⟩, fun third _ => ?_⟩
  · rintro thread running ⟨operation, next, found⟩
    by_cases first : thread = 0
    · subst first
      cases found
      exact .inl (by decide)
    · simp [Crew.idle, Function.update_of_ne first] at found
  · refine along_of_forall_mem ?_ third
    intro action member state
    fin_cases member <;> trivial

theorem sqliteStartsApart_sideBySide :
    Along (SqliteCrew.step calmSqlite) (SqliteCrew.StartsApart calmSqlite)
      (Crew.idle emptyTables) sideBySide := by
  refine ⟨⟨⟨by decide, noRecord_emptyTables "l-1" 0⟩, ?_⟩, fun second stepped => ?_⟩
  · rintro thread running ⟨operation, next, found⟩
    cases found
  cases stepped
  refine ⟨⟨⟨by decide, noRecord_emptyTables "l-2" 0⟩, ?_⟩, fun third _ => ?_⟩
  · rintro thread running ⟨operation, next, found⟩
    by_cases first : thread = 0
    · subst first
      cases found
      exact .inl (by decide)
    · simp [Crew.idle, Function.update_of_ne first] at found
  · refine along_of_forall_mem ?_ third
    intro action member state
    fin_cases member <;> trivial

theorem leases_sound_sideBySide :
    (Along (EtcdCrew.step "k1s" calmOutside) (EtcdCrew.StartsApart "k1s" calmOutside)
        (Crew.idle emptyWorld) sideBySide ∧
      Along (EtcdCrew.step "k1s" calmOutside) (EtcdCrew.Sound "k1s" calmOutside)
        (Crew.idle emptyWorld) sideBySide) ∧
    Along (SqliteCrew.step calmSqlite) (SqliteCrew.StartsApart calmSqlite)
        (Crew.idle emptyTables) sideBySide ∧
      Along (SqliteCrew.step calmSqlite) (SqliteCrew.Sound calmSqlite)
        (Crew.idle emptyTables) sideBySide := by
  have sound := leases_sound_of_startsApart "k1s" calmOutside emptyWorld calmSqlite emptyTables
    sideBySide
  exact ⟨⟨startsApart_sideBySide, sound.1 startsApart_sideBySide⟩,
    sqliteStartsApart_sideBySide, sound.2 sqliteStartsApart_sideBySide⟩

/-! ## Two releases of one lease -/

def insertedRows (store : Etcd.Store) (start : Etcd.Key) : List (Etcd.Key × Etcd.Value) :=
  (store.kvs.entries.filter fun entry => Etcd.Store.inPrefix start entry.1).insertionSort
    fun first second => Etcd.Store.keyLe first second = true

theorem listPrefix_eq_insertedRows (store : Etcd.Store) (start : Etcd.Key) :
    store.listPrefix start = insertedRows store start := by
  have permuted : (store.listPrefix start).Perm (insertedRows store start) :=
    (List.mergeSort_perm _ _).trans (List.perm_insertionSort _ _).symm
  have total : Std.Total fun first second => Etcd.Store.keyLe first second = true :=
    ⟨Etcd.Store.keyLe_total⟩
  have transitive : IsTrans _ fun first second => Etcd.Store.keyLe first second = true :=
    ⟨Etcd.Store.keyLe_trans⟩
  exact Etcd.Store.rows_eq_of_perm permuted (store.nodup_listPrefix start)
    (store.sorted_listPrefix start) (List.pairwise_insertionSort _ _)

/-- `EtcdWorld.execute` with listings that can be evaluated. -/
def EtcdWorld.evaluate (outside : Outside) :
    (operation : EtcdOp) → EtcdWorld → operation.Reply × EtcdWorld
  | .request (.list start), world =>
      match outside.fate world.calls with
      | .answered => (some (insertedRows world.store start), ⟨world.store, world.calls + 1⟩)
      | .requestLost => (none, { world with calls := world.calls + 1 })
      | .answerLost => (none, ⟨world.store, world.calls + 1⟩)
  | operation, world => EtcdWorld.execute outside operation world

theorem EtcdWorld.execute_eq_evaluate (outside : Outside) :
    EtcdWorld.execute outside = EtcdWorld.evaluate outside := by
  funext operation world
  match operation with
  | .now => rfl
  | .request (.create _ _) => rfl
  | .request (.delete _) => rfl
  | .request (.list start) =>
      cases fate : outside.fate world.calls <;>
        simp only [EtcdWorld.execute, EtcdWorld.evaluate, EtcdRequest.run, fate,
          listPrefix_eq_insertedRows]

/-- The next operation of the thread takes a record from a lease that is not the
lease of its call. -/
def EtcdCrew.takesRecord (outside : Outside) (thread : Nat) (leaseId : String) (key : Etcd.Key)
    (crew : EtcdCrew) : Bool :=
  match crew.threads thread with
  | some (call, .perform operation _) =>
      decide (leaseId ≠ call.leaseId) &&
        ((etcdTable "k1s").records leaseId crew.state key).isSome &&
        ((etcdTable "k1s").records leaseId
          (EtcdWorld.evaluate outside operation crew.state).2 key).isNone
  | _ => false

theorem not_sound_of_takesRecord
    {outside : Outside} {thread : Nat} {leaseId : String} {key : Etcd.Key} {crew : EtcdCrew}
    (takes : crew.takesRecord outside thread leaseId key = true) :
    ¬ crew.Sound "k1s" outside (.advance thread) := by
  intro sound
  unfold EtcdCrew.takesRecord at takes
  split at takes
  · rename_i call operation next running
    obtain ⟨⟨keeps, -⟩, -⟩ := sound call operation next running
    simp only [Bool.and_eq_true, decide_eq_true_eq] at takes
    obtain ⟨⟨different, present⟩, gone⟩ := takes
    have same := congrFun (keeps leaseId different) key
    change (etcdTable "k1s").records leaseId (EtcdWorld.execute outside operation crew.state).2
      key = _ at same
    rw [EtcdWorld.execute_eq_evaluate] at same
    rw [same] at gone
    simp_all
  · cases takes

/-- Two controllers release the lease of one cell.  The first has listed the GPU
when the second one deletes it; another cell takes the GPU; then the first one
deletes it. -/
def twoReleases : List (PoolAction LeaseCall) :=
  [.start 0 (.reserve "l-1" (sampleRequest "a")), .start 1 (.reserve "l-2" (sampleRequest "b"))] ++
    [.advance 0, .advance 0, .advance 0, .advance 0,
      .start 2 (.release "l-1"), .advance 2, .advance 2, .advance 2,
      .start 3 (.release "l-1"), .advance 3, .advance 3, .advance 3,
      .advance 1, .advance 1]

theorem twoReleases_takesRecord :
    (Machine.run (Crew.step (EtcdWorld.evaluate calmOutside)
        (LeaseCall.program (etcdLeases "k1s"))) (Crew.idle emptyWorld) twoReleases).any
      (EtcdCrew.takesRecord calmOutside 2 "l-2" (gpuLeaseKey "k1s" ("n1", 0))) = true := by
  decide +kernel

/-- A reservation draws an id that no record has. -/
def EtcdCrew.DrawsFresh (root : String) (crew : EtcdCrew) : PoolAction LeaseCall → Prop
  | .start _ call => leaseReady (etcdTable root) call crew
  | .advance _ => True

/-- Not every interleaving is sound, although every reservation draws a new id. -/
theorem not_sound_twoReleases :
    ¬ ∀ (root : String) (outside : Outside) (world : EtcdWorld)
        (actions : List (PoolAction LeaseCall)),
      Along (EtcdCrew.step root outside) (EtcdCrew.DrawsFresh root) (Crew.idle world) actions →
      Along (EtcdCrew.step root outside) (EtcdCrew.Sound root outside)
        (Crew.idle world) actions := by
  intro always
  obtain ⟨crew, ran, takes⟩ := (Option.any_eq_true _ _).mp twoReleases_takesRecord
  rw [← EtcdWorld.execute_eq_evaluate] at ran
  have fresh : Along (EtcdCrew.step "k1s" calmOutside) (EtcdCrew.DrawsFresh "k1s")
      (Crew.idle emptyWorld) (twoReleases ++ [.advance 2]) := by
    refine ⟨⟨by decide, noRecord_emptyWorld "l-1" 0⟩, fun second stepped => ?_⟩
    cases stepped
    refine ⟨⟨by decide, noRecord_emptyWorld "l-2" 0⟩, fun third _ => ?_⟩
    refine along_of_forall_mem ?_ third
    intro action member state
    fin_cases member <;> trivial
  have sound := (always "k1s" calmOutside emptyWorld _ fresh).split ran
  exact not_sound_of_takesRecord takes sound.2.1

end Inference
end K1s
