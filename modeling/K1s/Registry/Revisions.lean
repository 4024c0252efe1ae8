import K1s.Lib.Dictionary
import K1s.Lib.Program
import K1s.Py.Json

/-!
# Revisions of an application

`prepare_revision` reads the newest revision of an application and, if its hash is
not that of the manifest, inserts the next number.  Both stores read and insert in
two requests.  The SQLite store keeps the row that it has for a number, the etcd
store writes over it; in both the caller is told the number that it chose.

The main result is about the calls for one application, interleaved request by
request: what is returned agrees with what is stored exactly as long as no call
inserts a number that has been taken for another hash.
-/

namespace K1s
namespace Registry

open Py Program

/-! ## The calls -/

/-- A row of `app_revisions`, or the record of a revision in etcd. -/
structure RevisionRow where
  specHash : String
  spec : Json
  image : String
  createdAt : String
  status : String
  deriving DecidableEq

/-- The hash that `prepare_revision` is given, what it stores of the manifest, and
the time of the call. -/
structure RevisionCall where
  specHash : String
  spec : Json
  image : String
  now : String
  deriving DecidableEq

/-- The revisions of the application by their numbers. -/
abbrev Revisions := Dictionary Nat RevisionRow

inductive StateStore
  | sqlite
  | etcd
  deriving DecidableEq

/-- The requests of a call. -/
inductive RevisionOp
  /-- `_get_latest_revision`. -/
  | latest
  /-- `INSERT … ON CONFLICT DO NOTHING` in SQLite, `_put_json` in etcd. -/
  | insert (revision : Nat) (row : RevisionRow)

def RevisionOp.Reply : RevisionOp → Type
  | .latest => Option (Nat × RevisionRow)
  | .insert _ _ => Unit

/-- The row with the greatest number. -/
def latestRevision (rows : Revisions) : Option (Nat × RevisionRow) :=
  rows.entries.argmax Prod.fst

def insertRevision
    (store : StateStore) (revision : Nat) (row : RevisionRow)
    (rows : Revisions) : Revisions :=
  if store = .sqlite ∧ (rows.find? revision).isSome then rows else rows.set revision row

/-- The effect of a request. -/
def RevisionOp.execute (store : StateStore) :
    (operation : RevisionOp) → Revisions → operation.Reply × Revisions
  | .latest, rows => (latestRevision rows, rows)
  | .insert revision row, rows => ((), insertRevision store revision row rows)

/-- A call in progress. -/
abbrev RevisionProgram := Program RevisionOp RevisionOp.Reply

def RevisionCall.row (call : RevisionCall) : RevisionRow where
  specHash := call.specHash
  spec := call.spec
  image := call.image
  createdAt := call.now
  status := "pending"

/-- The second half of `prepare_revision`, after a newest revision of this number. -/
def insertNext (call : RevisionCall) (newest : Nat) : RevisionProgram (Nat × Bool) :=
  .perform (.insert (newest + 1) call.row) fun _ => .done (newest + 1, true)

def prepareRevision (call : RevisionCall) : RevisionProgram (Nat × Bool) :=
  .perform .latest fun (latest : Option (Nat × RevisionRow)) =>
    match latest with
    | some (revision, row) =>
        if row.specHash = call.specHash then .done (revision, false)
        else insertNext call revision
    | none => insertNext call 0

/-- What a call came to. -/
structure RevisionAnswer where
  call : RevisionCall
  revision : Nat
  created : Bool

def answer (call : RevisionCall) : RevisionProgram RevisionAnswer :=
  (prepareRevision call).andThen fun returned => .done ⟨call, returned.1, returned.2⟩

/-- The calls for one application on its revisions. -/
abbrev RevisionPool := Pool Revisions RevisionOp RevisionOp.Reply RevisionAnswer

/-- One action of the calls. -/
def RevisionPool.step (store : StateStore) :
    RevisionPool → PoolAction RevisionCall → Option RevisionPool :=
  Pool.step (RevisionOp.execute store) answer

/-! ## What the claim says -/

def RevisionPool.Returned (pool : RevisionPool) (answer : RevisionAnswer) : Prop :=
  ∃ thread, pool.threads thread = some (.done answer)

/-- A returned revision is stored with the hash of its call. -/
def RevisionPool.Recorded (pool : RevisionPool) : Prop :=
  ∀ answer, pool.Returned answer → ∃ row, pool.state.find? answer.revision = some row ∧
      row.specHash = answer.call.specHash

/-- Calls that were told the same revision were given the same hash. -/
def RevisionPool.SameHash (pool : RevisionPool) : Prop :=
  ∀ first second, pool.Returned first → pool.Returned second →
    first.revision = second.revision → first.call.specHash = second.call.specHash

/-- A number that is inserted and was not there is greater than all that are. -/
def RevisionPool.CreatesAbove
    (pool : RevisionPool)
    (action : PoolAction RevisionCall) : Prop :=
  ∀ thread revision row, action = .advance thread →
    pool.pending thread = some (.insert revision row) →
    pool.state.find? revision = none → ∀ other, (pool.state.find? other).isSome → other < revision

/-- Revisions are what their callers were told, and numbers grow. -/
structure RevisionPool.Sound
    (store : StateStore) (pool : RevisionPool)
    (action : PoolAction RevisionCall) : Prop where
  recorded : ∀ next, pool.step store action = some next → next.Recorded
  sameHash : ∀ next, pool.step store action = some next → next.SameHash
  above : pool.CreatesAbove action

/-- A number that is inserted is free, or taken for the same hash. -/
def RevisionPool.InsertsFree
    (pool : RevisionPool)
    (action : PoolAction RevisionCall) : Prop :=
  ∀ thread revision row taken, action = .advance thread →
    pool.pending thread = some (.insert revision row) →
    pool.state.find? revision = some taken → taken.specHash = row.specHash

theorem RevisionPool.Recorded.sameHash
    {pool : RevisionPool}
    (recorded : pool.Recorded) : pool.SameHash := by
  intro first second firstReturned secondReturned same
  obtain ⟨row, found, firstHash⟩ := recorded first firstReturned
  obtain ⟨other, otherFound, secondHash⟩ := recorded second secondReturned
  rw [same, otherFound] at found
  obtain rfl := Option.some.inj found
  rw [← firstHash, secondHash]

/-! ## The requests -/

theorem latestRevision_eq_some
    {rows : Revisions} {revision : Nat} {row : RevisionRow}
    (latest : latestRevision rows = some (revision, row)) :
    rows.find? revision = some row ∧ ∀ other, (rows.find? other).isSome → other ≤ revision := by
  refine ⟨(rows.find?_eq_some_iff revision row).mpr (List.argmax_mem latest), ?_⟩
  intro other present
  obtain ⟨found, isRow⟩ := Option.isSome_iff_exists.mp present
  exact List.le_of_mem_argmax ((rows.find?_eq_some_iff other found).mp isRow) latest

theorem latestRevision_eq_none
    {rows : Revisions} (latest : latestRevision rows = none)
    (revision : Nat) : rows.find? revision = none := by
  have empty : rows.entries = [] := List.argmax_eq_none.mp latest
  cases found : rows.find? revision with
  | none => rfl
  | some row =>
      have member := (rows.find?_eq_some_iff revision row).mp found
      rw [empty] at member
      cases member

/-- An insertion leaves the other numbers alone. -/
theorem find?_insertRevision_of_ne
    (store : StateStore) (rows : Revisions) (row : RevisionRow) {revision other : Nat}
    (apart : other ≠ revision) :
    (insertRevision store revision row rows).find? other = rows.find? other := by
  unfold insertRevision
  split
  · rfl
  · rw [Dictionary.find?_set, if_neg (Ne.symm apart)]

/-- Afterwards the number has the row, or in SQLite the one that it had. -/
theorem find?_insertRevision
    (store : StateStore) (rows : Revisions) (row : RevisionRow) (revision : Nat) :
    (insertRevision store revision row rows).find? revision = some row ∨
      ∃ taken, store = .sqlite ∧ rows.find? revision = some taken ∧
        (insertRevision store revision row rows).find? revision = some taken := by
  unfold insertRevision
  split
  · next kept =>
      obtain ⟨taken, found⟩ := Option.isSome_iff_exists.mp kept.2
      exact .inr ⟨taken, kept.1, found, found⟩
  · exact .inl (by rw [Dictionary.find?_set, if_pos rfl])

/-- Numbers stay taken. -/
theorem isSome_insertRevision
    (store : StateStore) (rows : Revisions) (row : RevisionRow) (revision : Nat)
    {other : Nat} (present : (rows.find? other).isSome) :
    ((insertRevision store revision row rows).find? other).isSome := by
  by_cases same : other = revision
  · subst same
    rcases find?_insertRevision store rows row other with new | ⟨taken, -, -, kept⟩
    · rw [new, Option.isSome_some]
    · rw [kept, Option.isSome_some]
  · rwa [find?_insertRevision_of_ne store rows row same]

/-! ## The state of a call -/

/-- What a call can be at, over rows that began as the given ones. -/
inductive CallState (initial rows : Revisions) : RevisionProgram RevisionAnswer → Prop
  /-- It has not begun. -/
  | begun (call : RevisionCall) : CallState initial rows (answer call)
  /-- It has read that this number is the newest one, and will insert the next. -/
  | inserting
      (call : RevisionCall)
      (newest : Nat)
      (read : newest = 0 ∨ (rows.find? newest).isSome)
      (free : initial.find? (newest + 1) = none)
      (next : (∀ other, (rows.find? other).isSome → other ≤ newest) ∨
        (rows.find? (newest + 1)).isSome) :
      CallState initial rows
        (.perform (.insert (newest + 1) call.row) fun _ => .done ⟨call, newest + 1, true⟩)
  /-- It has returned. -/
  | returned
      (answer : RevisionAnswer)
      (row : RevisionRow)
      (found : rows.find? answer.revision = some row)
      (same : row.specHash = answer.call.specHash) :
      CallState initial rows (.done answer)

/-- What holds of the calls at any time: each is at one of its states, and a row
that was not there at first was returned by some call. -/
structure RevisionPool.Kept (initial : Revisions) (pool : RevisionPool) : Prop where
  calls : ∀ thread program, pool.threads thread = some program →
    CallState initial pool.state program
  origin : ∀ revision row, pool.state.find? revision = some row → (initial.find? revision).isSome ∨
      ∃ answer, pool.Returned answer ∧ answer.revision = revision ∧
        answer.call.specHash = row.specHash
  keeps : ∀ revision, (initial.find? revision).isSome → (pool.state.find? revision).isSome

theorem RevisionPool.kept_idle (rows : Revisions) :
    RevisionPool.Kept rows (Pool.idle rows) where
  calls _ _ running := by cases running
  origin revision row found := .inl (by
    rw [show rows.find? revision = some row from found, Option.isSome_some])
  keeps _ present := present

theorem callState_read
    {initial rows : Revisions}
    (keeps : ∀ revision, (initial.find? revision).isSome → (rows.find? revision).isSome)
    (call : RevisionCall) :
    ∃ rest : Option (Nat × RevisionRow) → RevisionProgram RevisionAnswer,
      answer call = .perform .latest rest ∧
        CallState initial rows (rest (latestRevision rows)) := by
  have free : ∀ newest, (∀ other, (rows.find? other).isSome → other ≤ newest) →
      initial.find? (newest + 1) = none := by
    intro newest bound
    cases found : initial.find? (newest + 1) with
    | none => rfl
    | some row =>
        have := bound (newest + 1) (keeps (newest + 1) (by rw [found, Option.isSome_some]))
        omega
  refine ⟨_, rfl, ?_⟩
  cases latest : latestRevision rows with
  | none =>
      have empty := latestRevision_eq_none latest
      have bound : ∀ other, (rows.find? other).isSome → other ≤ 0 := by
        intro other present
        rw [empty other] at present
        cases present
      exact .inserting call 0 (.inl rfl) (free 0 bound) (.inl bound)
  | some newest =>
      obtain ⟨revision, row⟩ := newest
      obtain ⟨found, bound⟩ := latestRevision_eq_some latest
      by_cases same : row.specHash = call.specHash
      · simp only [same, if_true]
        exact .returned ⟨call, revision, false⟩ row found same
      · simp only [same, if_false]
        have read : (rows.find? revision).isSome := by rw [found, Option.isSome_some]
        exact .inserting call revision (.inr read) (free revision bound) (.inl bound)

/-- A call that is about to insert finds the number free only above all others. -/
theorem CallState.above
    {initial rows : Revisions} {revision : Nat} {row : RevisionRow}
    {rest : Unit → RevisionProgram RevisionAnswer}
    (state : CallState initial rows (.perform (.insert revision row) rest))
    (absent : rows.find? revision = none) (other : Nat)
    (present : (rows.find? other).isSome) : other < revision := by
  cases state with
  | inserting call newest read free next =>
      rcases next with bound | taken
      · exact Nat.lt_succ_of_le (bound other present)
      · rw [absent] at taken
        cases taken

/-- Another call's insertion does not disturb a call. -/
theorem CallState.insert
    {initial rows : Revisions} {program : RevisionProgram RevisionAnswer} {newest : Nat}
    {row : RevisionRow} (store : StateStore) (state : CallState initial rows program)
    (read : newest = 0 ∨ (rows.find? newest).isSome)
    (matching : ∀ taken, rows.find? (newest + 1) = some taken → taken.specHash = row.specHash) :
    CallState initial (insertRevision store (newest + 1) row rows) program := by
  have stays : ∀ other, (rows.find? other).isSome →
      ((insertRevision store (newest + 1) row rows).find? other).isSome :=
    fun other present => isSome_insertRevision store rows row _ present
  cases state with
  | begun call => exact .begun call
  | inserting call number numberRead free next =>
      refine .inserting call number (numberRead.imp id (stays number)) free ?_
      rcases next with bound | taken
      · by_cases same : newest + 1 = number + 1
        · refine .inr ?_
          rw [← same]
          rcases find?_insertRevision store rows row (newest + 1) with
            new | ⟨taken, -, -, kept⟩
          · rw [new, Option.isSome_some]
          · rw [kept, Option.isSome_some]
        · refine .inl fun other present => ?_
          by_cases inserted : other = newest + 1
          · have atMost : newest ≤ number := by
              rcases read with zero | present
              · omega
              · exact bound newest present
            omega
          · rw [find?_insertRevision_of_ne store rows row inserted] at present
            exact bound other present
      · exact .inr (stays _ taken)
  | returned answer found isFound same =>
      by_cases inserted : answer.revision = newest + 1
      · rw [inserted] at isFound
        have hash := matching found isFound
        rcases find?_insertRevision store rows row (newest + 1) with
          new | ⟨taken, -, wasTaken, kept⟩
        · exact .returned answer row (by rw [inserted, new]) (by rw [← hash, same])
        · rw [isFound] at wasTaken
          obtain rfl := Option.some.inj wasTaken
          exact .returned answer found (by rw [inserted, kept]) same
      · refine .returned answer found ?_ same
        rw [find?_insertRevision_of_ne store rows row inserted, isFound]

/-! ## One action -/

namespace RevisionPool

variable {store : StateStore} {initial : Revisions} {pool next : RevisionPool}
variable {action : PoolAction RevisionCall}

/-- A call that has returned stays as it is. -/
theorem Returned.step
    {answer : RevisionAnswer} (returned : pool.Returned answer)
    (stepped : pool.step store action = some next) : next.Returned answer := by
  obtain ⟨thread, finished⟩ := returned
  refine ⟨thread, ?_⟩
  rcases Pool.step_cases stepped with
    ⟨started, call, -, absent, rfl⟩ | ⟨advanced, operation, rest, -, present, rfl⟩
  · have apart : thread ≠ started := by
      rintro rfl
      rw [absent] at finished
      cases finished
    exact (Function.update_of_ne apart _ _).trans finished
  · have apart : thread ≠ advanced := by
      rintro rfl
      rw [present] at finished
      cases finished
    exact (Function.update_of_ne apart _ _).trans finished

theorem pending_of_present
    {thread : Nat} {operation : RevisionOp}
    {rest : operation.Reply → RevisionProgram RevisionAnswer}
    (present : pool.threads thread = some (.perform operation rest)) :
    pool.pending thread = some operation := by
  rw [Pool.pending, present]

/-- Insertions into free numbers keep every call at one of its states. -/
theorem Kept.step
    (kept : pool.Kept initial) (free : pool.InsertsFree action)
    (stepped : pool.step store action = some next) : next.Kept initial := by
  have stillReturned : ∀ answer, pool.Returned answer → next.Returned answer :=
    fun _ returned => returned.step stepped
  rcases Pool.step_cases stepped with
    ⟨started, call, rfl, absent, rfl⟩ | ⟨thread, operation, rest, rfl, present, rfl⟩
  · refine ⟨fun other program running => ?_, fun revision row found => ?_, kept.keeps⟩
    · rcases Pool.of_update running with ⟨-, rfl⟩ | ⟨-, running⟩
      · exact .begun call
      · exact kept.calls other program running
    · exact (kept.origin revision row found).imp id fun ⟨answer, returned, same⟩ =>
        ⟨answer, stillReturned answer returned, same⟩
  · have state := kept.calls thread _ present
    cases state with
    | begun call =>
        obtain ⟨read, equal, after⟩ := callState_read kept.keeps call
        cases equal
        refine ⟨fun other program running => ?_, fun revision row found => ?_, kept.keeps⟩
        · rcases Pool.of_update running with ⟨-, rfl⟩ | ⟨-, running⟩
          · exact after
          · exact kept.calls other program running
        · exact (kept.origin revision row found).imp id fun ⟨answer, returned, same⟩ =>
            ⟨answer, stillReturned answer returned, same⟩
    | inserting call newest read unused next =>
        have matching : ∀ taken, pool.state.find? (newest + 1) = some taken →
            taken.specHash = call.row.specHash := fun taken found =>
          free thread _ _ taken rfl (pending_of_present present) found
        have returnedNow : RevisionPool.Returned
            { state := insertRevision store (newest + 1) call.row pool.state
              threads := Function.update pool.threads thread
                (some (.done ⟨call, newest + 1, true⟩)) } ⟨call, newest + 1, true⟩ :=
          ⟨thread, Function.update_self ..⟩
        -- The hash under the number is that of the call, whoever stored it.
        have stored : ∃ row, (insertRevision store (newest + 1) call.row pool.state).find?
            (newest + 1) = some row ∧ row.specHash = call.specHash := by
          rcases find?_insertRevision store pool.state call.row (newest + 1) with
            new | ⟨taken, -, found, kept⟩
          · exact ⟨call.row, new, rfl⟩
          · exact ⟨taken, kept, matching taken found⟩
        obtain ⟨row, isRow, hash⟩ := stored
        refine ⟨fun other program running => ?_, fun revision found isFound => ?_, ?_⟩
        · rcases Pool.of_update running with ⟨-, rfl⟩ | ⟨-, running⟩
          · exact .returned ⟨call, newest + 1, true⟩ row isRow hash
          · exact (kept.calls other program running).insert store read matching
        · by_cases inserted : revision = newest + 1
          · subst inserted
            obtain rfl := Option.some.inj (isRow.symm.trans isFound)
            exact .inr ⟨⟨call, newest + 1, true⟩, returnedNow, rfl, hash.symm⟩
          · have before : pool.state.find? revision = some found :=
              (find?_insertRevision_of_ne store pool.state call.row inserted).symm.trans isFound
            exact (kept.origin revision found before).imp id fun ⟨answer, returned, same⟩ =>
              ⟨answer, stillReturned answer returned, same⟩
        · exact fun revision wasThere =>
            isSome_insertRevision store pool.state call.row _ (kept.keeps revision wasThere)

/-- What has been returned is stored. -/
theorem Kept.recorded (kept : pool.Kept initial) : pool.Recorded := by
  rintro answer ⟨thread, finished⟩
  have state := kept.calls thread _ finished
  generalize shape : Program.done answer = program at state
  cases state with
  | begun call => cases shape
  | inserting => cases shape
  | returned found row isRow same =>
      cases shape
      exact ⟨row, isRow, same⟩

theorem Kept.sound
    (kept : pool.Kept initial)
    (free : pool.InsertsFree action) : pool.Sound store action where
  recorded _ stepped := (kept.step free stepped).recorded
  sameHash _ stepped := (kept.step free stepped).recorded.sameHash
  above := by
    rintro thread revision row rfl pending absent
    rw [Pool.pending] at pending
    split at pending
    · next operation rest present =>
        obtain rfl := Option.some.inj pending
        exact (kept.calls thread _ present).above absent
    · cases pending

theorem Kept.insertsFree
    (kept : pool.Kept initial)
    (sound : pool.Sound store action) : pool.InsertsFree action := by
  rintro thread revision row taken rfl pending found
  rw [Pool.pending] at pending
  split at pending
  · next operation rest present =>
      obtain rfl := Option.some.inj pending
      have state := kept.calls thread _ present
      cases state with
      | inserting call newest read unused next =>
          have stepped : pool.step store (.advance thread) = some
              { state := insertRevision store (newest + 1) call.row pool.state
                threads := Function.update pool.threads thread
                  (some (.done ⟨call, newest + 1, true⟩)) } := by
            simp only [RevisionPool.step, Pool.step, present]
            rfl
          have recorded := sound.recorded _ stepped
          obtain ⟨own, ownFound, ownHash⟩ := recorded ⟨call, newest + 1, true⟩
            ⟨thread, Function.update_self ..⟩
          dsimp only at ownFound ownHash
          rcases find?_insertRevision store pool.state call.row (newest + 1) with
            new | ⟨kept, -, wasTaken, kept⟩
          · -- The row was written over: its own caller was told its hash.
            rcases kept.origin _ taken found with wasThere | ⟨answer, returned, same, hash⟩
            · rw [unused] at wasThere
              cases wasThere
            · obtain ⟨row, isRow, answerHash⟩ := recorded answer (returned.step stepped)
              dsimp only at isRow
              rw [same, new] at isRow
              obtain rfl := Option.some.inj isRow
              rw [← hash, ← answerHash]
          · rw [kept] at ownFound
            rw [wasTaken] at found
            obtain rfl := Option.some.inj found
            obtain rfl := Option.some.inj ownFound
            exact ownHash
  · cases pending

end RevisionPool

open Machine (Along)

/-- What the calls return agrees with what is stored, in exactly those interleavings
in which no call inserts a number that has been taken for another hash. -/
theorem revisions_sound_iff
    (store : StateStore) (rows : Revisions) (actions : List (PoolAction RevisionCall)) :
    Along (RevisionPool.step store) (RevisionPool.Sound store) (Pool.idle rows) actions ↔
      Along (RevisionPool.step store) RevisionPool.InsertsFree (Pool.idle rows) actions :=
  Machine.along_iff_of_step
    (fun _ _ _ kept sound stepped => kept.step (kept.insertsFree sound) stepped)
    (fun _ _ kept => ⟨kept.insertsFree, kept.sound⟩)
    (RevisionPool.kept_idle rows) actions

/-- A call with a manifest of the given hash. -/
def sampleRevision (specHash : String) : RevisionCall := ⟨specHash, .null, "nginx:1", "t"⟩

/-- Two calls with different manifests that both read before either inserts. -/
def bothReadFirst : List (PoolAction RevisionCall) :=
  [.start 0 (sampleRevision "a"), .start 1 (sampleRevision "b"), .advance 0, .advance 1,
    .advance 0, .advance 1]

/-- Both calls are told that they created revision 1. -/
theorem not_sound_of_bothReadFirst (store : StateStore) :
    ¬ Along (RevisionPool.step store) (RevisionPool.Sound store) (Pool.idle .empty)
      bothReadFirst := by
  intro along
  obtain ⟨-, along⟩ := along
  obtain ⟨-, along⟩ := along _ rfl
  obtain ⟨-, along⟩ := along _ rfl
  obtain ⟨-, along⟩ := along _ rfl
  obtain ⟨-, along⟩ := along _ rfl
  obtain ⟨sound, -⟩ := along _ rfl
  have same := sound.sameHash _ rfl ⟨sampleRevision "a", 1, true⟩ ⟨sampleRevision "b", 1, true⟩
    ⟨0, rfl⟩ ⟨1, rfl⟩ rfl
  exact absurd same (by decide)

theorem not_sound_bothReadFirst :
    ¬ Along (RevisionPool.step .sqlite) (RevisionPool.Sound .sqlite) (Pool.idle .empty)
        bothReadFirst ∧
      ¬ Along (RevisionPool.step .etcd) (RevisionPool.Sound .etcd) (Pool.idle .empty)
        bothReadFirst :=
  ⟨not_sound_of_bothReadFirst .sqlite, not_sound_of_bothReadFirst .etcd⟩

end Registry
end K1s
