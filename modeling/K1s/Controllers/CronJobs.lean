import K1s.Etcd.NamespaceListing
import K1s.Lib.Machine
import K1s.Py.Float
import K1s.Py.Time
import K1s.Registry.Revisions
import K1s.Registry.Sqlite

/-!
# The Jobs of CronJobs

`CronJobAuthorityController.run_once` lists the CronJobs, registers the Job of a slot
that is due, and then writes the slot to the status of the CronJob, which it reads anew.
Passes of several controllers are interleaved, request by request, over one store.  The
SQLite store compares a version and writes in two statements, the etcd store in one
transaction.

The main result is that no slot gets two Jobs and no `lastScheduleTime` moves backward,
as long as no pass writes over a later slot that was recorded since the pass listed the
CronJob, and in SQLite no Job is inserted over one that has come in between.

A `lastScheduleTime` that `_iso_utc` has written is kept as its seconds, any other one
as the time that is read from it.
-/

namespace K1s
namespace Controllers

open Py Machine
open Registry (StateStore nextVersion)

/-! ## CronJobs -/

inductive StatusTime
  /-- `None` or an empty text. -/
  | absent
  /-- The text that `_iso_utc` writes. -/
  | written (seconds : Int)
  /-- Any other value, with the time that is read from it. -/
  | foreign (time : Option Int)
  /-- A value that cannot be looked up in a set. -/
  | unhashable
  deriving DecidableEq

/-- The time that the value denotes. -/
def StatusTime.time : StatusTime → Option Int
  | .written seconds => some (1000000 * seconds)
  | .foreign time => time
  | .absent | .unhashable => none

/-- `_parse_status_time`, with `none` for an exception. -/
def StatusTime.parse : StatusTime → Option (Option Int)
  | .unhashable => none
  | value => some value.time

structure CronJobStatus where
  lastScheduleTime : StatusTime
  lastSuccessfulTime : StatusTime
  rest : Dict
  deriving DecidableEq

/-- `AuthorityObjectEntry` of a CronJob. -/
structure CronJobEntry where
  ns : String
  name : String
  metadata : Dict
  spec : Dict
  status : CronJobStatus
  resourceVersion : Int
  deriving DecidableEq

def CronJobEntry.key (entry : CronJobEntry) : String × String := (entry.ns, entry.name)

structure CronJobTable where
  rows : Dictionary (String × String) CronJobEntry
  keyed : ∀ key entry, rows.find? key = some entry → entry.key = key

def CronJobTable.put (table : CronJobTable) (entry : CronJobEntry) : CronJobTable where
  rows := table.rows.set entry.key entry
  keyed := by
    intro key found same
    rw [Dictionary.find?_set] at same
    split at same
    · next equal =>
        obtain rfl := Option.some.inj same
        exact equal
    · exact table.keyed key found same

theorem CronJobTable.find?_put
    (table : CronJobTable) (entry : CronJobEntry) (key : String × String) :
    (table.put entry).rows.find? key =
      if entry.key = key then some entry else table.rows.find? key :=
  Dictionary.find?_set ..

/-! ## The next slot -/

/-- The whole seconds of a time, which `_iso_utc` keeps. -/
def wholeSeconds (time : Int) : Int := time / 1000000

/-- The least number that no float can hold. -/
def floatOverflow : Int := 2 ^ 1024 - 2 ^ 970

/-- `_next_interval_schedule`, with an outer `none` for an exception. -/
def nextIntervalSchedule (now : Int) (last : Option Int) (intervalRaw : Json) :
    Option (Option Int) :=
  let interval := intervalRaw.toInt.getD 60
  let slot : Option Int :=
    if interval ≤ 0 then some (now / 1000000 * 1000000)
    else
      match last with
      | none =>
          if floatOverflow ≤ interval then none
          else some (now / 1000000 / interval * interval * 1000000)
      | some last => addSeconds last interval
  slot.map fun slot =>
    if last.any fun last => decide (slot ≤ last) then none
    else if now < slot then none
    else some slot

variable (croniter : Option (String → Int → Option Int))

/-- `_next_cron_schedule`.  The iterator, if there is one, gives the next time after a
base, and `none` where it raises. -/
def nextCronSchedule (schedule : String) (now : Int) (last : Option Int) : Option Int :=
  croniter.bind fun next =>
    (next schedule (last.getD (now - 60000000))).filter fun time => decide (time ≤ now)

/-- `_next_due_schedule`, with an outer `none` for an exception. -/
def nextDueSchedule (entry : CronJobEntry) (now : Int) : Option (Option Int) := do
  let annotations ← ((Dict.get entry.metadata "annotations").or (.dict [])).asDict
  let intervalRaw := Dict.get annotations "cronjob.k1s.dev/intervalSeconds"
  let schedule := (Dict.get annotations "cronjob.k1s.dev/schedule").or
    (Dict.get entry.spec "schedule")
  let last ← entry.status.lastScheduleTime.parse
  if intervalRaw ≠ .null then nextIntervalSchedule now last intervalRaw
  else
    match if schedule.truthy then nextCronSchedule croniter schedule.toStr now last else none with
    | some next => return some next
    | none => nextIntervalSchedule now last (.int 60)

/-! ## Jobs -/

def isoUtc (time : Int) : String :=
  let text := isoformat (wholeSeconds time * 1000000)
  String.ofList (text.toList.dropLast.dropLast.dropLast.dropLast.dropLast.dropLast) ++ "Z"

/-- `run-%Y%m%d%H%M%S` of a time. -/
def runSuffix (time : Int) : String :=
  let seconds := wholeSeconds time
  let (year, month, day) := civilDate (seconds / 86400)
  let ofDay := seconds % 86400
  "run-" ++ toString year ++ padded 2 month ++ padded 2 day ++ padded 2 (ofDay / 3600) ++
    padded 2 (ofDay / 60 % 60) ++ padded 2 (ofDay % 60)

variable (sha1 : String → String)

def scheduledJobName (cronJobName : String) (scheduledAt : Int) : String :=
  let suffix := runSuffix scheduledAt
  let plain := cronJobName ++ "-" ++ suffix
  if plain.length ≤ 63 then plain
  else
    let digest := String.ofList ((sha1 cronJobName).toList.take 8)
    let budget := max 1 (63 - (suffix.length : Int) - digest.length - 2)
    String.ofList (cronJobName.toList.take budget.toNat) ++ "-" ++ digest ++ "-" ++ suffix

def jobAppName (key : String × String) (scheduledAt : Int) : String :=
  Etcd.appKey (scheduledJobName sha1 key.2 scheduledAt) (if key.1 = "" then "default" else key.1)

def jobLabels (entry : CronJobEntry) (scheduledAt : Int) : Dict :=
  [("apishim.k1s.dev/workload-kind", .str "job"),
    ("apishim.k1s.dev/owner-api-version", .str "batch/v1"),
    ("apishim.k1s.dev/owner-kind", .str "CronJob"),
    ("apishim.k1s.dev/owner-name", .str entry.name),
    ("apishim.k1s.dev/owner-uid",
      .str ((Dict.get entry.metadata "uid").or (.str entry.name)).toStr),
    ("apishim.k1s.dev/cronjob-scheduled-at", .str (isoUtc scheduledAt))]

structure JobRow (μ : Type) where
  manifest : μ
  source : String
  labels : Dict
  resourceVersion : Int

/-! ## Passes -/

/-- What a pass is doing: the entry in hand with its slot, the other entries that the
pass has listed, and its time. -/
structure CronTask where
  now : Int
  entry : CronJobEntry
  slot : Int
  rest : List CronJobEntry

/-- The request that a pass of `run_once` sends next. -/
inductive PassPhase (μ : Type)
  /-- No pass is under way. -/
  | idle
  /-- `list_authority_objects`. -/
  | listing (now : Int)
  /-- `_is_leader`, before the next entry. -/
  | pending (now : Int) (entries : List CronJobEntry)
  /-- `get_registered_entry`. -/
  | checking (task : CronTask)
  /-- `register_app`: the comparison of SQLite, the transaction of etcd. -/
  | registering (task : CronTask) (manifest : μ)
  /-- `register_app`: the write of SQLite. -/
  | inserting (task : CronTask) (manifest : μ)
  /-- `_is_leader`, before the status is written. -/
  | leading (task : CronTask)
  /-- `get_authority_object`. -/
  | reading (task : CronTask)
  /-- `register_authority_object`: the comparison of SQLite, the transaction of etcd. -/
  | updating (task : CronTask) (fresh : CronJobEntry)
  /-- `register_authority_object`: the write of SQLite. -/
  | upserting (task : CronTask) (fresh : CronJobEntry)

/-- The store, the revision of etcd, the passes of the controllers, and the slots of the
CronJobs for which a Job has been created. -/
structure CronWorld (μ : Type) where
  cronJobs : CronJobTable
  jobs : Dictionary String (JobRow μ)
  revision : Int
  created : List ((String × String) × Int)
  passes : Nat → PassPhase μ

/-- A pass starts, takes its next step, or ends with an exception.  A step that asks
whether the controller leads is told so, and a read may fail. -/
inductive CronAction
  | start (thread : Nat) (now : Int)
  | advance (thread : Nat) (leader readFails : Bool)
  | abort (thread : Nat)

/-- The order of the listing. -/
def listedBefore (first second : CronJobEntry) : Prop :=
  first.ns < second.ns ∨ first.ns = second.ns ∧ first.name ≤ second.name

instance : DecidableRel listedBefore := fun _ _ => inferInstanceAs (Decidable (_ ∨ _))

/-- The status that `_update_cronjob_status` writes. -/
def CronJobStatus.scheduled (status : CronJobStatus) (slot : Int) : CronJobStatus where
  lastScheduleTime := .written (wholeSeconds slot)
  lastSuccessfulTime := .written (wholeSeconds slot)
  rest := Dict.setdefault status.rest "active" (.list [])

namespace CronWorld

variable {μ : Type} (world : CronWorld μ)

def setPass (thread : Nat) (phase : PassPhase μ) : CronWorld μ :=
  { world with passes := Function.update world.passes thread phase }

def putJob (task : CronTask) (manifest : μ) (resourceVersion : Int) : CronWorld μ :=
  { world with
    jobs := world.jobs.set (jobAppName sha1 task.entry.key task.slot)
      ⟨manifest, "apishim-cronjob", jobLabels task.entry task.slot, resourceVersion⟩
    created := world.created ++ [(task.entry.key, wholeSeconds task.slot)] }

/-- The status of the CronJob of the task is written, with what else was read of it. -/
def putStatus (task : CronTask) (fresh : CronJobEntry) (resourceVersion : Int) : CronWorld μ :=
  { world with
    cronJobs := world.cronJobs.put
      { fresh with
        status := fresh.status.scheduled task.slot
        resourceVersion := resourceVersion } }

variable (store : StateStore) (manifestOf : CronJobEntry → String → Option μ)

/-- The next step of `_reconcile_cronjob` for an entry. -/
def reconcile (now : Int) (entry : CronJobEntry) (rest : List CronJobEntry) : PassPhase μ :=
  if (Dict.get entry.spec "suspend").truthy then .pending now rest
  else
    match nextDueSchedule croniter entry now with
    | none => .idle
    | some none => .pending now rest
    | some (some slot) => .checking ⟨now, entry, slot, rest⟩

/-- The next step of a pass. -/
def advance (thread : Nat) (leader readFails : Bool) : CronWorld μ :=
  match world.passes thread with
  | .idle => world
  | .listing now =>
      world.setPass thread (if readFails then .idle
        else .pending now ((world.cronJobs.rows.entries.map Prod.snd).insertionSort listedBefore))
  | .pending _ [] => world.setPass thread .idle
  | .pending now (entry :: rest) =>
      world.setPass thread (if leader then reconcile croniter now entry rest else .idle)
  | .checking task =>
      if readFails = false ∧
          (world.jobs.find? (jobAppName sha1 task.entry.key task.slot)).isSome then
        world.setPass thread (.leading task)
      else
        world.setPass thread
          (match manifestOf task.entry (scheduledJobName sha1 task.entry.name task.slot) with
          | none => .idle
          | some manifest => .registering task manifest)
  | .registering task manifest =>
      match store, world.jobs.find? (jobAppName sha1 task.entry.key task.slot) with
      | _, some _ => world.setPass thread (.leading task)
      | .sqlite, none => world.setPass thread (.inserting task manifest)
      | .etcd, none =>
          { world with revision := world.revision + 1 }.putJob sha1 task manifest
            (world.revision + 1) |>.setPass thread (.leading task)
  | .inserting task manifest =>
      (world.putJob sha1 task manifest (nextVersion 0)).setPass thread (.leading task)
  | .leading task =>
      world.setPass thread (if leader then .reading task else .pending task.now task.rest)
  | .reading task =>
      world.setPass thread (
        match if readFails then none else world.cronJobs.rows.find? task.entry.key with
        | none => .pending task.now task.rest
        | some fresh =>
            if fresh.status.lastScheduleTime = .written (wholeSeconds task.slot) ∧
                fresh.status.lastSuccessfulTime = .written (wholeSeconds task.slot) then
              .pending task.now task.rest
            else .updating task fresh)
  | .updating task fresh =>
      if ((world.cronJobs.rows.find? fresh.key).map CronJobEntry.resourceVersion).getD 0 =
          fresh.resourceVersion then
        match store with
        | .sqlite => world.setPass thread (.upserting task fresh)
        | .etcd =>
            { world with revision := world.revision + 1 }.putStatus task fresh
              (world.revision + 1) |>.setPass thread (.pending task.now task.rest)
      else world.setPass thread (.pending task.now task.rest)
  | .upserting task fresh =>
      (world.putStatus task fresh (nextVersion fresh.resourceVersion)).setPass thread
        (.pending task.now task.rest)

def step (world : CronWorld μ) : CronAction → Option (CronWorld μ)
  | .start thread now =>
      some (match world.passes thread with
      | .idle => world.setPass thread (.listing now)
      | _ => world)
  | .advance thread leader readFails =>
      some (world.advance croniter sha1 store manifestOf thread leader readFails)
  | .abort thread => some (world.setPass thread .idle)

/-! ## The property and its condition -/

/-- `lastScheduleTime` of a CronJob. -/
def lastScheduleTime (key : String × String) : Option Int :=
  (world.cronJobs.rows.find? key).bind fun entry => entry.status.lastScheduleTime.time

/-- After the step no slot has two Jobs, and no `lastScheduleTime` has moved backward. -/
def Safe (world : CronWorld μ) (action : CronAction) : Prop :=
  ∀ next, world.step croniter sha1 store manifestOf action = some next → next.created.Nodup ∧
    ∀ key time, world.lastScheduleTime key = some time →
      ∃ later, next.lastScheduleTime key = some later ∧ time ≤ later

/-- The write of a status is not overtaken: the `lastScheduleTime` is still the one that
the pass has listed, or it is no later than the slot. -/
def NotOvertaken (task : CronTask) : Prop :=
  world.lastScheduleTime task.entry.key = task.entry.status.lastScheduleTime.time ∨
    ∀ time, world.lastScheduleTime task.entry.key = some time →
      time ≤ 1000000 * wholeSeconds task.slot

/-- The write of a status is not overtaken, and an insertion of a Job into SQLite finds
none. -/
def PermitsPhase (world : CronWorld μ) : PassPhase μ → Prop
  | .inserting task _ => world.jobs.find? (jobAppName sha1 task.entry.key task.slot) = none
  | .updating task fresh =>
      store = .etcd → (world.cronJobs.rows.find? fresh.key).map CronJobEntry.resourceVersion =
        some fresh.resourceVersion → world.NotOvertaken task
  | .upserting task _ => world.NotOvertaken task
  | _ => True

/-- The step that a pass takes is permitted. -/
def Permits (world : CronWorld μ) : CronAction → Prop
  | .advance thread _ _ => world.PermitsPhase sha1 store (world.passes thread)
  | .start _ _ | .abort _ => True

instance (task : CronTask) : Decidable (world.NotOvertaken task) :=
  inferInstanceAs (Decidable (_ = _ ∨ ∀ time ∈ world.lastScheduleTime task.entry.key, _))

instance PermitsPhase.decidable :
    (phase : PassPhase μ) → Decidable (world.PermitsPhase sha1 store phase)
  | .inserting task _ => decidable_of_iff
      ((world.jobs.find? (jobAppName sha1 task.entry.key task.slot)).isNone = true)
      Option.isNone_iff_eq_none
  | .updating _ _ => inferInstanceAs (Decidable (_ → _ → _))
  | .upserting task _ => inferInstanceAs (Decidable (world.NotOvertaken task))
  | .idle | .listing _ | .pending _ _ | .checking _ | .registering _ _ | .leading _
  | .reading _ => inferInstanceAs (Decidable True)

instance Permits.decidable :
    (world : CronWorld μ) → (action : CronAction) → Decidable (world.Permits sha1 store action)
  | world, .advance thread _ _ =>
      inferInstanceAs (Decidable (world.PermitsPhase sha1 store (world.passes thread)))
  | _, .start _ _ | _, .abort _ => inferInstanceAs (Decidable True)

end CronWorld

/-! ## The slots -/

/-- The iterator gives times after its base, without fractions of a second. -/
def CroniterSpec : Prop :=
  ∀ next ∈ croniter, ∀ schedule base time, next schedule base = some time →
    base < time ∧ time % 1000000 = 0

variable {last now slot : Int}

theorem nextIntervalSchedule_after
    {intervalRaw : Json}
    (due : nextIntervalSchedule now (some last) intervalRaw = some (some slot)) :
    last ≤ 1000000 * wholeSeconds slot := by
  unfold nextIntervalSchedule at due
  obtain ⟨candidate, isSlot, result⟩ := Option.map_eq_some_iff.mp due
  simp only [Option.any_some, decide_eq_true_eq] at result
  split at result
  · cases result
  · next after =>
    split at result
    · cases result
    · obtain rfl := Option.some.inj result
      unfold wholeSeconds
      split at isSlot
      · obtain rfl := Option.some.inj isSlot
        omega
      · next positive =>
        simp only [addSeconds] at isSlot
        split at isSlot
        · obtain rfl := Option.some.inj isSlot
          omega
        · cases isSlot

theorem nextCronSchedule_after
    (spec : CroniterSpec croniter) {schedule : String}
    (due : nextCronSchedule croniter schedule now (some last) = some slot) :
    last ≤ 1000000 * wholeSeconds slot := by
  obtain ⟨next, isNext, filtered⟩ := Option.bind_eq_some_iff.mp due
  obtain ⟨given, -⟩ := Option.filter_eq_some_iff.mp filtered
  obtain ⟨after, whole⟩ := spec next isNext schedule last slot given
  unfold wholeSeconds
  omega

/-- A slot that is due is not before the `lastScheduleTime` of its entry. -/
theorem nextDueSchedule_after
    (spec : CroniterSpec croniter) {entry : CronJobEntry}
    (due : nextDueSchedule croniter entry now = some (some slot))
    (isLast : entry.status.lastScheduleTime.time = some last) :
    last ≤ 1000000 * wholeSeconds slot := by
  have parsed : entry.status.lastScheduleTime.parse = some (some last) := by
    cases value : entry.status.lastScheduleTime with
    | unhashable =>
        rw [value] at isLast
        cases isLast
    | _ => rw [value] at isLast; exact congrArg some isLast
  unfold nextDueSchedule at due
  obtain ⟨annotations, -, due⟩ := Option.bind_eq_some_iff.mp due
  simp only [parsed, Option.bind_eq_bind, Option.bind_some] at due
  split at due
  · exact nextIntervalSchedule_after due
  · split at due
    · next next isNext =>
        obtain rfl : next = slot := Option.some.inj (Option.some.inj due)
        split at isNext
        · exact nextCronSchedule_after croniter spec isNext
        · cases isNext
    · exact nextIntervalSchedule_after due

/-- The Job of a slot depends on the whole seconds of the slot. -/
theorem jobAppName_congr
    (key : String × String) {first second : Int}
    (same : wholeSeconds first = wholeSeconds second) :
    jobAppName sha1 key first = jobAppName sha1 key second := by
  have suffix : runSuffix first = runSuffix second := by
    unfold runSuffix
    rw [same]
  unfold jobAppName scheduledJobName
  rw [suffix]

/-! ## One step -/

/-- The slot of the task is the one that was due for its entry. -/
def CronTask.Due (task : CronTask) : Prop :=
  nextDueSchedule croniter task.entry task.now = some (some task.slot)

/-- The task in hand is due, and the row that was read is that of its entry. -/
def PassPhase.Sound {μ : Type} : PassPhase μ → Prop
  | .checking task | .registering task _ | .inserting task _ | .leading task | .reading task =>
      task.Due croniter
  | .updating task fresh | .upserting task fresh =>
      task.Due croniter ∧ fresh.key = task.entry.key
  | _ => True

namespace CronWorld

variable {μ : Type}

/-- What an action may do to the store. -/
inductive Change (world next : CronWorld μ) : Prop
  /-- The CronJobs and the Jobs are as they were. -/
  | nothing
      (cronJobs : next.cronJobs = world.cronJobs)
      (jobs : next.jobs = world.jobs)
      (created : next.created = world.created)
  /-- A Job that is not there is created. -/
  | job (task : CronTask) (manifest : μ) (resourceVersion : Int)
      (absent : world.jobs.find? (jobAppName sha1 task.entry.key task.slot) = none)
      (cronJobs : next.cronJobs = world.cronJobs)
      (jobs : next.jobs = (world.putJob sha1 task manifest resourceVersion).jobs)
      (created : next.created = (world.putJob sha1 task manifest resourceVersion).created)
  /-- The status of a CronJob is written, with a slot that is due and not overtaken. -/
  | status (task : CronTask) (fresh : CronJobEntry) (resourceVersion : Int)
      (due : task.Due croniter)
      (sameKey : fresh.key = task.entry.key)
      (notOvertaken : world.lastScheduleTime task.entry.key = none ∨ world.NotOvertaken task)
      (cronJobs : next.cronJobs = (world.putStatus task fresh resourceVersion).cronJobs)
      (jobs : next.jobs = world.jobs)
      (created : next.created = world.created)

theorem reconcile_sound (now : Int) (entry : CronJobEntry) (rest : List CronJobEntry) :
    (reconcile croniter now entry rest : PassPhase μ).Sound croniter := by
  unfold reconcile
  split
  · trivial
  · split
    · trivial
    · trivial
    · next slot due => exact due

/-- The pass of a thread has moved on to a sound phase. -/
def Moved (world : CronWorld μ) (thread : Nat) (next : CronWorld μ) : Prop :=
  Change croniter sha1 world next ∧ ∃ phase, PassPhase.Sound croniter phase ∧
      next.passes = Function.update world.passes thread phase

variable {croniter sha1} {store : StateStore} {manifestOf : CronJobEntry → String → Option μ}
variable {world : CronWorld μ} {thread : Nat} {leader readFails : Bool}

variable {phase : PassPhase μ}

/-- A step that leaves the store as it is. -/
theorem setPass_moved (sound : phase.Sound croniter) :
    Moved croniter sha1 world thread (world.setPass thread phase) :=
  ⟨.nothing rfl rfl rfl, phase, sound, rfl⟩

variable {task : CronTask}

/-- The step that creates a Job. -/
theorem putJob_moved
    (due : task.Due croniter)
    (absent : world.jobs.find? (jobAppName sha1 task.entry.key task.slot) = none)
    (manifest : μ) (resourceVersion revision : Int) :
    Moved croniter sha1 world thread
      (({ world with revision := revision }.putJob sha1 task manifest resourceVersion).setPass
        thread (.leading task)) :=
  ⟨.job task manifest resourceVersion absent rfl rfl rfl, .leading task, due, rfl⟩

/-- The step that writes a status. -/
theorem putStatus_moved
    {fresh : CronJobEntry} (due : task.Due croniter) (sameKey : fresh.key = task.entry.key)
    (notOvertaken : world.lastScheduleTime task.entry.key = none ∨ world.NotOvertaken task)
    (resourceVersion revision : Int) :
    Moved croniter sha1 world thread
      (({ world with revision := revision }.putStatus task fresh resourceVersion).setPass
        thread (.pending task.now task.rest)) :=
  ⟨.status task fresh resourceVersion due sameKey notOvertaken rfl rfl rfl,
    .pending task.now task.rest, trivial, rfl⟩

/-- A step of a sound pass that is permitted. -/
theorem advance_moved
    (sound : (world.passes thread).Sound croniter)
    (permits : world.Permits sha1 store (.advance thread leader readFails)) :
    Moved croniter sha1 world thread
      (world.advance croniter sha1 store manifestOf thread leader readFails) := by
  cases phase : world.passes thread with
  | idle =>
      simp only [advance, phase]
      refine ⟨.nothing rfl rfl rfl, .idle, trivial, ?_⟩
      rw [← phase, Function.update_eq_self]
  | listing now =>
      simp only [advance, phase]
      refine setPass_moved ?_
      split
      · trivial
      · trivial
  | pending now entries =>
      cases entries with
      | nil =>
          simp only [advance, phase]
          exact setPass_moved trivial
      | cons entry rest =>
          simp only [advance, phase]
          refine setPass_moved ?_
          split
          · exact reconcile_sound croniter now entry rest
          · trivial
  | checking task =>
      rw [phase] at sound
      simp only [advance, phase]
      split
      · exact setPass_moved sound
      · refine setPass_moved ?_
        split
        · trivial
        · exact sound
  | registering task manifest =>
      rw [phase] at sound
      simp only [advance, phase]
      cases absent : world.jobs.find? (jobAppName sha1 task.entry.key task.slot) with
      | some row => exact setPass_moved sound
      | none =>
          cases store with
          | sqlite => exact setPass_moved sound
          | etcd => exact putJob_moved sound absent manifest _ _
  | inserting task manifest =>
      rw [phase] at sound
      simp only [Permits, phase, PermitsPhase] at permits
      simp only [advance, phase]
      exact putJob_moved sound permits manifest _ _
  | leading task =>
      rw [phase] at sound
      simp only [advance, phase]
      refine setPass_moved ?_
      split
      · exact sound
      · trivial
  | reading task =>
      rw [phase] at sound
      simp only [advance, phase]
      refine setPass_moved ?_
      split
      · trivial
      · next fresh found =>
          split
          · trivial
          · refine ⟨sound, ?_⟩
            split at found
            · cases found
            · exact world.cronJobs.keyed _ _ found
  | updating task fresh =>
      rw [phase] at sound
      obtain ⟨due, sameKey⟩ := sound
      simp only [Permits, phase, PermitsPhase] at permits
      simp only [advance, phase]
      split
      · next current =>
          cases store with
          | sqlite => exact setPass_moved ⟨due, sameKey⟩
          | etcd =>
              refine putStatus_moved due sameKey ?_ _ _
              cases found : world.cronJobs.rows.find? fresh.key with
              | none =>
                  refine .inl ?_
                  rw [lastScheduleTime, ← sameKey, found, Option.bind_none]
              | some entry =>
                  rw [found, Option.map_some, Option.getD_some] at current
                  refine .inr (permits rfl ?_)
                  rw [found, Option.map_some, current]
      · exact setPass_moved trivial
  | upserting task fresh =>
      rw [phase] at sound
      obtain ⟨due, sameKey⟩ := sound
      simp only [Permits, phase, PermitsPhase] at permits
      simp only [advance, phase]
      exact putStatus_moved due sameKey (.inr permits) _ _

/-! ## Whole runs -/

/-- No slot has two Jobs, the Job of a slot in the list is there, and every pass is
sound. -/
structure Kept
    (croniter : Option (String → Int → Option Int)) (sha1 : String → String)
    (world : CronWorld μ) : Prop where
  once : world.created.Nodup
  recorded : ∀ key slot, (key, wholeSeconds slot) ∈ world.created →
    (world.jobs.find? (jobAppName sha1 key slot)).isSome
  sound : ∀ thread, (world.passes thread).Sound croniter

/-- A Job that is created where none is keeps the list of the slots. -/
theorem putJob_recorded
    (kept : Kept croniter sha1 world)
    (absent : world.jobs.find? (jobAppName sha1 task.entry.key task.slot) = none)
    (manifest : μ) (resourceVersion : Int) :
    (world.putJob sha1 task manifest resourceVersion).created.Nodup ∧ ∀ key slot,
        (key, wholeSeconds slot) ∈ (world.putJob sha1 task manifest resourceVersion).created →
        ((world.putJob sha1 task manifest resourceVersion).jobs.find?
          (jobAppName sha1 key slot)).isSome := by
  have isNew : (task.entry.key, wholeSeconds task.slot) ∉ world.created := by
    intro already
    have there := kept.recorded _ _ already
    rw [absent] at there
    cases there
  constructor
  · exact List.nodup_append.mpr ⟨kept.once, List.nodup_singleton _, fun first before second last =>
      fun same => isNew (List.mem_singleton.mp last ▸ same ▸ before)⟩
  · intro key slot listed
    simp only [putJob, Dictionary.find?_set]
    split
    · rfl
    · next other =>
        rcases List.mem_append.mp listed with before | last
        · exact kept.recorded key slot before
        · obtain ⟨sameKey, sameSlot⟩ := Prod.mk.inj (List.mem_singleton.mp last)
          subst sameKey
          exact absurd (jobAppName_congr sha1 _ sameSlot.symm) other

variable {next : CronWorld μ}

/-- A permitted change keeps what is known of the Jobs. -/
theorem Change.recorded
    (kept : Kept croniter sha1 world) (change : Change croniter sha1 world next) :
    next.created.Nodup ∧ ∀ key slot, (key, wholeSeconds slot) ∈ next.created →
        (next.jobs.find? (jobAppName sha1 key slot)).isSome := by
  cases change with
  | nothing _ jobs created =>
      rw [jobs, created]
      exact ⟨kept.once, kept.recorded⟩
  | job task manifest resourceVersion absent _ jobs created =>
      rw [jobs, created]
      exact putJob_recorded kept absent manifest resourceVersion
  | status _ _ _ _ _ _ _ jobs created =>
      rw [jobs, created]
      exact ⟨kept.once, kept.recorded⟩

variable {time : Int}

/-- A recorded time is no later than the slot of a pass that is not overtaken. -/
theorem NotOvertaken.before
    (spec : CroniterSpec croniter) (notOvertaken : world.NotOvertaken task)
    (due : task.Due croniter) (recorded : world.lastScheduleTime task.entry.key = some time) :
    time ≤ 1000000 * wholeSeconds task.slot := by
  rcases notOvertaken with listed | before
  · exact nextDueSchedule_after croniter spec due (listed ▸ recorded)
  · exact before time recorded

/-- A permitted change moves no `lastScheduleTime` backward. -/
theorem Change.forward
    (spec : CroniterSpec croniter) (change : Change croniter sha1 world next)
    {key : String × String} (recorded : world.lastScheduleTime key = some time) :
    ∃ later, next.lastScheduleTime key = some later ∧ time ≤ later := by
  cases change with
  | nothing cronJobs _ _ =>
      refine ⟨time, ?_, le_refl time⟩
      rw [← recorded, lastScheduleTime, lastScheduleTime, cronJobs]
  | job _ _ _ _ cronJobs _ _ =>
      refine ⟨time, ?_, le_refl time⟩
      rw [← recorded, lastScheduleTime, lastScheduleTime, cronJobs]
  | status task fresh resourceVersion due sameKey notOvertaken cronJobs _ _ =>
      rw [lastScheduleTime, cronJobs, putStatus, CronJobTable.find?_put]
      have sameKey : CronJobEntry.key
          { fresh with
            status := fresh.status.scheduled task.slot
            resourceVersion := resourceVersion } = task.entry.key := sameKey
      rw [sameKey]
      split
      · next equal =>
          subst equal
          refine ⟨1000000 * wholeSeconds task.slot, rfl, ?_⟩
          rcases notOvertaken with missing | notOvertaken
          · rw [recorded] at missing
            cases missing
          · exact notOvertaken.before spec due recorded
      · exact ⟨time, recorded, le_refl time⟩

/-- The passes after a step of one of them. -/
theorem sound_update
    (kept : Kept croniter sha1 world) (sound : phase.Sound croniter) (other : Nat) :
    (Function.update world.passes thread phase other).Sound croniter := by
  rcases eq_or_ne other thread with rfl | different
  · rw [Function.update_self]
    exact sound
  · rw [Function.update_of_ne different]
    exact kept.sound other

variable {action : CronAction}

/-- A permitted action is a permitted change that leads to a sound phase. -/
theorem step_moved
    (kept : Kept croniter sha1 world) (permits : world.Permits sha1 store action)
    (stepped : world.step croniter sha1 store manifestOf action = some next) :
    ∃ thread, Moved croniter sha1 world thread next := by
  cases action with
  | start thread now =>
      refine ⟨thread, ?_⟩
      obtain rfl := Option.some.inj stepped
      cases phase : world.passes thread with
      | idle => exact setPass_moved trivial
      | _ =>
          refine ⟨.nothing rfl rfl rfl, world.passes thread, kept.sound thread, ?_⟩
          rw [Function.update_eq_self]
  | advance thread leader readFails =>
      obtain rfl := Option.some.inj stepped
      exact ⟨thread, advance_moved (kept.sound thread) permits⟩
  | abort thread =>
      obtain rfl := Option.some.inj stepped
      exact ⟨thread, setPass_moved trivial⟩

theorem Kept.step
    (kept : Kept croniter sha1 world) (permits : world.Permits sha1 store action)
    (stepped : world.step croniter sha1 store manifestOf action = some next) :
    Kept croniter sha1 next := by
  obtain ⟨thread, change, phase, sound, passes⟩ := step_moved kept permits stepped
  obtain ⟨once, recorded⟩ := change.recorded kept
  refine ⟨once, recorded, fun other => ?_⟩
  rw [passes]
  exact sound_update kept sound other

theorem Kept.safe
    (spec : CroniterSpec croniter) (kept : Kept croniter sha1 world)
    (permits : world.Permits sha1 store action) :
    Safe croniter sha1 store manifestOf world action := by
  intro next stepped
  obtain ⟨thread, change, -⟩ := step_moved kept permits stepped
  exact ⟨(change.recorded kept).1, fun key time recorded => change.forward spec recorded⟩

/-- A world in which no pass has begun. -/
def before
    (cronJobs : CronJobTable) (jobs : Dictionary String (JobRow μ))
    (revision : Int) : CronWorld μ where
  cronJobs := cronJobs
  jobs := jobs
  revision := revision
  created := []
  passes := fun _ => .idle

variable (croniter sha1 store manifestOf) in
/-- In a run of passes of which none is overtaken, no slot gets two Jobs and no
`lastScheduleTime` moves backward. -/
theorem safe_along
    (spec : CroniterSpec croniter) (cronJobs : CronJobTable)
    (jobs : Dictionary String (JobRow μ)) (revision : Int) (actions : List CronAction)
    (permits : Along (step croniter sha1 store manifestOf) (Permits sha1 store)
      (before cronJobs jobs revision) actions) :
    Along (step croniter sha1 store manifestOf) (Safe croniter sha1 store manifestOf)
      (before cronJobs jobs revision) actions :=
  along_of_invariant (fun _ _ _ kept permits stepped => Kept.step kept permits stepped)
    (fun _ _ kept permits => kept.safe spec permits)
    (⟨List.nodup_nil, fun _ _ listed => absurd listed List.not_mem_nil, fun _ => trivial⟩ :
      Kept croniter sha1 (before cronJobs jobs revision))
    permits

/-- A CronJob that is due every minute and has not run yet. -/
def everyMinute : CronJobEntry where
  ns := "default"
  name := "report"
  metadata := [("annotations", .dict [("cronjob.k1s.dev/intervalSeconds", .str "60")])]
  spec := []
  status := ⟨.absent, .absent, []⟩
  resourceVersion := 1

/-- The store with that CronJob. -/
def withEveryMinute : CronWorld String :=
  before (CronJobTable.put ⟨.empty, fun _ _ found => nomatch found⟩ everyMinute) .empty 1

/-- A step of a pass of a controller that leads. -/
def leads (thread : Nat) : CronAction := .advance thread true false

/-- One whole pass over one CronJob. -/
def onePass : List CronAction := .start 0 100000000 :: List.replicate 8 (leads 0)

theorem safe_onePass :
    Along (step none id .etcd fun _ name => some name)
      (Safe none id .etcd fun _ name => some name) withEveryMinute onePass :=
  safe_along none id .etcd (fun _ name => some name) (fun _ iterator => nomatch iterator) _ _ _
    onePass (by decide +kernel)

/-- No step of a safe run moves a `lastScheduleTime` backward, and so the run does not. -/
theorem forward_of_safe
    {finish : CronWorld μ} {actions : List CronAction}
    (along : Along (step croniter sha1 store manifestOf) (Safe croniter sha1 store manifestOf)
      world actions)
    (ran : run (step croniter sha1 store manifestOf) world actions = some finish)
    (key : String × String)
    (time : Int)
    (recorded : world.lastScheduleTime key = some time) :
    ∃ later, finish.lastScheduleTime key = some later ∧ time ≤ later := by
  refine related_of_step
    (fun first last : CronWorld μ => ∀ time, first.lastScheduleTime key = some time →
      ∃ later, last.lastScheduleTime key = some later ∧ time ≤ later)
    ?_ ?_ ?_ along ran time recorded
  · exact fun _ time recorded => ⟨time, recorded, le_refl time⟩
  · intro first second third forward onward time recorded
    obtain ⟨later, isLater, after⟩ := forward time recorded
    obtain ⟨latest, isLatest, afterLater⟩ := onward later isLater
    exact ⟨latest, isLatest, after.trans afterLater⟩
  · exact fun _ _ next safe stepped time recorded => (safe next stepped).2 key time recorded

/-- The first controller has created the Job of its slot, and the second one has created
the Job of a later slot and has recorded it. -/
def laterSlotRecorded : List CronAction :=
  .start 0 100000000 :: List.replicate 4 (leads 0) ++
    .start 1 130000000 :: List.replicate 8 (leads 1)

/-- The first controller then records its own slot. -/
theorem not_safe_laterSlotRecorded :
    ¬ Along (step none id .etcd fun _ name => some name)
      (Safe none id .etcd fun _ name => some name) withEveryMinute
      (laterSlotRecorded ++ List.replicate 3 (leads 0)) := by
  intro along
  have recorded : ((run (step none id .etcd fun _ name => some name) withEveryMinute
      laterSlotRecorded).bind fun world => world.lastScheduleTime ("default", "report")) =
      some 120000000 := by decide +kernel
  have overwritten : ((run (step none id .etcd fun _ name => some name) withEveryMinute
      (laterSlotRecorded ++ List.replicate 3 (leads 0))).bind fun world =>
        world.lastScheduleTime ("default", "report")) = some 60000000 := by decide +kernel
  obtain ⟨middle, prior, recorded⟩ := Option.bind_eq_some_iff.mp recorded
  obtain ⟨finish, ran, overwritten⟩ := Option.bind_eq_some_iff.mp overwritten
  obtain ⟨other, same, rest⟩ := (run_append_eq_some ..).mp ran
  obtain rfl := Option.some.inj (same.symm.trans prior)
  obtain ⟨later, isLater, after⟩ :=
    forward_of_safe (along.split prior).2 rest _ _ recorded
  rw [overwritten] at isLater
  obtain rfl := Option.some.inj isLater
  exact absurd after (by decide)

end CronWorld

end Controllers
end K1s
