import K1s.Controllers.CronJobs

/-!
# Slots of cron expressions

The slots that `_next_due_schedule` gives a CronJob with a cron expression.  The iterator
over the expression is a parameter that gives the least matching time after a base.  Where
that time is not reached yet, the slot comes from an interval of a minute.

The main result says when every slot is a matching time that is due: exactly if a matching
time is due, or the last slot is less than a minute old.
-/

namespace K1s
namespace Controllers

open Py

/-- The iterator gives the least matching time after a base, if there is one. -/
def Enumerates
    (next : String → Int → Option Int) (schedule : String)
    (matching : Set Int) : Prop :=
  ∀ base slot, next schedule base = some slot ↔ IsLeast {time ∈ matching | base < time} slot

/-- The CronJob has a cron expression and no annotation with an interval. -/
structure CronJobEntry.ScheduledBy (entry : CronJobEntry) (schedule : String) : Prop where
  annotated : ∃ annotations,
    ((Dict.get entry.metadata "annotations").or (.dict [])).asDict = some annotations ∧
      Dict.get annotations "cronjob.k1s.dev/intervalSeconds" = .null ∧
      ((Dict.get annotations "cronjob.k1s.dev/schedule").or
        (Dict.get entry.spec "schedule")).truthy = true ∧
      ((Dict.get annotations "cronjob.k1s.dev/schedule").or
        (Dict.get entry.spec "schedule")).toStr = schedule

/-- The base of the iteration: the last slot, or a minute ago. -/
def scheduleBase (now : Int) (last : Option Int) : Int := last.getD (now - 60000000)

/-- A matching time after the base that is not after now. -/
def IsDue (matching : Set Int) (now : Int) (last : Option Int) (slot : Int) : Prop :=
  slot ∈ matching ∧ scheduleBase now last < slot ∧ slot ≤ now

/-- A slot that is given is due, and without a time that is due no slot is given. -/
structure GivesDueSlots
    (croniter : Option (String → Int → Option Int)) (entry : CronJobEntry)
    (matching : Set Int) (now : Int)
    (last : Option Int) : Prop where
  due : ∀ slot, nextDueSchedule croniter entry now = some (some slot) →
    IsDue matching now last slot
  idle : (∀ slot, ¬ IsDue matching now last slot) →
    ∀ slot, nextDueSchedule croniter entry now ≠ some (some slot)

/-- The interval of a minute gives no slot: the last one is less than a minute old. -/
def RanLately (now : Int) (last : Option Int) : Prop :=
  ∃ former, last = some former ∧ ∀ slot, addSeconds former 60 = some slot → now < slot

section Slots

variable {next : String → Int → Option Int} {schedule : String} {matching : Set Int}
variable {entry : CronJobEntry} {now : Int} {last : Option Int}

/-- The cron expression gives the least time that is due. -/
theorem nextCronSchedule_eq_some_iff
    (enumerates : Enumerates next schedule matching) (slot : Int) :
    nextCronSchedule (some next) schedule now last = some slot ↔
      IsLeast {time | IsDue matching now last time} slot := by
  unfold nextCronSchedule
  rw [Option.bind_some, Option.filter_eq_some_iff, enumerates, decide_eq_true_eq]
  constructor
  · rintro ⟨least, reached⟩
    exact ⟨⟨least.1.1, least.1.2, reached⟩, fun time due => least.2 ⟨due.1, due.2.1⟩⟩
  · rintro ⟨⟨member, after, reached⟩, least⟩
    refine ⟨⟨⟨member, after⟩, ?_⟩, reached⟩
    rintro time ⟨timeMember, timeAfter⟩
    -- A matching time after now is greater than the slot.
    rcases le_or_gt time now with timeReached | later
    · exact least ⟨timeMember, timeAfter, timeReached⟩
    · omega

/-- Without a time that is due the expression gives none. -/
theorem nextCronSchedule_eq_none
    (enumerates : Enumerates next schedule matching)
    (idle : ∀ slot, ¬ IsDue matching now last slot) :
    nextCronSchedule (some next) schedule now last = none := by
  rw [Option.eq_none_iff_forall_ne_some]
  intro slot given
  exact idle slot ((nextCronSchedule_eq_some_iff enumerates slot).mp given).1

/-- With a time that is due the expression gives one. -/
theorem exists_nextCronSchedule
    (enumerates : Enumerates next schedule matching) {slot : Int}
    (due : IsDue matching now last slot) :
    ∃ first, nextCronSchedule (some next) schedule now last = some first := by
  have bounded : ∃ bound, ∀ time, IsDue matching now last time → bound ≤ time :=
    ⟨scheduleBase now last, fun time timeDue => timeDue.2.1.le⟩
  obtain ⟨first, isDue, least⟩ := Int.exists_least_of_bdd bounded ⟨slot, due⟩
  exact ⟨first, (nextCronSchedule_eq_some_iff enumerates first).mpr ⟨isDue, least⟩⟩

/-- The interval of a minute gives a slot unless the last one is less than a minute old. -/
theorem exists_nextIntervalSchedule_iff :
    (∃ slot, nextIntervalSchedule now last (.int 60) = some (some slot)) ↔
      ¬ RanLately now last := by
  cases last with
  | none =>
      have small : ¬ floatOverflow ≤ 60 := by decide +kernel
      have reached : ¬ now < now / 1000000 / 60 * 60 * 1000000 := by omega
      simp [nextIntervalSchedule, Json.toInt, RanLately, small, reached]
  | some former =>
      cases later : addSeconds former 60 with
      | none => simp [nextIntervalSchedule, Json.toInt, RanLately, later]
      | some slot =>
          have after : ¬ slot ≤ former := by
            simp only [addSeconds] at later
            split at later
            · have := Option.some.inj later
              omega
            · cases later
          simp [nextIntervalSchedule, Json.toInt, RanLately, later, after]

/-- The slot of a CronJob with a cron expression. -/
theorem nextDueSchedule_eq
    (scheduled : entry.ScheduledBy schedule)
    (parsed : entry.status.lastScheduleTime.parse = some last)
    (croniter : Option (String → Int → Option Int)) (now : Int) :
    nextDueSchedule croniter entry now =
      match nextCronSchedule croniter schedule now last with
      | some slot => some (some slot)
      | none => nextIntervalSchedule now last (.int 60) := by
  obtain ⟨annotations, found, noInterval, truthy, rfl⟩ := scheduled.annotated
  unfold nextDueSchedule
  simp only [found, parsed, noInterval, truthy, Option.bind_eq_bind, Option.bind_some, ne_eq,
    not_true_eq_false, if_false, if_true]
  rfl

/-- All slots are due exactly if a time is due or the last slot is less than a minute
old. -/
theorem givesDueSlots_iff
    (enumerates : Enumerates next schedule matching) (scheduled : entry.ScheduledBy schedule)
    (parsed : entry.status.lastScheduleTime.parse = some last) :
    GivesDueSlots (some next) entry matching now last ↔
      (∃ slot, IsDue matching now last slot) ∨ RanLately now last := by
  have given := nextDueSchedule_eq scheduled parsed (some next) now
  constructor
  · intro gives
    by_contra neither
    rw [not_or, not_exists] at neither
    obtain ⟨idle, longAgo⟩ := neither
    obtain ⟨slot, fallback⟩ := exists_nextIntervalSchedule_iff.mpr longAgo
    rw [nextCronSchedule_eq_none enumerates idle] at given
    exact gives.idle idle slot (given.trans fallback)
  · intro either
    have due : ∀ slot, nextDueSchedule (some next) entry now = some (some slot) →
        IsDue matching now last slot := by
      intro slot isGiven
      by_cases some : ∃ time, IsDue matching now last time
      · obtain ⟨time, timeDue⟩ := some
        obtain ⟨first, isFirst⟩ := exists_nextCronSchedule enumerates timeDue
        rw [given, isFirst] at isGiven
        obtain rfl : first = slot := by simpa using isGiven
        exact ((nextCronSchedule_eq_some_iff enumerates first).mp isFirst).1
      · rw [given, nextCronSchedule_eq_none enumerates (not_exists.mp some)] at isGiven
        exact absurd (either.resolve_left some)
          (exists_nextIntervalSchedule_iff.mp ⟨slot, isGiven⟩)
    exact ⟨due, fun idle slot isGiven => idle slot (due slot isGiven)⟩

end Slots

/-! ## An hourly schedule -/

def fullHours : Set Int := {time | time % 3600000000 = 0}

/-- The next full hour after a base. -/
def hourlyCroniter (_ : String) (base : Int) : Option Int :=
  some ((base / 3600000000 + 1) * 3600000000)

theorem enumerates_hourly (schedule : String) :
    Enumerates hourlyCroniter schedule fullHours := by
  intro base slot
  unfold hourlyCroniter fullHours
  rw [Option.some.injEq]
  constructor
  · rintro rfl
    refine ⟨⟨?_, ?_⟩, ?_⟩
    · change _ % _ = (0 : Int)
      omega
    · omega
    · rintro time ⟨member, after⟩
      change time % 3600000000 = 0 at member
      omega
  · rintro ⟨⟨member, after⟩, least⟩
    change slot % 3600000000 = 0 at member
    have within : slot ≤ (base / 3600000000 + 1) * 3600000000 := by
      apply least
      constructor
      · change _ % _ = (0 : Int)
        omega
      · omega
    omega

/-- An hourly CronJob with a slot at the start of the epoch. -/
def hourlyCronJob : CronJobEntry where
  ns := "default"
  name := "report"
  metadata := []
  spec := [("schedule", .str "0 * * * *")]
  status := ⟨.written 0, .written 0, []⟩
  resourceVersion := 1

theorem scheduledBy_hourlyCronJob : hourlyCronJob.ScheduledBy "0 * * * *" :=
  ⟨[], by decide +kernel, by decide +kernel, by decide +kernel, by decide +kernel⟩

theorem givesDueSlots_hourlyCronJob :
    GivesDueSlots (some hourlyCroniter) hourlyCronJob fullHours 3600000000 (some 0) := by
  apply (givesDueSlots_iff (enumerates_hourly _) scheduledBy_hourlyCronJob rfl).mpr
  refine .inl ⟨3600000000, ?_, ?_, le_rfl⟩
  · change (3600000000 : Int) % 3600000000 = 0
    norm_num
  · change (0 : Int) < 3600000000
    norm_num

/-- A minute later the interval gives a slot that is no full hour. -/
theorem not_givesDueSlots_hourlyCronJob :
    ¬ GivesDueSlots (some hourlyCroniter) hourlyCronJob fullHours 60000000 (some 0) := by
  intro gives
  have given : nextDueSchedule (some hourlyCroniter) hourlyCronJob 60000000 =
      some (some 60000000) := by decide +kernel
  have member : (60000000 : Int) % 3600000000 = 0 := (gives.due _ given).1
  norm_num at member

end Controllers
end K1s
