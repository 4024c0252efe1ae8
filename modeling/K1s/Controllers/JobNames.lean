import K1s.Controllers.CronJobs
import K1s.Py.Encode
import Mathlib

/-!
# Names of Jobs

The Job of a CronJob is named after it and the time of its schedule.  A name that would be
longer than 63 characters is cut, and a digest of the whole name is put after what is left.
A CronJob may itself have such a name.
-/

namespace K1s
namespace Controllers

open Py

/-! ## Dates -/

theorem dayOfYear_nonneg {dayOfEra : Int} (low : 0 ≤ dayOfEra) (high : dayOfEra < 146097) :
    let yearOfEra := (dayOfEra - dayOfEra / 1460 + dayOfEra / 36524 - dayOfEra / 146096) / 365
    365 * yearOfEra + yearOfEra / 4 - yearOfEra / 100 ≤ dayOfEra := by
  intro yearOfEra
  have leaps : yearOfEra / 4 ≤ dayOfEra / 1460 := by omega
  have centuries : dayOfEra / 36524 - dayOfEra / 146096 ≤ yearOfEra / 100 := by
    have century : dayOfEra / 36524 = 0 ∨ dayOfEra / 36524 = 1 ∨ dayOfEra / 36524 = 2 ∨
        dayOfEra / 36524 = 3 ∨ dayOfEra / 36524 = 4 := by
      omega
    obtain h | h | h | h | h := century <;> omega
  omega

/-- A date in years that begin with March. -/
theorem civilDate_eq (days : Int) :
    ∃ yearOfEra dayOfYear shiftedMonth : Int, days = (days + 719468) / 146097 * 146097 +
        (365 * yearOfEra + yearOfEra / 4 - yearOfEra / 100 + dayOfYear) - 719468 ∧
      (0 ≤ yearOfEra ∧ yearOfEra < 400) ∧
      (shiftedMonth = (5 * dayOfYear + 2) / 153 ∧ 0 ≤ shiftedMonth ∧ shiftedMonth < 12) ∧
      civilDate days =
        let month := if shiftedMonth < 10 then shiftedMonth + 3 else shiftedMonth - 9
        (yearOfEra + (days + 719468) / 146097 * 400 + if month ≤ 2 then 1 else 0, month,
          dayOfYear - (153 * shiftedMonth + 2) / 5 + 1) := by
  refine ⟨_, _, _, ?_, ?_, ⟨rfl, ?_⟩, rfl⟩
  · omega
  · omega
  · have low := Int.emod_nonneg (days + 719468) (by decide : (146097 : Int) ≠ 0)
    have high := Int.emod_lt_of_pos (days + 719468) (by decide : (0 : Int) < 146097)
    have begun := dayOfYear_nonneg low high
    omega

theorem civilDate_injective : Function.Injective civilDate := by
  intro first second same
  obtain ⟨year, day, month, whole, inEra, inYear, date⟩ := civilDate_eq first
  obtain ⟨year', day', month', whole', inEra', inYear', date'⟩ := civilDate_eq second
  simp only [date, date', Prod.mk.injEq] at same
  obtain ⟨sameYear, sameMonth, sameDay⟩ := same
  have months : month = month' := by split_ifs at sameMonth <;> omega
  subst months
  have eras : (first + 719468) / 146097 = (second + 719468) / 146097 := by omega
  have years : year = year' := by omega
  subst years
  omega

@[ext] structure ScheduleSlot where
  time : Int
  isDatetime : datetimeMin ≤ time ∧ time ≤ datetimeMax
  deriving DecidableEq

namespace ScheduleSlot

/-- The second of the time, which is all that a name shows. -/
def second (slot : ScheduleSlot) : Int := wholeSeconds slot.time

/-- The year has at most five digits, the month and the day have two. -/
theorem date_bounds (slot : ScheduleSlot) :
    let date := civilDate (slot.second / 86400)
    (0 ≤ date.1 ∧ date.1 < 100000) ∧ (0 ≤ date.2.1 ∧ date.2.1 < 100) ∧
      0 ≤ date.2.2 ∧ date.2.2 < 100 := by
  have inRange := slot.isDatetime
  unfold datetimeMin datetimeMax at inRange
  unfold second wholeSeconds
  obtain ⟨year, day, month, whole, inEra, inYear, date⟩ :=
    civilDate_eq (slot.time / 1000000 / 86400)
  rw [date]
  dsimp only
  split_ifs <;> omega

end ScheduleSlot

theorem padded_two {number : Int} (low : 0 ≤ number) (high : number < 100) :
    (padded 2 number).toList.length = 2 ∧ '-' ∉ (padded 2 number).toList ∧
      digitsValue (padded 2 number).toList = number := by
  have digits : ∀ small : Fin 100, (padded 2 (small : Nat)).toList.length = 2 ∧
      '-' ∉ (padded 2 (small : Nat)).toList ∧
      (digitsValue (padded 2 (small : Nat)).toList : Int) = (small : Nat) := by
    decide +kernel
  obtain ⟨small, rfl⟩ := Int.eq_ofNat_of_zero_le low
  exact digits ⟨small, by omega⟩

theorem toDigits_year {year : Int} (low : 0 ≤ year) (high : year < 100000) :
    (toString year).toList.length ≤ 5 ∧ '-' ∉ (toString year).toList ∧
      digitsValue (toString year).toList = year := by
  rw [toList_toString_int, if_pos low, List.nil_append, digitsValue_toDigits]
  refine ⟨(Nat.length_toDigits_le_iff (by omega) (by omega)).mpr (by omega), fun dash => ?_, by omega⟩
  cases Nat.isDigit_of_mem_toDigits (by decide) (by decide) dash

/-! ## Suffixes -/

section Suffixes

variable (slot : ScheduleSlot)

/-- The characters of the time in a suffix. -/
def stamp : List Char :=
  let date := civilDate (slot.second / 86400)
  let ofDay := slot.second % 86400
  (toString date.1).toList ++ (padded 2 date.2.1).toList ++ (padded 2 date.2.2).toList ++
    (padded 2 (ofDay / 3600)).toList ++ (padded 2 (ofDay / 60 % 60)).toList ++
    (padded 2 (ofDay % 60)).toList

theorem runSuffix_eq : (runSuffix slot.time).toList = 'r' :: 'u' :: 'n' :: '-' :: stamp slot := by
  simp [runSuffix, stamp, ScheduleSlot.second]

/-- The parts of a stamp are numbers without a dash, all but the year with two digits. -/
theorem stamp_parts :
    let date := civilDate (slot.second / 86400)
    let ofDay := slot.second % 86400
    ((toString date.1).toList.length ≤ 5 ∧ '-' ∉ (toString date.1).toList ∧
      digitsValue (toString date.1).toList = date.1) ∧
    ∀ number ∈ [date.2.1, date.2.2, ofDay / 3600, ofDay / 60 % 60, ofDay % 60],
      (padded 2 number).toList.length = 2 ∧ '-' ∉ (padded 2 number).toList ∧
        digitsValue (padded 2 number).toList = number := by
  obtain ⟨year, month, day⟩ := slot.date_bounds
  refine ⟨toDigits_year year.1 year.2, fun number inside => ?_⟩
  apply padded_two <;> grind

theorem stamp_bounds : (stamp slot).length ≤ 15 ∧ '-' ∉ stamp slot := by
  obtain ⟨year, others⟩ := stamp_parts slot
  simp only [List.forall_mem_cons] at others
  constructor
  · simp only [stamp, List.length_append]
    omega
  · obtain ⟨month, day, hour, minute, sec, -⟩ := others
    simp only [stamp, List.mem_append, not_or]
    exact ⟨⟨⟨⟨⟨year.2.1, month.2.1⟩, day.2.1⟩, hour.2.1⟩, minute.2.1⟩, sec.2.1⟩

theorem runSuffix_congr
    {first second : ScheduleSlot} (same : first.second = second.second) :
    runSuffix first.time = runSuffix second.time := by
  rw [← String.toList_inj, runSuffix_eq, runSuffix_eq, stamp, stamp, same]

theorem length_runSuffix : (runSuffix slot.time).length ≤ 19 := by
  have short := (stamp_bounds slot).1
  rw [← String.length_toList, runSuffix_eq]
  simp only [List.length_cons]
  omega

theorem second_eq_of_stamp
    {first second : ScheduleSlot} (same : stamp first = stamp second) :
    first.second = second.second := by
  obtain ⟨year, others⟩ := stamp_parts first
  obtain ⟨year', others'⟩ := stamp_parts second
  simp only [List.forall_mem_cons] at others others'
  obtain ⟨month, day, hour, minute, sec, -⟩ := others
  obtain ⟨month', day', hour', minute', sec', -⟩ := others'
  have valued : ∀ {left right : List Char} {number other : Int}, left = right →
      (digitsValue left : Int) = number → (digitsValue right : Int) = other → number = other := by
    rintro left _ number other rfl rfl rfl
    rfl
  obtain ⟨same, secs⟩ := List.append_inj' same (by rw [sec.1, sec'.1])
  obtain ⟨same, minutes⟩ := List.append_inj' same (by rw [minute.1, minute'.1])
  obtain ⟨same, hours⟩ := List.append_inj' same (by rw [hour.1, hour'.1])
  obtain ⟨same, days⟩ := List.append_inj' same (by rw [day.1, day'.1])
  obtain ⟨years, months⟩ := List.append_inj' same (by rw [month.1, month'.1])
  have dates : first.second / 86400 = second.second / 86400 := by
    apply civilDate_injective
    ext
    · exact valued years year.2.2 year'.2.2
    · exact valued months month.2.2 month'.2.2
    · exact valued days day.2.2 day'.2.2
  have sameHour := valued hours hour.2.2 hour'.2.2
  have sameMinute := valued minutes minute.2.2 minute'.2.2
  have sameSecond := valued secs sec.2.2 sec'.2.2
  omega

end Suffixes

/-- What comes after the last dash can be read off. -/
theorem append_dash_inj
    {front front' back back' : List Char}
    (same : front ++ '-' :: back = front' ++ '-' :: back') (plain : '-' ∉ back)
    (plain' : '-' ∉ back') : front = front' ∧ back = back' := by
  rcases List.append_eq_append_iff.mp same with ⟨gap, rfl, rest⟩ | ⟨gap, rfl, rest⟩
  all_goals
    cases gap with
    | nil => simp_all
    | cons first others =>
        obtain ⟨-, rfl⟩ := List.cons.inj rest
        simp at plain plain'

/-! ## Names -/

section Names

variable (sha1 : String → String) (name : String) (slot : ScheduleSlot)

/-- The name of the CronJob is used as it is. -/
def Fits : Prop := (name ++ "-" ++ runSuffix slot.time).length ≤ 63

instance : Decidable (Fits name slot) := inferInstanceAs (Decidable (_ ≤ 63))

def digest : String := String.ofList ((sha1 name).toList.take 8)

/-- The cut name with the digest. -/
def shortened : String :=
  String.ofList (name.toList.take (53 - (runSuffix slot.time).length)) ++ "-" ++ digest sha1 name

/-- The first name is what the second one, which is too long, becomes. -/
def Shadows (short long : String) : Prop :=
  ¬ Fits long slot ∧ short = shortened sha1 long slot

variable {sha1} (hexdigest : ∀ text, (sha1 text).length = 40)

include hexdigest

theorem length_digest : (digest sha1 name).length = 8 := by
  rw [digest, String.length_ofList, List.length_take, String.length_toList, hexdigest]
  rfl

theorem scheduledJobName_eq :
    scheduledJobName sha1 name slot.time =
      (if Fits name slot then name else shortened sha1 name slot) ++ "-" ++
        runSuffix slot.time := by
  have long := length_runSuffix slot
  have eight := length_digest name hexdigest
  have budget : (max 1 (63 - ((runSuffix slot.time).length : Int) -
      (digest sha1 name).length - 2)).toNat = 53 - (runSuffix slot.time).length := by
    rw [eight]
    omega
  by_cases short : Fits name slot
  · rw [if_pos short]
    exact if_pos short
  · rw [if_neg short, shortened, ← budget]
    exact if_neg short

theorem length_shortened {long : String} (cut : ¬ Fits long slot) :
    (shortened sha1 long slot).length = 62 - (runSuffix slot.time).length := by
  have suffix := length_runSuffix slot
  have eight := length_digest long hexdigest
  simp only [Fits, String.length_append] at cut
  have one : "-".length = 1 := rfl
  rw [shortened, String.length_append, String.length_append, String.length_ofList,
    List.length_take, String.length_toList, eight]
  omega

/-- A name that shadows another is not cut itself. -/
theorem Shadows.fits {short long : String} (shadows : Shadows sha1 slot short long) :
    Fits short slot ∧ short ≠ long := by
  have suffix := length_runSuffix slot
  have length := length_shortened slot hexdigest shadows.1
  have long := shadows.1
  have one : "-".length = 1 := rfl
  rw [← shadows.2] at length
  simp only [Fits, String.length_append] at long ⊢
  refine ⟨by omega, ?_⟩
  rintro rfl
  omega

theorem heads_eq
    {first second : String}
    (same : (if Fits first slot then first else shortened sha1 first slot) =
      if Fits second slot then second else shortened sha1 second slot)
    (free : digest sha1 first = digest sha1 second → first = second) :
    first = second ∨ Shadows sha1 slot first second ∨ Shadows sha1 slot second first := by
  split at same <;> split at same
  · exact .inl same
  · next cut => exact .inr (.inl ⟨cut, same⟩)
  · next cut _ => exact .inr (.inr ⟨cut, same.symm⟩)
  · have lengths : (digest sha1 first).toList.length = (digest sha1 second).toList.length := by
      simp only [String.length_toList, length_digest _ hexdigest]
    have chars := congrArg String.toList same
    simp only [shortened, String.toList_append] at chars
    exact .inl (free (String.toList_inj.mp (List.append_inj' chars lengths).2))

theorem scheduledJobName_eq_iff
    {first second : String × ScheduleSlot}
    (free : digest sha1 first.1 = digest sha1 second.1 → first.1 = second.1) :
    scheduledJobName sha1 first.1 first.2.time = scheduledJobName sha1 second.1 second.2.time ↔
      first.2.second = second.2.second ∧ (first.1 = second.1 ∨ Shadows sha1 first.2 first.1 second.1 ∨
        Shadows sha1 first.2 second.1 first.1) := by
  obtain ⟨name, slot⟩ := first
  obtain ⟨name', slot'⟩ := second
  simp only [scheduledJobName_eq _ _ hexdigest] at free ⊢
  constructor
  · intro same
    have chars := congrArg String.toList same
    simp only [String.toList_append, runSuffix_eq] at chars
    have regroup : ∀ (head rest : List Char),
        head ++ "-".toList ++ 'r' :: 'u' :: 'n' :: '-' :: rest =
          (head ++ ['-', 'r', 'u', 'n']) ++ '-' :: rest := fun head rest => by simp
    rw [regroup, regroup] at chars
    obtain ⟨fronts, stamps⟩ := append_dash_inj chars (stamp_bounds slot).2 (stamp_bounds slot').2
    have seconds := second_eq_of_stamp stamps
    have heads := String.toList_inj.mp (List.append_cancel_right fronts)
    simp only [Fits, shortened, ← runSuffix_congr seconds] at heads
    exact ⟨seconds, heads_eq slot hexdigest heads free⟩
  · rintro ⟨seconds, same⟩
    simp only [Fits, shortened, ← runSuffix_congr seconds]
    change (if Fits name slot then name else shortened sha1 name slot) ++ _ ++ _ =
      (if Fits name' slot then name' else shortened sha1 name' slot) ++ _ ++ _
    rcases same with rfl | shadows | shadows
    · rfl
    · rw [if_pos (shadows.fits _ hexdigest).1, if_neg shadows.1, ← shadows.2]
    · rw [if_pos (shadows.fits _ hexdigest).1, if_neg shadows.1, ← shadows.2]

/-- Two pairs of which the digests do not collide have two names exactly when their times are
not in one second, or their names are apart and neither is what the other becomes. -/
theorem scheduledJobNames_iff
    (first second : String × ScheduleSlot)
    (free : digest sha1 first.1 = digest sha1 second.1 → first.1 = second.1) :
    (scheduledJobName sha1 first.1 first.2.time = scheduledJobName sha1 second.1 second.2.time →
        first = second) ↔
      ¬ (first.2.second = second.2.second ∧ (first.1 = second.1 ∧ first.2 ≠ second.2 ∨
        Shadows sha1 first.2 first.1 second.1 ∨ Shadows sha1 first.2 second.1 first.1)) := by
  rw [scheduledJobName_eq_iff hexdigest free, Prod.ext_iff]
  constructor
  · rintro distinct ⟨seconds, same | shadows⟩
    · exact same.2 (distinct ⟨seconds, .inl same.1⟩).2
    · have names := (distinct ⟨seconds, .inr shadows⟩).1
      rcases shadows with shadows | shadows
      · exact (shadows.fits _ hexdigest).2 names
      · exact (shadows.fits _ hexdigest).2 names.symm
  · rintro apart ⟨seconds, same | shadows⟩
    · exact ⟨same, by_contra fun slots => apart ⟨seconds, .inl ⟨same, slots⟩⟩⟩
    · exact absurd ⟨seconds, .inr shadows⟩ apart

end Names

/-- The digests of a long name and of the short one that shadows it. -/
def sampleSha1 (name : String) : String :=
  if name = "aaaaaaaaaaaaaaaaaaaaaaaaaaaaaaaaaaaaaaaaaaaaa" then
    "4642fe68c57cd01fc68fc11b7f22b940328a7cc4"
  else "3f6dd2e4d96b7e22f80c1c0b9a95181151235c9a"

/-- The first of January 2024. -/
def newYear : ScheduleSlot := ⟨1704067200000000, by decide⟩

def longName : String × ScheduleSlot := ("aaaaaaaaaaaaaaaaaaaaaaaaaaaaaaaaaaaaaaaaaaaaa", newYear)

def shortName : String × ScheduleSlot := ("aaaaaaaaaaaaaaaaaaaaaaaaaaaaaaaaaaa-4642fe68", newYear)

theorem scheduledJobNames_iff_longName :
    (scheduledJobName sampleSha1 longName.1 longName.2.time =
        scheduledJobName sampleSha1 shortName.1 shortName.2.time → longName = shortName) ↔
      ¬ (longName.2.second = shortName.2.second ∧
        (longName.1 = shortName.1 ∧ longName.2 ≠ shortName.2 ∨
          Shadows sampleSha1 longName.2 longName.1 shortName.1 ∨
          Shadows sampleSha1 longName.2 shortName.1 longName.1)) :=
  scheduledJobNames_iff (fun text => by unfold sampleSha1; split <;> decide) longName shortName
    (by decide +kernel)

theorem scheduledJobName_longName_eq :
    digest sampleSha1 longName.1 ≠ digest sampleSha1 shortName.1 ∧
      scheduledJobName sampleSha1 longName.1 longName.2.time =
        scheduledJobName sampleSha1 shortName.1 shortName.2.time ∧ longName.1 ≠ shortName.1 := by
  decide +kernel

end Controllers
end K1s
