import Mathlib.Data.List.Induction
import Mathlib.Order.MinMax
import Mathlib.Logic.Function.Basic
import Mathlib.Tactic.Tauto

/-!
# Streams that are filtered by a running maximum

Every item of a stream has a key and a version.  A reader remembers the greatest
version that it has passed on and drops the items below it.  This module says
what such a reader passes on about one key: the last item of the key that is not
late, that is, not below an item before it.
-/

namespace K1s
namespace RunningMax

section Stream

variable {α κ ν : Type} [LinearOrder ν]
variable (version : α → ν) (key : α → κ)

/-- The items that are passed on, from a floor. -/
def passed : ν → List α → List α
  | _, [] => []
  | floor, item :: rest =>
      if floor ≤ version item then item :: passed (version item) rest
      else passed floor rest

/-- The greatest version after a stream. -/
def ceiling (floor : ν) (items : List α) : ν :=
  items.foldl (fun greatest item => max greatest (version item)) floor

/-- The item is below the floor or below an item before it. -/
def Late (floor : ν) (front : List α) (item : α) : Prop :=
  version item < floor ∨ ∃ earlier ∈ front, version item < version earlier

/-- The last item about a key. -/
def IsLast (items : List α) (item : α) : Prop :=
  ∃ front back, items = front ++ item :: back ∧ ∀ other ∈ back, key other ≠ key item

/-- The last item about its key that is not late. -/
def IsLastOnTime (floor : ν) (items : List α) (item : α) : Prop :=
  ∃ front back, items = front ++ item :: back ∧ ¬ Late version floor front item ∧
    ∀ before other after, back = before ++ other :: after → key other = key item →
      Late version floor (front ++ item :: before) other

/-- Every item about the key is late. -/
def AllLate (floor : ν) (items : List α) (wanted : κ) : Prop :=
  ∀ front item back, items = front ++ item :: back → key item = wanted →
    Late version floor front item

/-! ## The filter -/

@[simp] theorem ceiling_nil (floor : ν) : ceiling version floor [] = floor := rfl

@[simp] theorem ceiling_cons (floor : ν) (item : α) (rest : List α) :
    ceiling version floor (item :: rest) = ceiling version (max floor (version item)) rest := rfl

@[simp] theorem ceiling_append (floor : ν) (front back : List α) :
    ceiling version floor (front ++ back) =
      ceiling version (ceiling version floor front) back := by
  simp [ceiling]

/-- The greatest version is within a bound if the floor and all versions are. -/
theorem ceiling_le_iff (floor bound : ν) (items : List α) :
    ceiling version floor items ≤ bound ↔
      floor ≤ bound ∧ ∀ item ∈ items, version item ≤ bound := by
  induction items generalizing floor with
  | nil => simp
  | cons first rest ih =>
      rw [ceiling_cons, ih, max_le_iff, List.forall_mem_cons, and_assoc]

/-- An item is late when it is below the greatest version before it. -/
theorem late_iff (floor : ν) (front : List α) (item : α) :
    Late version floor front item ↔ version item < ceiling version floor front := by
  induction front generalizing floor with
  | nil => simp [Late]
  | cons first rest ih =>
      rw [ceiling_cons, ← ih]
      simp only [Late, List.mem_cons, exists_eq_or_imp, lt_max_iff]
      tauto

theorem passed_cons (floor : ν) (item : α) (rest : List α) :
    passed version floor (item :: rest) = (if floor ≤ version item then [item] else []) ++
        passed version (max floor (version item)) rest := by
  by_cases above : floor ≤ version item
  · simp [passed, above]
  · rw [passed, if_neg above, if_neg above, max_eq_left (le_of_not_ge above)]
    rfl

theorem passed_append (floor : ν) (front back : List α) :
    passed version floor (front ++ back) =
      passed version floor front ++ passed version (ceiling version floor front) back := by
  induction front generalizing floor with
  | nil => rfl
  | cons item rest ih =>
      rw [List.cons_append, passed_cons, passed_cons, ih, ceiling_cons,
        List.append_assoc]

theorem not_mem_passed_of_allLate
    {floor : ν} {items : List α} {wanted : κ} (late : AllLate version key floor items wanted) :
    ∀ item ∈ passed version floor items, key item ≠ wanted := by
  induction items using List.reverseRecOn with
  | nil => simp [passed]
  | append_singleton front last ih =>
      have earlier : AllLate version key floor front wanted := by
        intro before item after split same
        exact late before item (after ++ [last]) (by simp [split]) same
      intro item member same
      rw [passed_append, List.mem_append] at member
      rcases member with before | here
      · exact ih earlier item before same
      · rw [passed_cons] at here
        split at here
        · next above =>
            obtain rfl : item = last := by simpa [passed] using here
            exact absurd ((late_iff version floor front item).mp
              (late front item [] rfl same)) (not_lt.mpr above)
        · simp [passed] at here

/-- The last item of a key that is not late is the last one that is passed on. -/
theorem isLast_passed
    {floor : ν} {items : List α} {item : α} (last : IsLastOnTime version key floor items item) :
    IsLast key (passed version floor items) item := by
  obtain ⟨front, back, rfl, onTime, later⟩ := last
  have above : ceiling version floor front ≤ version item :=
    not_lt.mp fun below => onTime ((late_iff version floor front item).mpr below)
  refine ⟨passed version floor front,
    passed version (max (ceiling version floor front) (version item)) back, ?_, ?_⟩
  · rw [passed_append, passed_cons, if_pos above]
    rfl
  · refine not_mem_passed_of_allLate version key ?_
    intro before other after split same
    have := later before other after split same
    rwa [late_iff, ceiling_append, ceiling_cons, ← late_iff] at this

/-- Either every item about a key is late, or there is a last one that is not. -/
theorem allLate_or_isLastOnTime (floor : ν) (items : List α) (wanted : κ) :
    AllLate version key floor items wanted ∨
      ∃ item, key item = wanted ∧ IsLastOnTime version key floor items item := by
  induction items using List.reverseRecOn with
  | nil => exact .inl fun front item back split => by simp at split
  | append_singleton front last ih =>
      by_cases here : key last = wanted ∧ ¬ Late version floor front last
      · refine .inr ⟨last, here.1, front, [], rfl, here.2, ?_⟩
        intro before other after split
        simp at split
      · have late : key last = wanted → Late version floor front last := fun same =>
          not_not.mp fun onTime => here ⟨same, onTime⟩
        rcases ih with all | ⟨item, same, before, after, rfl, onTime, later⟩
        · refine .inl fun before item after split same => ?_
          rcases List.eq_nil_or_concat after with rfl | ⟨init, final, rfl⟩
          · obtain ⟨rfl, equal⟩ := List.append_inj' split rfl
            obtain rfl : last = item := by simpa using equal
            exact late same
          · refine all before item init ?_ same
            rw [List.concat_eq_append, ← List.cons_append, ← List.append_assoc] at split
            exact (List.append_inj' split rfl).1
        · refine .inr ⟨item, same, before, after ++ [last], by simp, onTime, ?_⟩
          intro between other rest split otherSame
          rcases List.eq_nil_or_concat rest with rfl | ⟨init, final, rfl⟩
          · obtain ⟨rfl, equal⟩ := List.append_inj' split rfl
            obtain rfl : last = other := by simpa using equal
            exact late (otherSame.trans same)
          · refine later between other init ?_ otherSame
            rw [List.concat_eq_append, ← List.cons_append, ← List.append_assoc] at split
            exact (List.append_inj' split rfl).1

theorem IsLast.mem
    {items : List α} {item : α}
    (last : IsLast key items item) : item ∈ items := by
  obtain ⟨front, back, rfl, -⟩ := last
  simp

/-- A key has at most one last item. -/
theorem IsLast.unique
    {items : List α} {first second : α} (firstLast : IsLast key items first)
    (secondLast : IsLast key items second)
    (same : key first = key second) : first = second := by
  obtain ⟨front, back, rfl, none⟩ := firstLast
  obtain ⟨otherFront, otherBack, split, otherNone⟩ := secondLast
  rw [List.append_eq_append_iff] at split
  rcases split with ⟨middle, rfl, split⟩ | ⟨middle, rfl, split⟩
  · cases middle with
    | nil => simpa using (List.cons.inj split).1
    | cons head tail =>
        obtain ⟨rfl, rfl⟩ := List.cons.inj split
        exact absurd same.symm (none second (by simp))
  · cases middle with
    | nil => simpa using (List.cons.inj split).1.symm
    | cons head tail =>
        obtain ⟨rfl, rfl⟩ := List.cons.inj split
        exact absurd same (otherNone first (by simp))

/-- A key that a stream is about has a last item. -/
theorem exists_isLast
    {items : List α} {item : α}
    (member : item ∈ items) : ∃ last, key last = key item ∧ IsLast key items last := by
  induction items using List.reverseRecOn with
  | nil => cases member
  | append_singleton front final ih =>
      by_cases here : key final = key item
      · exact ⟨final, here, front, [], rfl, by simp⟩
      · have before : item ∈ front := by
          rcases List.mem_append.mp member with before | last
          · exact before
          · obtain rfl := List.mem_singleton.mp last
            exact absurd rfl here
        obtain ⟨last, same, start, back, rfl, none⟩ := ih before
        refine ⟨last, same, start, back ++ [final], by simp, ?_⟩
        intro next inNext
        rcases List.mem_append.mp inNext with inBack | final
        · exact none next inBack
        · obtain rfl := List.mem_singleton.mp final
          rwa [same]

/-! ## Streams without late items -/

/-- No item of the stream is late. -/
def AllOnTime (floor : ν) (items : List α) : Prop :=
  ∀ front item back, items = front ++ item :: back → ¬ Late version floor front item

/-- Versions that never go down are on time. -/
theorem allOnTime_of_ascending
    {floor : ν} {items : List α} (ascending : (items.map version).Pairwise (· ≤ ·))
    (above : ∀ item ∈ items, floor ≤ version item) : AllOnTime version floor items := by
  rintro front item back rfl (below | ⟨earlier, member, below⟩)
  · exact absurd below (not_lt.mpr (above item (by simp)))
  · rw [List.map_append, List.pairwise_append] at ascending
    have := ascending.2.2 (version earlier) (List.mem_map_of_mem member) (version item) (by simp)
    exact absurd below (not_lt.mpr this)

/-- Then the last item about a key is the last one that is not late. -/
theorem isLastOnTime_iff_of_allOnTime
    {floor : ν} {items : List α} (onTime : AllOnTime version floor items) (item : α) :
    IsLastOnTime version key floor items item ↔ IsLast key items item := by
  constructor
  · rintro ⟨front, back, rfl, -, later⟩
    refine ⟨front, back, rfl, fun other member same => ?_⟩
    obtain ⟨before, after, rfl⟩ := List.append_of_mem member
    exact onTime (front ++ item :: before) other after (by simp)
      (later before other after rfl same)
  · rintro ⟨front, back, rfl, none⟩
    refine ⟨front, back, rfl, onTime front item back rfl, ?_⟩
    rintro before other after rfl same
    exact absurd same (none other (by simp))

/-- Then all items about a key are late only if there are none. -/
theorem allLate_iff_of_allOnTime
    {floor : ν} {items : List α} (onTime : AllOnTime version floor items) (wanted : κ) :
    AllLate version key floor items wanted ↔ ∀ item ∈ items, key item ≠ wanted := by
  constructor
  · intro late item member same
    obtain ⟨front, back, split⟩ := List.append_of_mem member
    exact onTime front item back split (late front item back split same)
  · intro none front item back split same
    exact absurd same (none item (by simp [split]))

end Stream

/-! ## A map that is kept up to date -/

section Map

variable {α β κ ν : Type} [LinearOrder ν] [DecidableEq κ]
variable (version : α → ν) (key : α → κ) (leaves : α → β)

/-- A map to which the items of a stream are applied in turn. -/
def apply (start : κ → β) (items : List α) : κ → β :=
  items.foldl (fun map item => Function.update map (key item) (leaves item)) start

@[simp] theorem apply_append (start : κ → β) (front back : List α) :
    apply key leaves start (front ++ back) =
      apply key leaves (apply key leaves start front) back :=
  List.foldl_append

@[simp] theorem apply_singleton (start : κ → β) (item : α) :
    apply key leaves start [item] = Function.update start (key item) (leaves item) := rfl

/-- A key that the stream is not about keeps its value. -/
theorem apply_of_forall_ne
    {start : κ → β} {items : List α} {wanted : κ} (none : ∀ item ∈ items, key item ≠ wanted) :
    apply key leaves start items wanted = start wanted := by
  induction items using List.reverseRecOn with
  | nil => rfl
  | append_singleton front last ih =>
      rw [apply_append, apply_singleton, Function.update_of_ne (Ne.symm (none last (by simp)))]
      exact ih fun item member => none item (by simp [member])

/-- A key ends with the value of its last item. -/
theorem apply_of_isLast
    {start : κ → β} {items : List α} {item : α} (last : IsLast key items item) :
    apply key leaves start items (key item) = leaves item := by
  obtain ⟨front, back, rfl, none⟩ := last
  have shown : front ++ item :: back = (front ++ [item]) ++ back := by simp
  rw [shown, apply_append, apply_of_forall_ne key leaves none, apply_append, apply_singleton,
    Function.update_self]

/-- A key depends on the value that it starts with only. -/
theorem apply_congr
    {start other : κ → β} {wanted : κ} (same : start wanted = other wanted) (items : List α) :
    apply key leaves start items wanted = apply key leaves other items wanted := by
  by_cases about : ∃ item ∈ items, key item = wanted
  · obtain ⟨item, member, rfl⟩ := about
    obtain ⟨last, equal, isLast⟩ := exists_isLast key member
    rw [← equal, apply_of_isLast key leaves isLast, apply_of_isLast key leaves isLast]
  · have none : ∀ item ∈ items, key item ≠ wanted := fun item member equal =>
      about ⟨item, member, equal⟩
    rw [apply_of_forall_ne key leaves none, apply_of_forall_ne key leaves none, same]

/-- A key that a stream is about does not depend on the start. -/
theorem apply_eq_of_mem
    {items : List α} {item : α} (member : item ∈ items) (start other : κ → β) :
    apply key leaves start items (key item) = apply key leaves other items (key item) := by
  obtain ⟨last, equal, isLast⟩ := exists_isLast key member
  rw [← equal, apply_of_isLast key leaves isLast, apply_of_isLast key leaves isLast]

/-- What a reader that drops late items has under a key. -/
theorem apply_passed_eq_iff
    (start : κ → β) (floor : ν) (items : List α) (wanted : κ) (value : β) :
    apply key leaves start (passed version floor items) wanted = value ↔
      (∃ item, key item = wanted ∧ IsLastOnTime version key floor items item ∧
        leaves item = value) ∨
      (AllLate version key floor items wanted ∧ start wanted = value) := by
  constructor
  · intro same
    rcases allLate_or_isLastOnTime version key floor items wanted with
      late | ⟨item, rfl, last⟩
    · rw [apply_of_forall_ne key leaves (not_mem_passed_of_allLate version key late)] at same
      exact .inr ⟨late, same⟩
    · rw [apply_of_isLast key leaves (isLast_passed version key last)] at same
      exact .inl ⟨item, rfl, last, same⟩
  · rintro (⟨item, rfl, last, same⟩ | ⟨late, same⟩)
    · rwa [apply_of_isLast key leaves (isLast_passed version key last)]
    · rwa [apply_of_forall_ne key leaves (not_mem_passed_of_allLate version key late)]

end Map

end RunningMax
end K1s
