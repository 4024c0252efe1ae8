import Mathlib.Data.List.Basic

/-!
# First matches and longest prefixes

Two ways to find a part of a list that is given by a test of what follows: the first
place where an attempt succeeds, and the longest prefix of allowed items behind which the
rest is accepted.  Each is characterized by the splits of the list.
-/

namespace K1s
namespace Matching

variable {α β : Type*}

/-- The first success of an attempt, from left to right. -/
def firstMatch (attempt : List α → Option β) : List α → Option β
  | [] => attempt []
  | item :: rest => (attempt (item :: rest)).or (firstMatch attempt rest)

def MatchesAfter (attempt : List α → Option β) (text front : List α) (found : β) : Prop :=
  ∃ back, text = front ++ back ∧ attempt back = some found

/-- The attempt succeeds behind a front, and behind no shorter one. -/
structure IsFirst
    (attempt : List α → Option β) (text front : List α)
    (found : β) : Prop where
  succeeds : MatchesAfter attempt text front found
  least : ∀ other otherFound, MatchesAfter attempt text other otherFound →
    front.length ≤ other.length

variable {text : List α} {attempt : List α → Option β}

theorem matchesAfter_nil {found : β} :
    MatchesAfter attempt text [] found ↔ attempt text = some found := by
  constructor
  · rintro ⟨back, rfl, succeeds⟩
    exact succeeds
  · intro succeeds
    exact ⟨text, rfl, succeeds⟩

variable {front : List α}

theorem matchesAfter_cons {item first : α} {rest front : List α} {found : β} :
    MatchesAfter attempt (item :: rest) (first :: front) found ↔
      item = first ∧ MatchesAfter attempt rest front found := by
  constructor
  · rintro ⟨back, same, succeeds⟩
    obtain ⟨rfl, rfl⟩ := List.cons.inj same
    exact ⟨rfl, back, rfl, succeeds⟩
  · rintro ⟨rfl, back, rfl, succeeds⟩
    exact ⟨back, rfl, succeeds⟩

variable {found : β}

/-- The first match is behind the shortest front. -/
theorem exists_isFirst (matched : firstMatch attempt text = some found) :
    ∃ front, IsFirst attempt text front found := by
  induction text with
  | nil =>
      exact ⟨[], matchesAfter_nil.mpr matched, fun _ _ _ => Nat.zero_le _⟩
  | cons item rest ih =>
      unfold firstMatch at matched
      cases here : attempt (item :: rest) with
      | some first =>
          rw [here, Option.some_or] at matched
          exact ⟨[], matchesAfter_nil.mpr (here.trans matched), fun _ _ _ => Nat.zero_le _⟩
      | none =>
          rw [here, Option.none_or] at matched
          obtain ⟨front, succeeds, least⟩ := ih matched
          refine ⟨item :: front, matchesAfter_cons.mpr ⟨rfl, succeeds⟩, ?_⟩
          intro other otherFound otherSucceeds
          cases other with
          | nil =>
              rw [matchesAfter_nil, here] at otherSucceeds
              cases otherSucceeds
          | cons first others =>
              exact Nat.succ_le_succ
                (least others otherFound (matchesAfter_cons.mp otherSucceeds).2)

/-- Where the attempt succeeds anywhere there is a first match. -/
theorem exists_firstMatch (succeeds : MatchesAfter attempt text front found) :
    ∃ first, firstMatch attempt text = some first := by
  induction text generalizing front with
  | nil =>
      obtain ⟨back, same, succeeds⟩ := succeeds
      obtain ⟨rfl, rfl⟩ := List.append_eq_nil_iff.mp same.symm
      exact ⟨found, succeeds⟩
  | cons item rest ih =>
      unfold firstMatch
      cases here : attempt (item :: rest) with
      | some first => exact ⟨first, rfl⟩
      | none =>
          rw [Option.none_or]
          cases front with
          | nil =>
              rw [matchesAfter_nil, here] at succeeds
              cases succeeds
          | cons first others => exact ih (matchesAfter_cons.mp succeeds).2

/-- Two first matches are one. -/
theorem IsFirst.unique
    {text front other : List α} {found otherFound : β} (first : IsFirst attempt text front found)
    (second : IsFirst attempt text other otherFound) : front = other ∧ found = otherFound := by
  have length : front.length = other.length :=
    Nat.le_antisymm (first.least _ _ second.succeeds) (second.least _ _ first.succeeds)
  obtain ⟨back, split, succeeds⟩ := first.succeeds
  obtain ⟨otherBack, otherSplit, otherSucceeds⟩ := second.succeeds
  obtain ⟨rfl, rfl⟩ := List.append_inj (split.symm.trans otherSplit) length
  exact ⟨rfl, Option.some.inj (succeeds.symm.trans otherSucceeds)⟩

/-- The first match is what succeeds behind the shortest front. -/
theorem firstMatch_eq_some_iff {found : β} :
    firstMatch attempt text = some found ↔ ∃ front, IsFirst attempt text front found := by
  constructor
  · exact exists_isFirst
  · rintro ⟨front, first⟩
    obtain ⟨other, matched⟩ := exists_firstMatch first.succeeds
    obtain ⟨otherFront, isFirst⟩ := exists_isFirst matched
    rw [matched, (isFirst.unique first).2]

/-! ## The longest prefix -/

/-- The longest prefix of allowed items, not empty, behind which the rest is accepted. -/
def longestPrefix (allowed : α → Bool) (accepts : List α → Bool) : List α → Option (List α)
  | [] => none
  | item :: rest =>
      if allowed item then
        match longestPrefix allowed accepts rest with
        | some front => some (item :: front)
        | none => if accepts rest then some [item] else none
      else none

/-- A prefix of allowed items, not empty, with a rest that is accepted. -/
structure IsPrefix
    (allowed : α → Bool) (accepts : List α → Bool)
    (text front : List α) : Prop where
  nonempty : front ≠ []
  allowed : ∀ item ∈ front, allowed item = true
  rest : ∃ back, text = front ++ back ∧ accepts back = true

variable {accepts : List α → Bool} {allowed : α → Bool}

theorem isPrefix_of_longestPrefix
    (longest : longestPrefix allowed accepts text = some front) :
    IsPrefix allowed accepts text front := by
  induction text generalizing front with
  | nil => cases longest
  | cons item rest ih =>
      unfold longestPrefix at longest
      split at longest
      · next isAllowed =>
          split at longest
          · next inner found =>
              obtain rfl := Option.some.inj longest
              obtain ⟨nonempty, allAllowed, back, rfl, accepted⟩ := ih found
              exact ⟨List.cons_ne_nil _ _, List.forall_mem_cons.mpr ⟨isAllowed, allAllowed⟩,
                back, rfl, accepted⟩
          · split at longest
            · next accepted =>
                obtain rfl := Option.some.inj longest
                exact ⟨List.cons_ne_nil _ _, by simpa using isAllowed, rest, rfl, accepted⟩
            · cases longest
      · cases longest

/-- Where there is a prefix there is a longest one, which is no shorter. -/
theorem exists_longestPrefix (isPrefix : IsPrefix allowed accepts text front) :
    ∃ longest, longestPrefix allowed accepts text = some longest := by
  obtain ⟨nonempty, allAllowed, back, rfl, accepted⟩ := isPrefix
  induction front with
  | nil => exact absurd rfl nonempty
  | cons item rest ih =>
      obtain ⟨isAllowed, restAllowed⟩ := List.forall_mem_cons.mp allAllowed
      rw [List.cons_append, longestPrefix, if_pos isAllowed]
      cases inner : longestPrefix allowed accepts (rest ++ back) with
      | some found => exact ⟨_, rfl⟩
      | none =>
          cases rest with
          | nil => exact ⟨_, if_pos accepted⟩
          | cons next others =>
              obtain ⟨found, isFound⟩ := ih (List.cons_ne_nil _ _) restAllowed
              rw [isFound] at inner
              cases inner

end Matching
end K1s
