import Mathlib.Data.List.Basic
import Mathlib.Tactic.Common

/-!
# Lists of results that may fail

What `List.mapM` collects when no element fails.
-/

namespace K1s

section Collected

variable {α β : Type}

variable {items : List α} {results : List β} {found : α → Option β}

/-- The results of an action on all elements of a list. -/
theorem mem_of_mapM (all : items.mapM found = some results) (value : β) :
    value ∈ results ↔ ∃ item ∈ items, found item = some value := by
  induction items generalizing results with
  | nil =>
      simp only [List.mapM_nil, Option.pure_def, Option.some.injEq] at all
      simp [← all]
  | cons item rest ih =>
      simp only [List.mapM_cons, Option.bind_eq_bind, Option.pure_def,
        Option.bind_eq_some_iff, Option.some.injEq] at all
      obtain ⟨first, foundFirst, others, foundOthers, rfl⟩ := all
      simp [ih foundOthers, foundFirst, eq_comm]

/-- The same where each result is a list. -/
theorem mem_flatten_of_mapM
    {found : α → Option (List β)} {results : List (List β)}
    (all : items.mapM found = some results) (value : β) :
    value ∈ results.flatten ↔
      ∃ item ∈ items, ∃ result, found item = some result ∧ value ∈ result := by
  simp only [List.mem_flatten, mem_of_mapM all]
  constructor
  · rintro ⟨result, ⟨item, member, same⟩, there⟩
    exact ⟨item, member, result, same, there⟩
  · rintro ⟨item, member, result, same, there⟩
    exact ⟨result, ⟨item, member, same⟩, there⟩

/-- An action on all elements fails exactly when it fails on one. -/
theorem isSome_mapM (found : α → Option β) (items : List α) :
    (items.mapM found).isSome ↔ ∀ item ∈ items, (found item).isSome := by
  induction items with
  | nil => simp
  | cons item rest ih =>
      rw [List.mapM_cons, List.forall_mem_cons, ← ih]
      cases found item with
      | none => simp
      | some first => cases rest.mapM found <;> simp

/-- The results of an action that is a function where it does not fail. -/
theorem eq_map_of_mapM
    {plain : α → β} (agrees : ∀ item result, found item = some result → plain item = result)
    (all : items.mapM found = some results) : results = items.map plain := by
  induction items generalizing results with
  | nil =>
      simp only [List.mapM_nil, Option.pure_def, Option.some.injEq] at all
      exact all.symm
  | cons item rest ih =>
      simp only [List.mapM_cons, Option.bind_eq_bind, Option.pure_def,
        Option.bind_eq_some_iff, Option.some.injEq] at all
      obtain ⟨first, foundFirst, others, foundOthers, rfl⟩ := all
      rw [List.map_cons, agrees item first foundFirst, ih foundOthers]

/-- A second action that yields an image of what the first one yields. -/
theorem mapM_eq_some_map
    {γ : Type} {other : α → Option γ} {image : β → γ}
    (agrees : ∀ item result, found item = some result → other item = some (image result))
    (all : items.mapM found = some results) :
    items.mapM other = some (results.map image) := by
  induction items generalizing results with
  | nil =>
      rw [List.mapM_nil] at all ⊢
      rw [← Option.some.inj all, List.map_nil]
      rfl
  | cons item rest ih =>
      rw [List.mapM_cons] at all ⊢
      obtain ⟨first, foundFirst, remaining⟩ := Option.bind_eq_some_iff.mp all
      obtain ⟨others, foundOthers, joined⟩ := Option.bind_eq_some_iff.mp remaining
      rw [agrees item first foundFirst, ih foundOthers,
        ← Option.some.inj joined, List.map_cons]
      rfl

end Collected

end K1s
