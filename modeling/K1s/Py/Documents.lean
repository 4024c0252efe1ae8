import K1s.Py.Json

/-!
# Documents of any depth

Induction over a JSON document, and the documents in which no dictionary has a key twice,
which are those that a parser returns.
-/

namespace K1s
namespace Py

namespace Json

/-- Induction over a document, through the items of its lists and the values of its
dictionaries. -/
theorem documentInduction
    {motive : Json → Prop} (leaf : ∀ value, value.hashable = true → motive value)
    (list : ∀ items, (∀ item ∈ items, motive item) → motive (.list items))
    (dict : ∀ entries, (∀ entry ∈ entries, motive entry.2) → motive (.dict entries)) :
    ∀ value, motive value
  | .null => leaf _ rfl
  | .bool _ => leaf _ rfl
  | .int _ => leaf _ rfl
  | .float _ => leaf _ rfl
  | .str _ => leaf _ rfl
  | .list items => list items fun item isItem =>
      have : sizeOf item < sizeOf items := List.sizeOf_lt_of_mem isItem
      documentInduction leaf list dict item
  | .dict entries => dict entries fun entry isEntry =>
      have inside : sizeOf entry < sizeOf entries := List.sizeOf_lt_of_mem isEntry
      have : sizeOf entry.2 < sizeOf entry := by
        obtain ⟨key, value⟩ := entry
        simp only [Prod.mk.sizeOf_spec]
        omega
      documentInduction leaf list dict entry.2
termination_by value => sizeOf value

/-- No dictionary of the document has a key twice. -/
inductive Distinct : Json → Prop
  | leaf {value : Json} (isLeaf : value.hashable = true) : Distinct value
  | list {items : List Json} (inside : ∀ item ∈ items, Distinct item) :
      Distinct (.list items)
  | dict {entries : Dict}
      (keys : (entries.map Prod.fst).Nodup)
      (inside : ∀ entry ∈ entries, Distinct entry.2) : Distinct (.dict entries)

theorem Distinct.items {items : List Json} (distinct : Distinct (.list items)) :
    ∀ item ∈ items, item.Distinct := by
  cases distinct with
  | leaf isLeaf => simp [hashable] at isLeaf
  | list inside => exact inside

theorem Distinct.keys {entries : Dict} (distinct : Distinct (.dict entries)) :
    (entries.map Prod.fst).Nodup := by
  cases distinct with
  | leaf isLeaf => simp [hashable] at isLeaf
  | dict keys inside => exact keys

theorem Distinct.values {entries : Dict} (distinct : Distinct (.dict entries)) :
    ∀ entry ∈ entries, entry.2.Distinct := by
  cases distinct with
  | leaf isLeaf => simp [hashable] at isLeaf
  | dict keys inside => exact inside

end Json

/-- A JSON object, in which no dictionary has a key twice. -/
structure JsonObject where
  entries : Dict
  distinct : (Json.dict entries).Distinct

/-- The object without entries. -/
def JsonObject.empty : JsonObject :=
  ⟨[], .dict List.nodup_nil fun _ isEntry => absurd isEntry List.not_mem_nil⟩

namespace Dict

theorem find?_set (entries : Dict) (key other : String) (value : Json) :
    find? (set entries key value) other =
      if other = key then some value else find? entries other := by
  by_cases same : other = key
  · subst same
    simp
  · rw [if_neg same, find?_set_of_ne entries value same]

theorem find?_setdefault (entries : Dict) (key other : String) (value : Json) :
    find? (setdefault entries key value) other =
      if other = key then some ((find? entries key).getD value) else find? entries other := by
  unfold setdefault has
  cases present : find? entries key with
  | none => simp [find?_set]
  | some found =>
      by_cases same : other = key
      · simp [same, present]
      · simp [same]

theorem find?_setdefault_of_ne
    (entries : Dict) {key other : String} (value : Json) (different : other ≠ key) :
    find? (setdefault entries key value) other = find? entries other := by
  rw [find?_setdefault, if_neg different]

/-- A key is found where it is an entry, and only one value is under a key that
occurs once. -/
theorem find?_eq_some_iff
    {entries : Dict} (unique : (entries.map Prod.fst).Nodup) (key : String)
    (value : Json) : find? entries key = some value ↔ (key, value) ∈ entries := by
  induction entries with
  | nil => simp
  | cons entry rest ih =>
      obtain ⟨present, old⟩ := entry
      obtain ⟨absent, later⟩ := List.nodup_cons.mp unique
      rw [find?_cons, List.mem_cons, Prod.mk.injEq]
      by_cases same : key = present
      · subst same
        have missing : (key, value) ∉ rest := fun member =>
          absent (List.mem_map.mpr ⟨_, member, rfl⟩)
        simp [missing, eq_comm]
      · simp [same, ih later]

theorem find?_isSome_iff (entries : Dict) (key : String) :
    (find? entries key).isSome = true ↔ key ∈ entries.map Prod.fst := by
  induction entries with
  | nil => simp
  | cons entry rest ih =>
      obtain ⟨present, old⟩ := entry
      rw [find?_cons, List.map_cons, List.mem_cons]
      by_cases same : key = present
      · simp [same]
      · simp [same, ih]

theorem find?_eq_none_iff (entries : Dict) (key : String) :
    find? entries key = none ↔ key ∉ entries.map Prod.fst := by
  rw [← find?_isSome_iff]
  simp

/-- Reading a key after another one was dropped. -/
theorem find?_drop (entries : Dict) (key other : String) :
    find? (drop entries key) other = if other = key then none else find? entries other := by
  induction entries with
  | nil => simp [drop]
  | cons entry rest ih =>
      obtain ⟨present, old⟩ := entry
      have later : find? (rest.filter fun entry => entry.1 ≠ key) other =
          if other = key then none else find? rest other := ih
      rw [drop, List.filter_cons, find?_cons]
      by_cases dropped : present = key
      · rw [if_neg (by simpa using dropped), later]
        by_cases same : other = key
        · rw [if_pos same, if_pos same]
        · rw [if_neg same, if_neg same, if_neg (dropped ▸ same)]
      · rw [if_pos (by simpa using dropped), find?_cons, later]
        by_cases same : other = present
        · rw [if_pos same, if_pos same, if_neg (same ▸ dropped)]
        · rw [if_neg same, if_neg same]

theorem mem_of_find?
    {entries : Dict} {key : String} {value : Json}
    (found : find? entries key = some value) : (key, value) ∈ entries := by
  induction entries with
  | nil => simp at found
  | cons entry rest ih =>
      obtain ⟨present, old⟩ := entry
      rw [find?_cons] at found
      by_cases same : key = present
      · rw [if_pos same] at found
        rw [same, ← Option.some.inj found]
        exact List.mem_cons_self
      · rw [if_neg same] at found
        exact List.mem_cons_of_mem _ (ih found)

/-- Setting a key to the value that it has changes nothing. -/
theorem set_of_find?
    {entries : Dict} {key : String} {value : Json}
    (found : find? entries key = some value) : set entries key value = entries := by
  induction entries with
  | nil => simp at found
  | cons entry rest ih =>
      obtain ⟨present, old⟩ := entry
      rw [find?_cons] at found
      by_cases same : key = present
      · rw [if_pos same] at found
        rw [set, if_pos same.symm, ← Option.some.inj found]
      · rw [if_neg same] at found
        rw [set, if_neg (Ne.symm same), ih found]

end Dict

end Py
end K1s
