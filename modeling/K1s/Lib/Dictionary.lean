import Mathlib

/-!
# Dictionaries in insertion order

A finite map that remembers in which order its keys were first set, as Python's
`dict` does.  Setting a present key keeps its place; a removed key that is set
again goes to the end.
-/

namespace K1s

/-- A list of entries in which no key occurs twice. -/
structure Dictionary (κ ν : Type*) where
  entries : List (κ × ν)
  distinct : (entries.map Prod.fst).Nodup
  deriving DecidableEq

namespace Dictionary

variable {κ ν : Type*} [DecidableEq κ]

/-! ## The entries -/

/-- The value of a key in a list of entries. -/
def lookupEntry : List (κ × ν) → κ → Option ν
  | [], _ => none
  | (present, value) :: rest, key =>
      if present = key then some value else lookupEntry rest key

/-- Set a key: a present entry keeps its place. -/
def setEntry : List (κ × ν) → κ → ν → List (κ × ν)
  | [], key, value => [(key, value)]
  | (present, old) :: rest, key, value =>
      if present = key then (present, value) :: rest
      else (present, old) :: setEntry rest key value

theorem map_fst_setEntry (entries : List (κ × ν)) (key : κ) (value : ν) :
    (setEntry entries key value).map Prod.fst =
      if key ∈ entries.map Prod.fst then entries.map Prod.fst
      else entries.map Prod.fst ++ [key] := by
  induction entries with
  | nil => simp [setEntry]
  | cons entry rest ih =>
      obtain ⟨present, old⟩ := entry
      by_cases equal : present = key
      · simp [setEntry, equal]
      · have other : ¬ key = present := fun same => equal same.symm
        simp only [setEntry, equal, if_false, List.map_cons, ih,
          List.mem_cons, other, false_or]
        split <;> simp

theorem lookupEntry_setEntry (entries : List (κ × ν)) (key other : κ) (value : ν) :
    lookupEntry (setEntry entries key value) other =
      if key = other then some value else lookupEntry entries other := by
  induction entries with
  | nil => simp [setEntry, lookupEntry]
  | cons entry rest ih =>
      obtain ⟨present, old⟩ := entry
      by_cases equal : present = key
      · subst equal
        by_cases same : present = other <;> simp [setEntry, lookupEntry, same]
      · by_cases same : present = other
        · subst same
          simp [setEntry, lookupEntry, equal, Ne.symm equal]
        · simp [setEntry, lookupEntry, equal, same, ih]

theorem lookupEntry_filter_ne (entries : List (κ × ν)) (key other : κ) :
    lookupEntry (entries.filter fun entry => entry.1 ≠ key) other =
      if key = other then none else lookupEntry entries other := by
  induction entries with
  | nil => simp [lookupEntry]
  | cons entry rest ih =>
      obtain ⟨present, old⟩ := entry
      by_cases equal : present = key
      · subst equal
        simp only [ne_eq, not_true_eq_false, decide_false, Bool.false_eq_true,
          not_false_eq_true, List.filter_cons_of_neg, ih, lookupEntry]
        by_cases same : present = other <;> simp [same]
      · simp only [ne_eq, equal, not_false_eq_true, decide_true,
          List.filter_cons_of_pos, lookupEntry, ih]
        by_cases same : present = other
        · subst same
          simp [Ne.symm equal]
        · simp [same]

theorem lookupEntry_eq_some_iff
    {entries : List (κ × ν)} (distinct : (entries.map Prod.fst).Nodup) (key : κ)
    (value : ν) : lookupEntry entries key = some value ↔ (key, value) ∈ entries := by
  induction entries with
  | nil => simp [lookupEntry]
  | cons entry rest ih =>
      obtain ⟨present, old⟩ := entry
      simp only [List.map_cons, List.nodup_cons] at distinct
      by_cases equal : present = key
      · subst equal
        have absent : (present, value) ∉ rest := fun member =>
          distinct.1 (List.mem_map_of_mem (f := Prod.fst) member)
        simp [lookupEntry, absent, eq_comm]
      · simp [lookupEntry, equal, Ne.symm equal, ih distinct.2]

/-! ## Dictionaries -/

/-- The dictionary without entries. -/
def empty : Dictionary κ ν := ⟨[], List.nodup_nil⟩

/-- `d.get(key)`. -/
def find? (dictionary : Dictionary κ ν) (key : κ) : Option ν :=
  lookupEntry dictionary.entries key

/-- `d[key] = value`. -/
def set (dictionary : Dictionary κ ν) (key : κ) (value : ν) : Dictionary κ ν where
  entries := setEntry dictionary.entries key value
  distinct := by
    rw [map_fst_setEntry]
    split
    · exact dictionary.distinct
    · next absent =>
        rw [← List.concat_eq_append]
        exact List.Nodup.concat absent dictionary.distinct

/-- `d.pop(key, None)`, as the dictionary it leaves. -/
def drop (dictionary : Dictionary κ ν) (key : κ) : Dictionary κ ν where
  entries := dictionary.entries.filter fun entry => entry.1 ≠ key
  distinct := dictionary.distinct.sublist (List.filter_sublist.map Prod.fst)

/-- The entries whose keys pass a test. -/
def keep (dictionary : Dictionary κ ν) (test : κ → Bool) : Dictionary κ ν where
  entries := dictionary.entries.filter fun entry => test entry.1
  distinct := dictionary.distinct.sublist (List.filter_sublist.map Prod.fst)

/-- `{key: value for key, value in pairs}`: of equal keys the last counts. -/
def ofList (pairs : List (κ × ν)) : Dictionary κ ν :=
  pairs.foldl (fun dictionary pair => dictionary.set pair.1 pair.2) empty

/-- `{key: change(value) for key, value in d.items()}`. -/
def mapValues {μ : Type} (dictionary : Dictionary κ ν) (change : ν → μ) :
    Dictionary κ μ where
  entries := dictionary.entries.map fun entry => (entry.1, change entry.2)
  distinct := by simpa [Function.comp_def] using dictionary.distinct

@[simp] theorem find?_empty (key : κ) : (empty : Dictionary κ ν).find? key = none := rfl

@[simp] theorem find?_set (dictionary : Dictionary κ ν) (key other : κ) (value : ν) :
    (dictionary.set key value).find? other =
      if key = other then some value else dictionary.find? other :=
  lookupEntry_setEntry dictionary.entries key other value

@[simp] theorem find?_drop (dictionary : Dictionary κ ν) (key other : κ) :
    (dictionary.drop key).find? other =
      if key = other then none else dictionary.find? other :=
  lookupEntry_filter_ne dictionary.entries key other

@[simp] theorem find?_keep (dictionary : Dictionary κ ν) (test : κ → Bool) (key : κ) :
    (dictionary.keep test).find? key =
      if test key then dictionary.find? key else none := by
  obtain ⟨entries, distinct⟩ := dictionary
  simp only [keep, find?]
  clear distinct
  induction entries with
  | nil => simp [lookupEntry]
  | cons entry rest ih =>
      obtain ⟨present, value⟩ := entry
      by_cases same : present = key
      · subst same
        by_cases passes : test present <;> simp [passes, lookupEntry, ih]
      · by_cases passes : test present <;>
          simp [passes, same, lookupEntry, ih]

@[simp] theorem find?_mapValues
    {μ : Type} (dictionary : Dictionary κ ν) (change : ν → μ) (key : κ) :
    (dictionary.mapValues change).find? key = (dictionary.find? key).map change := by
  obtain ⟨entries, distinct⟩ := dictionary
  simp only [mapValues, find?]
  clear distinct
  induction entries with
  | nil => rfl
  | cons entry rest ih =>
      simp only [List.map_cons, lookupEntry, ih]
      split <;> rfl

theorem find?_eq_some_iff (dictionary : Dictionary κ ν) (key : κ) (value : ν) :
    dictionary.find? key = some value ↔ (key, value) ∈ dictionary.entries :=
  lookupEntry_eq_some_iff dictionary.distinct key value

theorem find?_eq_none_iff (dictionary : Dictionary κ ν) (key : κ) :
    dictionary.find? key = none ↔ key ∉ dictionary.entries.map Prod.fst := by
  constructor
  · intro absent member
    obtain ⟨⟨present, value⟩, listed, rfl⟩ := List.mem_map.mp member
    rw [(dictionary.find?_eq_some_iff present value).mpr listed] at absent
    cases absent
  · intro absent
    cases found : dictionary.find? key with
    | none => rfl
    | some value =>
        have listed := (dictionary.find?_eq_some_iff key value).mp found
        exact absurd (List.mem_map_of_mem (f := Prod.fst) listed) absent

/-- A dictionary made of the entries of a dictionary has the same values. -/
theorem find?_ofList_entries (dictionary : Dictionary κ ν) (key : κ) :
    (ofList dictionary.entries).find? key = dictionary.find? key := by
  have general : ∀ (entries : List (κ × ν)) (start : Dictionary κ ν),
      (entries.map Prod.fst).Nodup →
      (entries.foldl (fun dictionary pair => dictionary.set pair.1 pair.2)
        start).find? key = (lookupEntry entries key).or (start.find? key) := by
    intro entries
    induction entries with
    | nil => intro start _; rfl
    | cons entry rest ih =>
        intro start distinct
        obtain ⟨present, value⟩ := entry
        simp only [List.map_cons, List.nodup_cons] at distinct
        simp only [List.foldl_cons, ih _ distinct.2, find?_set, lookupEntry]
        by_cases same : present = key
        · subst same
          have absent : lookupEntry rest present = none :=
            ((⟨rest, distinct.2⟩ : Dictionary κ ν).find?_eq_none_iff present).mpr distinct.1
          simp [absent]
        · simp [same]
  rw [ofList, general dictionary.entries empty dictionary.distinct, find?_empty, Option.or_none]
  rfl

/-- A dictionary is empty when no key has a value. -/
theorem isEmpty_entries_iff (dictionary : Dictionary κ ν) :
    dictionary.entries.isEmpty = true ↔ ∀ key, dictionary.find? key = none := by
  simp only [find?_eq_none_iff, List.isEmpty_iff, List.mem_map, not_exists, not_and]
  constructor
  · intro none key entry member
    simp [none] at member
  · intro none
    exact List.eq_nil_iff_forall_not_mem.mpr fun entry member =>
      none entry.1 entry member rfl

theorem find?_foldl_drop (dictionary : Dictionary κ ν) (keys : List κ) (key : κ) :
    (keys.foldl (fun dictionary key => dictionary.drop key) dictionary).find? key =
      if key ∈ keys then none else dictionary.find? key := by
  induction keys generalizing dictionary with
  | nil => simp
  | cons first rest ih =>
      simp only [List.foldl_cons, ih, find?_drop, List.mem_cons]
      by_cases equal : key = first
      · simp [equal]
      · simp [equal, Ne.symm equal]

end Dictionary

end K1s
