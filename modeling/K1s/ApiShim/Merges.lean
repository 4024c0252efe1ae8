import K1s.ApiShim.Patches
import K1s.Lib.OptionLists
import K1s.Py.Documents

/-!
# What a merge does

`_merge_dict` goes through the keys of a patch, each of which it treats by itself, and
`_merge_list` through its items, each of which it merges into the item under its key or
adds.  This module says what they leave under each key, and when a merge leaves a document
as it is.
-/

namespace K1s
namespace ApiShim

open Py

/-! ## The last item under a key -/

variable {item : Json}

section Index

variable (key : Json)

theorem findLast_cons (entry : Json × Json) (rest : List (Json × Json)) :
    findLast key (entry :: rest) =
      (findLast key rest).or (if entry.1 = key then some entry.2 else none) := by
  unfold findLast
  rw [List.reverse_cons, List.find?_append]
  by_cases same : entry.1 = key <;>
    cases rest.reverse.find? fun entry => decide (entry.1 = key) <;> simp [same]

@[simp] theorem findLast_nil : findLast key [] = none := rfl

theorem findLast_append (first second : List (Json × Json)) :
    findLast key (first ++ second) = (findLast key second).or (findLast key first) := by
  induction first with
  | nil => simp
  | cons entry rest ih =>
      rw [List.cons_append, findLast_cons, ih, findLast_cons, Option.or_assoc]

theorem findLast_isSome_iff (entries : List (Json × Json)) :
    (findLast key entries).isSome ↔ key ∈ entries.map Prod.fst := by
  induction entries with
  | nil => simp
  | cons entry rest ih =>
      rw [findLast_cons, Option.isSome_or, Bool.or_eq_true, ih,
        List.map_cons, List.mem_cons, or_comm]
      by_cases same : entry.1 = key
      · simp [same]
      · simp [same, Ne.symm same]

theorem any_key_iff (entries : List (Json × Json)) :
    (entries.any fun other => decide (other.1 = key)) = (findLast key entries).isSome := by
  rw [Bool.eq_iff_iff, findLast_isSome_iff, List.any_eq_true]
  simp

theorem replaceLast_cons (item : Json) (entry : Json × Json) (rest : List (Json × Json)) :
    replaceLast key item (entry :: rest) =
      if (findLast key rest).isSome then entry :: replaceLast key item rest
      else if entry.1 = key then (key, item) :: rest
      else entry :: rest := by
  rw [replaceLast, any_key_iff]

theorem mem_of_findLast
    {key item : Json} {entries : List (Json × Json)}
    (found : findLast key entries = some item) : (key, item) ∈ entries := by
  induction entries with
  | nil => simp at found
  | cons entry rest ih =>
      rw [findLast_cons] at found
      cases later : findLast key rest with
      | some other =>
          rw [later, Option.some_or] at found
          exact List.mem_cons_of_mem _ (ih (later.trans found))
      | none =>
          rw [later, Option.none_or] at found
          by_cases same : entry.1 = key
          · rw [if_pos same] at found
            rw [← Option.some.inj found, ← same]
            exact List.mem_cons_self
          · rw [if_neg same] at found
            exact absurd found (by simp)

@[simp] theorem replaceLast_keys (item : Json) (entries : List (Json × Json)) :
    (replaceLast key item entries).map Prod.fst = entries.map Prod.fst := by
  induction entries with
  | nil => rfl
  | cons entry rest ih =>
      rw [replaceLast_cons]
      by_cases later : (findLast key rest).isSome
      · rw [if_pos later, List.map_cons, ih, List.map_cons]
      · rw [if_neg later]
        by_cases same : entry.1 = key
        · rw [if_pos same, List.map_cons, List.map_cons, same]
        · rw [if_neg same]

theorem findLast_replaceLast_of_ne
    {key other : Json} (different : other ≠ key) (item : Json) (entries : List (Json × Json)) :
    findLast other (replaceLast key item entries) = findLast other entries := by
  induction entries with
  | nil => rfl
  | cons entry rest ih =>
      rw [replaceLast_cons]
      by_cases later : (findLast key rest).isSome
      · rw [if_pos later, findLast_cons, ih, findLast_cons]
      · rw [if_neg later]
        by_cases same : entry.1 = key
        · rw [if_pos same, findLast_cons, findLast_cons, same, if_neg (Ne.symm different),
            if_neg (Ne.symm different)]
        · rw [if_neg same]

theorem findLast_replaceLast_self
    {key : Json} (item : Json) {entries : List (Json × Json)}
    (present : (findLast key entries).isSome) :
    findLast key (replaceLast key item entries) = some item := by
  induction entries with
  | nil => simp at present
  | cons entry rest ih =>
      rw [replaceLast_cons]
      by_cases later : (findLast key rest).isSome
      · rw [if_pos later, findLast_cons, ih later, Option.some_or]
      · rw [if_neg later]
        have none : findLast key rest = none := by simpa using later
        by_cases same : entry.1 = key
        · rw [if_pos same, findLast_cons, none, Option.none_or, if_pos rfl]
        · rw [findLast_cons, none, if_neg same] at present
          exact absurd present (by simp)

/-- Replacing an item by itself changes nothing. -/
theorem replaceLast_findLast
    {key item : Json} {entries : List (Json × Json)} (found : findLast key entries = some item) :
    replaceLast key item entries = entries := by
  induction entries with
  | nil => rfl
  | cons entry rest ih =>
      rw [replaceLast_cons]
      rw [findLast_cons] at found
      cases later : findLast key rest with
      | some other =>
          rw [later, Option.some_or] at found
          rw [Option.isSome_some, if_pos rfl, ih (later.trans found)]
      | none =>
          rw [later, Option.none_or] at found
          rw [Option.isSome_none, if_neg Bool.false_ne_true]
          by_cases same : entry.1 = key
          · rw [if_pos same] at found ⊢
            rw [← Option.some.inj found, ← same]
          · rw [if_neg same]

theorem mem_replaceLast
    {key item : Json} {entries : List (Json × Json)} {entry : Json × Json}
    (isEntry : entry ∈ replaceLast key item entries) :
    entry ∈ entries ∨ entry = (key, item) := by
  induction entries with
  | nil => exact absurd isEntry List.not_mem_nil
  | cons first rest ih =>
      rw [replaceLast_cons] at isEntry
      by_cases later : (findLast key rest).isSome
      · rw [if_pos later] at isEntry
        rcases List.mem_cons.mp isEntry with rfl | isLater
        · exact .inl List.mem_cons_self
        · exact (ih isLater).imp_left (List.mem_cons_of_mem _)
      · rw [if_neg later] at isEntry
        by_cases same : first.1 = key
        · rw [if_pos same] at isEntry
          rcases List.mem_cons.mp isEntry with rfl | isLater
          · exact .inr rfl
          · exact .inl (List.mem_cons_of_mem _ isLater)
        · rw [if_neg same] at isEntry
          exact .inl isEntry

end Index

/-! ## Keyed items -/

/-- The key under which an item is found again. -/
def itemKey : Json → Option Json
  | .dict entries =>
      let key := indexKey (listItemKey entries)
      if key.hashable = true ∧ key ≠ .null then some key else none
  | _ => none

/-- The item can be put into the index. -/
def indexable : Json → Bool
  | .dict entries => (indexKey (listItemKey entries)).hashable
  | _ => true

theorem itemKey_eq_some_iff (item key : Json) :
    itemKey item = some key ↔ ∃ entries, item = .dict entries ∧
      indexKey (listItemKey entries) = key ∧ key.hashable = true ∧ key ≠ .null := by
  cases item with
  | dict entries =>
      simp only [itemKey, Option.ite_none_right_eq_some, Option.some.injEq, Json.dict.injEq,
        exists_eq_left']
      constructor
      · rintro ⟨⟨hashable, present⟩, rfl⟩
        exact ⟨rfl, hashable, present⟩
      · rintro ⟨rfl, hashable, present⟩
        exact ⟨⟨hashable, present⟩, rfl⟩
  | _ => simp [itemKey]

theorem indexable_of_itemKey {item key : Json} (keyed : itemKey item = some key) :
    indexable item = true := by
  obtain ⟨entries, rfl, rfl, hashable, _⟩ := (itemKey_eq_some_iff item key).mp keyed
  exact hashable

def indexed (item : Json) : Json × Json :=
  ((itemKey item).getD .null, item)

theorem map_snd_indexed (items : List Json) : (items.map indexed).map Prod.snd = items := by
  rw [List.map_map]
  exact List.map_id items

theorem keyedItems_eq (items : List Json) :
    keyedItems items =
      items.mapM fun item => if indexable item then some (indexed item) else none := by
  unfold keyedItems
  congr 1
  funext item
  cases item with
  | dict entries =>
      have general (key : Json) : (if key.hashable then some (key, Json.dict entries) else none) =
          if key.hashable then
            some ((if key.hashable = true ∧ key ≠ .null then some key else none).getD .null,
              .dict entries)
          else none := by
        by_cases hashable : key.hashable = true
        · by_cases null : key = .null
          · rw [null]
            rfl
          · simp [hashable, null]
        · simp [hashable]
      exact general _
  | _ => rfl

theorem keyedItems_eq_some_iff (items : List Json) (entries : List (Json × Json)) :
    keyedItems items = some entries ↔
      (∀ item ∈ items, indexable item = true) ∧ entries = items.map indexed := by
  rw [keyedItems_eq]
  induction items generalizing entries with
  | nil =>
      rw [List.mapM_nil, List.map_nil]
      simp only [Option.pure_def, Option.some.injEq, List.not_mem_nil, false_implies,
        implies_true, true_and]
      exact eq_comm
  | cons item rest ih =>
      rw [List.mapM_cons, List.forall_mem_cons, List.map_cons]
      by_cases isIndexable : indexable item = true
      · rw [if_pos isIndexable]
        simp only [Option.bind_eq_bind, Option.bind_some, Option.bind_eq_some_iff,
          ih, Option.pure_def, Option.some.injEq]
        constructor
        · rintro ⟨others, ⟨all, rfl⟩, rfl⟩
          exact ⟨⟨isIndexable, all⟩, rfl⟩
        · rintro ⟨⟨_, all⟩, rfl⟩
          exact ⟨_, ⟨all, rfl⟩, rfl⟩
      · simp [isIndexable]

variable {items : List Json}

/-- An item that is found under a key other than `null` has that key. -/
theorem itemKey_of_findLast
    {key item : Json} (present : key ≠ .null)
    (found : findLast key (items.map indexed) = some item) :
    itemKey item = some key ∧ item ∈ items := by
  obtain ⟨other, isItem, same⟩ := List.mem_map.mp (mem_of_findLast found)
  have sameKey := congrArg Prod.fst same
  obtain rfl : other = item := congrArg Prod.snd same
  refine ⟨?_, isItem⟩
  cases known : itemKey other with
  | none =>
      rw [indexed, known] at sameKey
      exact absurd sameKey.symm present
  | some own =>
      rw [indexed, known, Option.getD_some] at sameKey
      exact congrArg some sameKey

/-! ## The keys of a patch -/

theorem mergeDict_cons (base : Dict) (key : String) (value : Json) (rest : Dict) :
    mergeDict base ((key, value) :: rest) =
      (mergeValue (Dict.get base key) value).bind fun merged =>
        mergeDict (Dict.set base key merged) rest := by
  rw [mergeDict]

variable {value : Json}

/-- A leaf takes the place of what is there. -/
theorem mergeValue_leaf (old : Json) (leaf : value.hashable = true) :
    mergeValue old value = some value := by
  cases value with
  | list items => simp [Json.hashable] at leaf
  | dict entries => simp [Json.hashable] at leaf
  | _ => simp [mergeValue]

variable {base out patch : Dict}

/-- Keys that are not in the patch keep their values. -/
theorem find?_mergeDict_of_not_mem
    (merged : mergeDict base patch = some out) {key : String}
    (absent : key ∉ patch.map Prod.fst) : Dict.find? out key = Dict.find? base key := by
  induction patch generalizing base with
  | nil =>
      rw [mergeDict] at merged
      rw [Option.some.inj merged]
  | cons entry rest ih =>
      obtain ⟨present, value⟩ := entry
      rw [mergeDict_cons] at merged
      obtain ⟨new, _, later⟩ := Option.bind_eq_some_iff.mp merged
      rw [List.map_cons, List.mem_cons, not_or] at absent
      rw [ih later absent.2, Dict.find?_set_of_ne base new absent.1]

theorem find?_mergeDict_of_mem
    (keys : (patch.map Prod.fst).Nodup) (merged : mergeDict base patch = some out)
    {key : String} (isEntry : (key, value) ∈ patch) :
    ∃ new, mergeValue (Dict.get base key) value = some new ∧ Dict.find? out key = some new := by
  induction patch generalizing base with
  | nil => exact absurd isEntry List.not_mem_nil
  | cons entry rest ih =>
      obtain ⟨present, first⟩ := entry
      rw [mergeDict_cons] at merged
      obtain ⟨new, isNew, later⟩ := Option.bind_eq_some_iff.mp merged
      rw [List.map_cons, List.nodup_cons] at keys
      rcases List.mem_cons.mp isEntry with same | isLater
      · obtain ⟨rfl, rfl⟩ := Prod.mk.inj same
        exact ⟨new, isNew, by
          rw [find?_mergeDict_of_not_mem later keys.1, Dict.find?_set_self]⟩
      · have different : key ≠ present := by
          rintro rfl
          exact keys.1 (List.mem_map.mpr ⟨_, isLater, rfl⟩)
        obtain ⟨other, isOther, found⟩ := ih keys.2 later isLater
        rw [Dict.get_set_of_ne base new different] at isOther
        exact ⟨other, isOther, found⟩

/-- A patch leaves a document as it is if it leaves the value of each of its keys. -/
theorem mergeDict_fixed
    (fixed : ∀ key value, (key, value) ∈ patch →
      ∃ new, Dict.find? out key = some new ∧ mergeValue new value = some new) :
    mergeDict out patch = some out := by
  induction patch with
  | nil => rw [mergeDict]
  | cons entry rest ih =>
      obtain ⟨key, value⟩ := entry
      obtain ⟨new, found, same⟩ := fixed key value List.mem_cons_self
      have current : Dict.get out key = new := by rw [Dict.get, found, Option.getD_some]
      rw [mergeDict_cons, current, same, Option.bind_some, Dict.set_of_find? found]
      exact ih fun key value isLater =>
        fixed key value (List.mem_cons_of_mem _ isLater)

/-! ## The items of a patch -/

/-- The list begins with something that is no dictionary. -/
def startsPlain (items : List Json) : Bool :=
  items.head?.any fun item => !item.isDict

theorem mergeValue_list_list (base items : List Json) :
    mergeValue (.list base) (.list items) =
      if startsPlain items || startsPlain base then some (.list items)
      else (keyedItems base).bind fun seeded =>
        (mergeItems seeded items).map fun (seeded, added) =>
          .list (seeded.map Prod.snd ++ added) := by
  rw [mergeValue]
  rfl

variable {old : Json}

/-- A list takes the place of what is no list. -/
theorem mergeValue_list_of_not_list
    (notList : ∀ base, old ≠ .list base) (items : List Json) :
    mergeValue old (.list items) = some (.list items) := by
  cases old with
  | list base => exact absurd rfl (notList base)
  | _ => rw [mergeValue]; simp

theorem mergeValue_dict_dict (base entries : Dict) :
    mergeValue (.dict base) (.dict entries) = (mergeDict base entries).map .dict := by
  rw [mergeValue]

/-- A dictionary takes the place of what is no dictionary. -/
theorem mergeValue_dict_of_not_dict (notDict : ∀ base, old ≠ .dict base) (entries : Dict) :
    mergeValue old (.dict entries) = some (.dict entries) := by
  cases old with
  | dict base => exact absurd rfl (notDict base)
  | _ => rw [mergeValue]; simp

variable {entries : Dict}

/-- An item with a key is merged into the last item under it, or added. -/
theorem mergeItems_keyed
    {key : Json} (keyed : itemKey (.dict entries) = some key) (seeded : List (Json × Json))
    (rest : List Json) :
    mergeItems seeded (.dict entries :: rest) =
      match findLast key seeded with
      | none => (mergeItems seeded rest).map fun (seeded, added) =>
          (seeded, .dict entries :: added)
      | some old => (mergeDict old.entries entries).bind fun merged =>
          mergeItems (replaceLast key (.dict merged) seeded) rest := by
  obtain ⟨own, same, sameKey, hashable, present⟩ := (itemKey_eq_some_iff _ _).mp keyed
  obtain rfl := Json.dict.inj same
  rw [mergeItems]
  simp only [sameKey, hashable, Bool.not_true, Bool.false_eq_true, if_false]
  cases key with
  | null => exact absurd rfl present
  | _ => cases findLast _ seeded <;> rfl

variable {seeded : List (Json × Json)} {added : List Json}

/-- An item without a key is added. -/
theorem mergeItems_unkeyed
    (unkeyed : itemKey item = none) {seeded seeded' : List (Json × Json)} {rest added : List Json}
    (merged : mergeItems seeded (item :: rest) = some (seeded', added)) :
    ∃ later, mergeItems seeded rest = some (seeded', later) ∧ added = item :: later := by
  cases item with
  | dict entries =>
      rw [mergeItems] at merged
      simp only [itemKey] at unkeyed
      generalize indexKey (listItemKey entries) = key at merged unkeyed
      by_cases hashable : key.hashable = true
      · have null : key = .null := by simpa [hashable] using unkeyed
        subst null
        simp only [Json.hashable, Bool.not_true, Bool.false_eq_true, if_false,
          Option.map_eq_some_iff, Prod.mk.injEq] at merged
        obtain ⟨⟨same, later⟩, isLater, rfl, rfl⟩ := merged
        exact ⟨later, isLater, rfl⟩
      · simp [hashable] at merged
  | _ =>
      rw [mergeItems] at merged
      · simp only [Option.map_eq_some_iff, Prod.mk.injEq] at merged
        obtain ⟨⟨same, later⟩, isLater, rfl, rfl⟩ := merged
        exact ⟨later, isLater, rfl⟩
      · simp

/-- Items that leave what is under their keys leave the whole list. -/
theorem mergeItems_fixed
    (fixed : ∀ item ∈ items, ∃ key new, itemKey item = some key ∧
      findLast key seeded = some (.dict new) ∧ mergeDict new item.entries = some new) :
    mergeItems seeded items = some (seeded, []) := by
  induction items with
  | nil => rw [mergeItems]
  | cons item rest ih =>
      obtain ⟨key, new, keyed, found, same⟩ := fixed item List.mem_cons_self
      obtain ⟨entries, rfl, _⟩ := (itemKey_eq_some_iff item key).mp keyed
      rw [mergeItems_keyed keyed, found]
      change (mergeDict new entries).bind _ = _
      rw [show mergeDict new entries = some new from same, Option.bind_some,
        replaceLast_findLast found]
      exact ih fun item isLater => fixed item (List.mem_cons_of_mem _ isLater)

/-- What is left of the old items, and which items are added to them. -/
structure ItemsMerged
    (seeded : List (Json × Json)) (items : List Json) (after : List (Json × Json))
    (added : List Json) : Prop where
  keys : after.map Prod.fst = seeded.map Prod.fst
  others : ∀ key, (∀ item ∈ items, itemKey item ≠ some key) →
    findLast key after = findLast key seeded
  found : ∀ item ∈ items, ∀ key, itemKey item = some key → ∀ old, findLast key seeded = some old →
      ∃ new, mergeDict old.entries item.entries = some new ∧ findLast key after = some (.dict new)
  added : added = items.filter fun item =>
    (itemKey item).all fun key => (findLast key seeded).isNone
  inside : ∀ entry ∈ after, entry ∈ seeded ∨
    ∃ item ∈ items, ∃ old new, itemKey item = some entry.1 ∧ findLast entry.1 seeded = some old ∧
      mergeDict old.entries item.entries = some new ∧ entry.2 = .dict new
  plain : startsPlain (after.map Prod.snd) = true → startsPlain (seeded.map Prod.snd) = true

/-- A list does not begin with something else because a dictionary is put into it. -/
theorem startsPlain_replaceLast
    {key : Json}
    (plain : startsPlain ((replaceLast key (.dict entries) seeded).map Prod.snd) = true) :
    startsPlain (seeded.map Prod.snd) = true := by
  cases seeded with
  | nil => exact plain
  | cons entry rest =>
      rw [replaceLast_cons] at plain
      by_cases later : (findLast key rest).isSome
      · rw [if_pos later] at plain
        exact plain
      · rw [if_neg later] at plain
        by_cases same : entry.1 = key
        · rw [if_pos same] at plain
          simp [startsPlain, Json.isDict] at plain
        · rw [if_neg same] at plain
          exact plain

theorem itemsMerged
    {seeded after : List (Json × Json)} (once : (items.filterMap itemKey).Nodup)
    (merged : mergeItems seeded items = some (after, added)) :
    ItemsMerged seeded items after added := by
  induction items generalizing seeded after added with
  | nil =>
      rw [mergeItems, Option.some.injEq, Prod.mk.injEq] at merged
      obtain ⟨rfl, rfl⟩ := merged
      exact ⟨rfl, fun _ _ => rfl, by simp, rfl, fun _ isEntry => .inl isEntry, id⟩
  | cons item rest ih =>
      cases keyed : itemKey item with
      | none =>
          obtain ⟨later, isLater, rfl⟩ := mergeItems_unkeyed keyed merged
          rw [List.filterMap_cons_none keyed] at once
          have laterMerged := ih once isLater
          refine ⟨laterMerged.keys, fun key absent => ?_, ?_, ?_, fun entry isEntry => ?_,
            laterMerged.plain⟩
          · exact laterMerged.others key fun item isItem =>
              absent item (List.mem_cons_of_mem _ isItem)
          · intro other isOther key otherKeyed
            rcases List.mem_cons.mp isOther with rfl | isLater
            · rw [keyed] at otherKeyed
              exact absurd otherKeyed (by simp)
            · exact laterMerged.found other isLater key otherKeyed
          · rw [List.filter_cons_of_pos (by simp [keyed]), laterMerged.added]
          · exact (laterMerged.inside entry isEntry).imp_right fun ⟨item, isItem, rest⟩ =>
              ⟨item, List.mem_cons_of_mem _ isItem, rest⟩
      | some key =>
          rw [List.filterMap_cons_some keyed, List.nodup_cons] at once
          have different (other) (isOther : other ∈ rest) (otherKey)
              (otherKeyed : itemKey other = some otherKey) : otherKey ≠ key := by
            rintro rfl
            exact once.1 (List.mem_filterMap.mpr ⟨other, isOther, otherKeyed⟩)
          obtain ⟨entries, rfl, _⟩ := (itemKey_eq_some_iff item key).mp keyed
          rw [mergeItems_keyed keyed] at merged
          cases present : findLast key seeded with
          | none =>
              rw [present] at merged
              obtain ⟨⟨same, later⟩, isLater, pairs⟩ := Option.map_eq_some_iff.mp merged
              obtain ⟨rfl, rfl⟩ := Prod.mk.inj pairs
              have laterMerged := ih once.2 isLater
              refine ⟨laterMerged.keys, fun key absent => ?_, ?_, ?_, fun entry isEntry => ?_,
                laterMerged.plain⟩
              · exact laterMerged.others key fun item isItem =>
                  absent item (List.mem_cons_of_mem _ isItem)
              · intro other isOther otherKey otherKeyed old isOld
                rcases List.mem_cons.mp isOther with rfl | isLater
                · rw [keyed] at otherKeyed
                  rw [← Option.some.inj otherKeyed, present] at isOld
                  exact absurd isOld (by simp)
                · exact laterMerged.found other isLater otherKey otherKeyed old isOld
              · rw [List.filter_cons_of_pos (by simp [keyed, present]), laterMerged.added]
              · exact (laterMerged.inside entry isEntry).imp_right fun ⟨item, isItem, rest⟩ =>
                  ⟨item, List.mem_cons_of_mem _ isItem, rest⟩
          | some old =>
              rw [present] at merged
              obtain ⟨new, isNew, isLater⟩ := Option.bind_eq_some_iff.mp merged
              have laterMerged := ih once.2 isLater
              have isPresent : (findLast key seeded).isSome := by rw [present]; rfl
              have unchanged (otherKey) (isOther : otherKey ≠ key) :=
                findLast_replaceLast_of_ne isOther (.dict new) seeded
              refine ⟨?_, fun key absent => ?_, ?_, ?_, fun entry isEntry => ?_, fun plain =>
                startsPlain_replaceLast (laterMerged.plain plain)⟩
              · rw [laterMerged.keys, replaceLast_keys]
              · rw [laterMerged.others key fun item isItem =>
                  absent item (List.mem_cons_of_mem _ isItem)]
                apply unchanged
                rintro rfl
                exact absent _ List.mem_cons_self keyed
              · intro other isOther otherKey otherKeyed old' isOld
                rcases List.mem_cons.mp isOther with rfl | isLater'
                · rw [keyed] at otherKeyed
                  obtain rfl := Option.some.inj otherKeyed
                  rw [present] at isOld
                  obtain rfl := Option.some.inj isOld
                  refine ⟨new, isNew, ?_⟩
                  rw [laterMerged.others key fun item isItem itemKeyed =>
                    different item isItem key itemKeyed rfl,
                    findLast_replaceLast_self _ isPresent]
                · refine laterMerged.found other isLater' otherKey otherKeyed old' ?_
                  rw [unchanged otherKey (different other isLater' otherKey otherKeyed), isOld]
              · rw [List.filter_cons_of_neg (by simp [keyed, present]), laterMerged.added]
                apply List.filter_congr
                intro other isOther
                cases otherKeyed : itemKey other with
                | none => rfl
                | some otherKey =>
                    simp [unchanged otherKey (different other isOther otherKey otherKeyed)]
              · rcases laterMerged.inside entry isEntry with before | merged
                · rcases mem_replaceLast before with isSeeded | rfl
                  · exact .inl isSeeded
                  · exact .inr ⟨_, List.mem_cons_self, old, new, keyed, present, isNew, rfl⟩
                · obtain ⟨item, isItem, old', new', itemKeyed, isOld, rest⟩ := merged
                  rw [unchanged entry.1 (different item isItem entry.1 itemKeyed)] at isOld
                  exact .inr ⟨item, List.mem_cons_of_mem _ isItem, old', new', itemKeyed, isOld,
                    rest⟩

/-! ## Keys and values after a merge -/

/-- The first field that one of two dictionaries has is the first one that one of them has. -/
theorem find?_or
    {fields : List String} {first second : String → Bool} {field : String}
    (found : (fields.find? fun field => first field || second field) = some field) :
    (second field = true → fields.find? second = some field) ∧
      (second field = false → fields.find? first = some field) := by
  induction fields with
  | nil => simp at found
  | cons present rest ih =>
      rw [List.find?_cons] at found
      cases inFirst : first present <;> cases inSecond : second present <;>
        rw [inFirst, inSecond] at found
      · obtain ⟨ofSecond, ofFirst⟩ := ih found
        rw [List.find?_cons, List.find?_cons, inFirst, inSecond]
        exact ⟨ofSecond, ofFirst⟩
      all_goals
        obtain rfl := Option.some.inj found
        simp [inFirst, inSecond]

/-- Both documents have the keys of a merge. -/
theorem has_mergeDict
    (keys : (patch.map Prod.fst).Nodup) (merged : mergeDict base patch = some out)
    (key : String) : Dict.has out key = (Dict.has base key || Dict.has patch key) := by
  by_cases isKey : key ∈ patch.map Prod.fst
  · obtain ⟨⟨present, value⟩, isEntry, rfl⟩ := List.mem_map.mp isKey
    obtain ⟨new, _, found⟩ := find?_mergeDict_of_mem keys merged isEntry
    have there := (Dict.find?_isSome_iff patch present).mpr isKey
    simp [Dict.has, found, there]
  · have absent := (Dict.find?_eq_none_iff patch key).mpr isKey
    simp [Dict.has, find?_mergeDict_of_not_mem merged isKey, absent]

/-- An item keeps its key when one with the same key is merged into it. -/
theorem itemKey_mergeDict
    {old entries new : Dict} {key : Json} (oldKeyed : itemKey (.dict old) = some key)
    (keyed : itemKey (.dict entries) = some key) (keys : (entries.map Prod.fst).Nodup)
    (merged : mergeDict old entries = some new) : itemKey (.dict new) = some key := by
  obtain ⟨_, same, oldKey, hashable, present⟩ := (itemKey_eq_some_iff _ _).mp oldKeyed
  obtain rfl := Json.dict.inj same
  obtain ⟨_, same, newKey, _, _⟩ := (itemKey_eq_some_iff _ _).mp keyed
  obtain rfl := Json.dict.inj same
  refine (itemKey_eq_some_iff _ _).mpr ⟨new, rfl, ?_, hashable, present⟩
  have fields : (["name", "port", "containerPort", "mountPath", "path"].find? fun field =>
      Dict.has new field) = ["name", "port", "containerPort", "mountPath", "path"].find?
        fun field => Dict.has old field || Dict.has entries field := by
    congr 1
    funext field
    exact has_mergeDict keys merged field
  unfold listItemKey
  rw [fields]
  cases first : ["name", "port", "containerPort", "mountPath", "path"].find?
      fun field => Dict.has old field || Dict.has entries field with
  | none =>
      -- Then the old item has none of the fields, and no key.
      have noField : (["name", "port", "containerPort", "mountPath", "path"].find? fun field =>
          Dict.has old field) = none := by
        rw [List.find?_eq_none] at first ⊢
        intro field isField hasField
        exact first field isField (by simp [hasField])
      rw [listItemKey, noField] at oldKey
      exact oldKey
  | some field =>
      obtain ⟨ofEntries, ofOld⟩ := find?_or first
      cases inEntries : Dict.has entries field with
      | false =>
          rw [listItemKey, ofOld inEntries] at oldKey
          have absent : field ∉ entries.map Prod.fst := by
            rw [← Dict.find?_isSome_iff]
            simpa [Dict.has] using inEntries
          simp only [Dict.get, find?_mergeDict_of_not_mem merged absent]
          exact oldKey
      | true =>
          rw [listItemKey, ofEntries inEntries] at newKey
          obtain ⟨value, isValue⟩ := Option.isSome_iff_exists.mp inEntries
          obtain ⟨merged', isMerged, found⟩ := find?_mergeDict_of_mem keys merged
            (Dict.mem_of_find? isValue)
          have isKey : Dict.get entries field = value := by
            rw [Dict.get, isValue, Option.getD_some]
          have leaf : value.hashable = true := by
            simp only [isKey] at newKey
            rw [← newKey] at hashable
            cases value with
            | list items => simp [indexKey, Json.hashable] at hashable
            | dict entries => simp [indexKey, Json.hashable] at hashable
            | _ => rfl
          rw [mergeValue_leaf _ leaf, Option.some.injEq] at isMerged
          obtain rfl := isMerged
          have isNew : Dict.get new field = value := by
            rw [Dict.get, found, Option.getD_some]
          simp only [isKey] at newKey
          simp only [isNew]
          exact newKey

variable {entry : String × Json}

theorem mem_set {key : String} (isEntry : entry ∈ Dict.set entries key value) :
    entry = (key, value) ∨ entry ∈ entries := by
  induction entries with
  | nil => exact .inl (List.mem_singleton.mp isEntry)
  | cons first rest ih =>
      obtain ⟨present, old⟩ := first
      rw [Dict.set] at isEntry
      by_cases same : present = key
      · rw [if_pos same] at isEntry
        rcases List.mem_cons.mp isEntry with rfl | later
        · exact .inl (by rw [same])
        · exact .inr (List.mem_cons_of_mem _ later)
      · rw [if_neg same] at isEntry
        rcases List.mem_cons.mp isEntry with rfl | later
        · exact .inr List.mem_cons_self
        · exact (ih later).imp_right (List.mem_cons_of_mem _)

/-- An entry of a merge was there before, or its value was merged into the one there. -/
theorem mem_mergeDict
    (keys : (patch.map Prod.fst).Nodup) (merged : mergeDict base patch = some out)
    (isEntry : entry ∈ out) :
    entry ∈ base ∨ ∃ value, (entry.1, value) ∈ patch ∧
      mergeValue (Dict.get base entry.1) value = some entry.2 := by
  induction patch generalizing base with
  | nil =>
      rw [mergeDict] at merged
      rw [Option.some.inj merged]
      exact .inl isEntry
  | cons first rest ih =>
      obtain ⟨key, value⟩ := first
      rw [mergeDict_cons] at merged
      obtain ⟨new, isNew, later⟩ := Option.bind_eq_some_iff.mp merged
      rw [List.map_cons, List.nodup_cons] at keys
      rcases ih keys.2 later with before | ⟨other, isOther, isMerged⟩
      · rcases mem_set before with rfl | isBase
        · exact .inr ⟨value, List.mem_cons_self, isNew⟩
        · exact .inl isBase
      · have different : entry.1 ≠ key := by
          intro same
          exact keys.1 (List.mem_map.mpr ⟨_, isOther, same⟩)
        rw [Dict.get_set_of_ne base new different] at isMerged
        exact .inr ⟨other, List.mem_cons_of_mem _ isOther, isMerged⟩

/-- Everything takes the place of `null`. -/
theorem mergeValue_null (value : Json) : mergeValue .null value = some value := by
  cases value with
  | list items => exact mergeValue_list_of_not_list (by simp) items
  | dict entries => exact mergeValue_dict_of_not_dict (by simp) entries
  | _ => exact mergeValue_leaf _ rfl

theorem set_of_not_mem {key : String} (absent : key ∉ entries.map Prod.fst) (value : Json) :
    Dict.set entries key value = entries ++ [(key, value)] := by
  induction entries with
  | nil => rfl
  | cons entry rest ih =>
      obtain ⟨present, old⟩ := entry
      rw [List.map_cons, List.mem_cons, not_or] at absent
      rw [Dict.set, if_neg (Ne.symm absent.1), ih absent.2, List.cons_append]

/-- A patch with keys of its own is added to a document. -/
theorem mergeDict_disjoint (keys : ((base ++ patch).map Prod.fst).Nodup) :
    mergeDict base patch = some (base ++ patch) := by
  induction patch generalizing base with
  | nil => rw [mergeDict, List.append_nil]
  | cons entry rest ih =>
      obtain ⟨key, value⟩ := entry
      have absent : key ∉ base.map Prod.fst := by
        rw [List.map_append, List.map_cons] at keys
        exact fun isKey => (List.nodup_append.mp keys).2.2 key isKey key List.mem_cons_self rfl
      have missing : Dict.get base key = .null := by
        rw [Dict.get, (Dict.find?_eq_none_iff base key).mpr absent, Option.getD_none]
      rw [mergeDict_cons, missing, mergeValue_null, Option.bind_some, set_of_not_mem absent,
        ih (by simpa using keys), List.append_assoc, List.singleton_append]

end ApiShim
end K1s
