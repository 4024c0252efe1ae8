import K1s.ApiShim.Merges

/-!
# Patches that are applied twice

A patch that is merged again finds its own items in the document.  The items that have a
key are merged into themselves, and all others are added once more.  The patches that
leave a document alone the second time are those whose lists hold keyed items only, each
key once, down to every depth.
-/

namespace K1s
namespace ApiShim

open Py

/-- Every list of the document has at most one item under a key. -/
inductive KeysOnce : Json → Prop
  | leaf {value : Json} (isLeaf : value.hashable = true) : KeysOnce value
  | list {items : List Json}
      (once : (items.filterMap itemKey).Nodup)
      (inside : ∀ item ∈ items, KeysOnce item) : KeysOnce (.list items)
  | dict {entries : Dict} (inside : ∀ entry ∈ entries, KeysOnce entry.2) :
      KeysOnce (.dict entries)

/-- A value that can be merged again: a list begins with something that is no dictionary,
or all of its items have keys of their own. -/
inductive Stable : Json → Prop
  | leaf {value : Json} (isLeaf : value.hashable = true) : Stable value
  | plain {items : List Json}
      (plain : startsPlain items = true)
      (once : KeysOnce (.list items)) : Stable (.list items)
  | keyed {items : List Json}
      (keys : ∀ item ∈ items, (itemKey item).isSome)
      (once : (items.filterMap itemKey).Nodup)
      (inside : ∀ item ∈ items, Stable item) : Stable (.list items)
  | dict {entries : Dict} (inside : ∀ entry ∈ entries, Stable entry.2) :
      Stable (.dict entries)

theorem KeysOnce.items {items : List Json} (once : KeysOnce (.list items)) :
    (items.filterMap itemKey).Nodup ∧ ∀ item ∈ items, KeysOnce item := by
  cases once with
  | leaf isLeaf => simp [Json.hashable] at isLeaf
  | list once inside => exact ⟨once, inside⟩

theorem KeysOnce.values {entries : Dict} (once : KeysOnce (.dict entries)) :
    ∀ entry ∈ entries, KeysOnce entry.2 := by
  cases once with
  | leaf isLeaf => simp [Json.hashable] at isLeaf
  | dict inside => exact inside

theorem KeysOnce.get {entries : Dict} (once : KeysOnce (.dict entries)) (key : String) :
    KeysOnce (Dict.get entries key) := by
  cases found : Dict.find? entries key with
  | none =>
      rw [Dict.get, found, Option.getD_none]
      exact .leaf rfl
  | some value =>
      rw [Dict.get, found, Option.getD_some]
      exact once.values _ (Dict.mem_of_find? found)

/-- A document that results from a merge can be merged into again without a change, and
has every key once if it had so before. -/
def Settled (value : Json) : Prop :=
  ∀ old new, mergeValue old value = some new →
    mergeValue new value = some new ∧ (KeysOnce old → KeysOnce new)

theorem Settled.self {value : Json} (settled : Settled value) :
    mergeValue value value = some value ∧ KeysOnce value :=
  (settled .null value (mergeValue_null value)).imp id fun once => once (.leaf rfl)

theorem mergeDict_of_mergeValue
    {base entries new : Dict}
    (merged : mergeValue (.dict base) (.dict entries) = some (.dict new)) :
    mergeDict base entries = some new := by
  rw [mergeValue_dict_dict] at merged
  obtain ⟨out, isOut, same⟩ := Option.map_eq_some_iff.mp merged
  rw [isOut, Json.dict.inj same]

/-! ## Lists of keyed items -/

section Keyed

variable {items : List Json}

/-- An item with a key of its own is found under it. -/
theorem findLast_indexed
    (once : (items.filterMap itemKey).Nodup) {item key : Json} (isItem : item ∈ items)
    (keyed : itemKey item = some key) : findLast key (items.map indexed) = some item := by
  induction items with
  | nil => exact absurd isItem List.not_mem_nil
  | cons first rest ih =>
      rw [List.map_cons, findLast_cons]
      rcases List.mem_cons.mp isItem with rfl | later
      · rw [List.filterMap_cons_some keyed, List.nodup_cons] at once
        have absent : findLast key (rest.map indexed) = none := by
          rw [← Option.not_isSome_iff_eq_none, findLast_isSome_iff, List.map_map]
          rintro isKey
          obtain ⟨other, isOther, same⟩ := List.mem_map.mp isKey
          refine once.1 (List.mem_filterMap.mpr ⟨other, isOther, ?_⟩)
          obtain ⟨_, _, _, _, present⟩ := (itemKey_eq_some_iff _ _).mp keyed
          cases otherKeyed : itemKey other with
          | none =>
              simp only [Function.comp_apply, indexed, otherKeyed, Option.getD_none] at same
              exact absurd same.symm present
          | some otherKey =>
              simp only [Function.comp_apply, indexed, otherKeyed, Option.getD_some] at same
              rw [same]
        rw [absent, Option.none_or, indexed, keyed, Option.getD_some, if_pos rfl]
      · have onceLater : (rest.filterMap itemKey).Nodup := by
          refine once.sublist ?_
          exact (List.sublist_cons_self first rest).filterMap itemKey
        rw [ih onceLater later, Option.some_or]

theorem filterMap_itemKey
    {entries : List (Json × Json)} (all : ∀ entry ∈ entries, entry = indexed entry.2) :
    (entries.map Prod.snd).filterMap itemKey =
      (entries.map Prod.fst).filter fun key => key ≠ .null := by
  induction entries with
  | nil => rfl
  | cons entry rest ih =>
      have own := all entry List.mem_cons_self
      have later := ih fun entry isLater =>
        all entry (List.mem_cons_of_mem _ isLater)
      rw [List.map_cons, List.map_cons]
      cases keyed : itemKey entry.2 with
      | none =>
          have null : entry.1 = .null := by rw [own, indexed, keyed, Option.getD_none]
          rw [List.filterMap_cons_none keyed, later, List.filter_cons_of_neg (by simp [null])]
      | some key =>
          have same : entry.1 = key := by rw [own, indexed, keyed, Option.getD_some]
          obtain ⟨_, _, _, _, present⟩ := (itemKey_eq_some_iff _ _).mp keyed
          rw [List.filterMap_cons_some keyed, later,
            List.filter_cons_of_pos (by simpa [same] using present), same]

theorem startsPlain_of_keyed (keys : ∀ item ∈ items, (itemKey item).isSome) :
    startsPlain items = false := by
  cases items with
  | nil => rfl
  | cons item rest =>
      obtain ⟨key, keyed⟩ := Option.isSome_iff_exists.mp (keys item List.mem_cons_self)
      obtain ⟨entries, rfl, _⟩ := (itemKey_eq_some_iff _ _).mp keyed
      rfl

/-- Keyed items that are merged into themselves leave their list. -/
theorem mergeValue_self
    (keys : ∀ item ∈ items, (itemKey item).isSome) (once : (items.filterMap itemKey).Nodup)
    (inside : ∀ item ∈ items, mergeValue item item = some item) :
    mergeValue (.list items) (.list items) = some (.list items) := by
  have indexes : keyedItems items = some (items.map indexed) := by
    rw [keyedItems_eq_some_iff]
    refine ⟨fun item isItem => ?_, rfl⟩
    obtain ⟨key, keyed⟩ := Option.isSome_iff_exists.mp (keys item isItem)
    exact indexable_of_itemKey keyed
  have fixed : mergeItems (items.map indexed) items = some (items.map indexed, []) := by
    apply mergeItems_fixed
    intro item isItem
    obtain ⟨key, keyed⟩ := Option.isSome_iff_exists.mp (keys item isItem)
    obtain ⟨entries, rfl, _⟩ := (itemKey_eq_some_iff _ _).mp keyed
    refine ⟨key, entries, keyed, findLast_indexed once isItem keyed, ?_⟩
    exact mergeDict_of_mergeValue (inside _ isItem)
  rw [mergeValue_list_list, startsPlain_of_keyed keys, Bool.or_self,
    if_neg Bool.false_ne_true, indexes, Option.bind_some, fixed, Option.map_some]
  simp only [map_snd_indexed, List.append_nil]

/-- What a list of keyed items leaves of another list. -/
theorem settled_lists
    (keys : ∀ item ∈ items, (itemKey item).isSome) (once : (items.filterMap itemKey).Nodup)
    (distinct : ∀ item ∈ items, item.Distinct) (inside : ∀ item ∈ items, Settled item)
    {base : List Json} {new : Json} (notPlain : startsPlain base = false)
    (merged : mergeValue (.list base) (.list items) = some new) :
    mergeValue new (.list items) = some new ∧ (KeysOnce (.list base) → KeysOnce new) := by
  rw [mergeValue_list_list, startsPlain_of_keyed keys, notPlain, Bool.or_self,
    if_neg Bool.false_ne_true] at merged
  obtain ⟨seeded, isSeeded, merged⟩ := Option.bind_eq_some_iff.mp merged
  obtain ⟨⟨after, added⟩, isMerged, rfl⟩ := Option.map_eq_some_iff.mp merged
  obtain ⟨indexables, rfl⟩ := (keyedItems_eq_some_iff _ _).mp isSeeded
  have left := itemsMerged once isMerged
  -- Every entry that is left is an item under its own key.
  have entryKeyed (entry) (isEntry : entry ∈ after) :
      entry = indexed entry.2 ∧ indexable entry.2 = true := by
    rcases left.inside entry isEntry with isBase | ⟨item, isItem, old, new, keyed, isOld,
      isNew, value⟩
    · obtain ⟨item, isItem, rfl⟩ := List.mem_map.mp isBase
      exact ⟨rfl, indexables item isItem⟩
    · obtain ⟨_, _, _, _, present⟩ := (itemKey_eq_some_iff _ _).mp keyed
      obtain ⟨oldKeyed, _⟩ := itemKey_of_findLast present isOld
      obtain ⟨entries, rfl, _⟩ := (itemKey_eq_some_iff _ _).mp keyed
      obtain ⟨oldEntries, rfl, _⟩ := (itemKey_eq_some_iff _ _).mp oldKeyed
      have newKeyed := itemKey_mergeDict oldKeyed keyed (distinct _ isItem).keys isNew
      rw [← value] at newKeyed
      refine ⟨?_, indexable_of_itemKey newKeyed⟩
      rw [indexed, newKeyed, Option.getD_some]
  have isAdded (item) : item ∈ added ↔ item ∈ items ∧
      (itemKey item).all fun key => (findLast key (base.map indexed)).isNone := by
    rw [left.added, List.mem_filter]
  have addedOnce : (added.filterMap itemKey).Nodup := by
    rw [left.added]
    exact once.sublist (List.filter_sublist.filterMap itemKey)
  constructor
  · have indexes : keyedItems (after.map Prod.snd ++ added) =
        some (after ++ added.map indexed) := by
      rw [keyedItems_eq_some_iff]
      constructor
      · intro item isItem
        rcases List.mem_append.mp isItem with isAfter | isNew
        · obtain ⟨entry, isEntry, rfl⟩ := List.mem_map.mp isAfter
          exact (entryKeyed entry isEntry).2
        · obtain ⟨key, keyed⟩ := Option.isSome_iff_exists.mp (keys item ((isAdded item).mp isNew).1)
          exact indexable_of_itemKey keyed
      · rw [List.map_append, List.map_map]
        congr 1
        have same := List.map_congr_left fun entry isEntry => (entryKeyed entry isEntry).1.symm
        exact ((List.map_id after).symm.trans (same.symm))
    have fixed : mergeItems (after ++ added.map indexed) items =
        some (after ++ added.map indexed, []) := by
      apply mergeItems_fixed
      intro item isItem
      obtain ⟨key, keyed⟩ := Option.isSome_iff_exists.mp (keys item isItem)
      obtain ⟨entries, rfl, _, _, present⟩ := (itemKey_eq_some_iff _ _).mp keyed
      have foundLast := findLast_append key after (added.map indexed)
      cases inBase : findLast key (base.map indexed) with
      | none =>
          have added := (isAdded _).mpr ⟨isItem, by simp [keyed, inBase]⟩
          refine ⟨key, entries, keyed, ?_, ?_⟩
          · rw [foundLast, findLast_indexed addedOnce added keyed, Option.some_or]
          · exact mergeDict_of_mergeValue (inside _ isItem).self.1
      | some old =>
          obtain ⟨new, isNew, found⟩ := left.found _ isItem key keyed old inBase
          have notAdded : findLast key (added.map indexed) = none := by
            by_contra isFound
            obtain ⟨other, isOther⟩ := Option.ne_none_iff_exists'.mp isFound
            obtain ⟨otherKeyed, otherAdded⟩ := itemKey_of_findLast present isOther
            have absent := ((isAdded other).mp otherAdded).2
            rw [otherKeyed, Option.all_some, inBase] at absent
            exact absurd absent (by simp)
          obtain ⟨oldKeyed, _⟩ := itemKey_of_findLast present inBase
          obtain ⟨oldEntries, rfl, _⟩ := (itemKey_eq_some_iff _ _).mp oldKeyed
          refine ⟨key, new, keyed, by rw [foundLast, notAdded, Option.none_or, found], ?_⟩
          have again := (inside _ isItem (.dict oldEntries) (.dict new) (by
            rw [mergeValue_dict_dict]
            exact congrArg (Option.map Json.dict) isNew)).1
          exact mergeDict_of_mergeValue again
    have newNotPlain : startsPlain (after.map Prod.snd ++ added) = false := by
      cases isAfter : after.map Prod.snd with
      | nil =>
          exact startsPlain_of_keyed fun item isNew => keys item ((isAdded item).mp isNew).1
      | cons first rest =>
          have plain := left.plain
          rw [isAfter, map_snd_indexed, notPlain] at plain
          exact Bool.eq_false_iff.mpr fun isPlain => Bool.false_ne_true (plain isPlain)
    rw [mergeValue_list_list, startsPlain_of_keyed keys, newNotPlain, Bool.or_self,
      if_neg Bool.false_ne_true, indexes, Option.bind_some, fixed, Option.map_some]
    simp only [List.map_append, map_snd_indexed, List.append_nil]
  · intro baseOnce
    obtain ⟨baseKeys, baseInside⟩ := baseOnce.items
    have baseEntries : ∀ entry ∈ base.map indexed, entry = indexed entry.2 := by
      intro entry isEntry
      obtain ⟨item, _, rfl⟩ := List.mem_map.mp isEntry
      rfl
    have afterKeys : (after.map Prod.snd).filterMap itemKey = base.filterMap itemKey := by
      rw [filterMap_itemKey fun entry isEntry => (entryKeyed entry isEntry).1, left.keys,
        ← filterMap_itemKey baseEntries, map_snd_indexed]
    refine KeysOnce.list ?_ fun item isItem => ?_
    · rw [List.filterMap_append, afterKeys, List.nodup_append]
      refine ⟨baseKeys, addedOnce, fun baseKey isBase key isNew same => ?_⟩
      obtain ⟨item, isItem, keyed⟩ := List.mem_filterMap.mp isNew
      obtain ⟨baseItem, isBaseItem, baseKeyed⟩ := List.mem_filterMap.mp isBase
      have absent := ((isAdded item).mp isItem).2
      rw [keyed, Option.all_some, ← same, findLast_indexed baseKeys isBaseItem baseKeyed]
        at absent
      exact absurd absent (by simp)
    · rcases List.mem_append.mp isItem with isAfter | isNew
      · obtain ⟨entry, isEntry, rfl⟩ := List.mem_map.mp isAfter
        rcases left.inside entry isEntry with isBase | ⟨item, isItem, old, new, keyed, isOld,
          isNew, value⟩
        · obtain ⟨item, isBaseItem, rfl⟩ := List.mem_map.mp isBase
          exact baseInside item isBaseItem
        · obtain ⟨_, _, _, _, present⟩ := (itemKey_eq_some_iff _ _).mp keyed
          obtain ⟨oldKeyed, isBaseItem⟩ := itemKey_of_findLast present isOld
          obtain ⟨entries, rfl, _⟩ := (itemKey_eq_some_iff _ _).mp keyed
          obtain ⟨oldEntries, rfl, _⟩ := (itemKey_eq_some_iff _ _).mp oldKeyed
          rw [value]
          refine (inside _ isItem (.dict oldEntries) (.dict new) ?_).2 (baseInside _ isBaseItem)
          rw [mergeValue_dict_dict]
          exact congrArg (Option.map Json.dict) isNew
      · exact (inside item ((isAdded item).mp isNew).1).self.2

end Keyed

/-! ## The patches that can be applied twice -/

/-- A stable value leaves a document that it has been merged into. -/
theorem Stable.settled {value : Json} (stable : Stable value) (distinct : value.Distinct) :
    Settled value := by
  induction stable with
  | leaf isLeaf =>
      intro old new merged
      rw [mergeValue_leaf old isLeaf, Option.some.injEq] at merged
      obtain rfl := merged
      exact ⟨mergeValue_leaf _ isLeaf, fun _ => .leaf isLeaf⟩
  | @plain items plain once =>
      have replaced (old : Json) : mergeValue old (.list items) = some (.list items) := by
        by_cases isList : ∃ base, old = .list base
        · obtain ⟨base, rfl⟩ := isList
          rw [mergeValue_list_list, plain, Bool.true_or, if_pos rfl]
        · exact mergeValue_list_of_not_list (fun base same => isList ⟨base, same⟩) items
      intro old new merged
      rw [replaced, Option.some.injEq] at merged
      obtain rfl := merged
      exact ⟨replaced _, fun _ => once⟩
  | @keyed items keys once inside ih =>
      have settled (item) (isItem : item ∈ items) : Settled item :=
        ih item isItem (distinct.items item isItem)
      have again := mergeValue_self keys once fun item isItem => (settled item isItem).self.1
      have itemsOnce : KeysOnce (.list items) :=
        .list once fun item isItem => (settled item isItem).self.2
      intro old new merged
      by_cases isList : ∃ base, old = .list base ∧ startsPlain base = false
      · obtain ⟨base, rfl, notPlain⟩ := isList
        exact settled_lists keys once distinct.items settled notPlain merged
      · have replaced : mergeValue old (.list items) = some (.list items) := by
          by_cases isPlain : ∃ base, old = .list base
          · obtain ⟨base, rfl⟩ := isPlain
            have plain : startsPlain base = true := by
              by_contra notPlain
              exact isList ⟨base, rfl, Bool.eq_false_iff.mpr notPlain⟩
            rw [mergeValue_list_list, plain, Bool.or_true, if_pos rfl]
          · exact mergeValue_list_of_not_list (fun base same => isPlain ⟨base, same⟩) items
        rw [replaced, Option.some.injEq] at merged
        obtain rfl := merged
        exact ⟨again, fun _ => itemsOnce⟩
  | @dict entries inside ih =>
      have settled (entry) (isEntry : entry ∈ entries) : Settled entry.2 :=
        ih entry isEntry (distinct.values entry isEntry)
      intro old new merged
      by_cases isDict : ∃ base, old = .dict base
      · obtain ⟨base, rfl⟩ := isDict
        rw [mergeValue_dict_dict] at merged
        obtain ⟨out, isOut, rfl⟩ := Option.map_eq_some_iff.mp merged
        constructor
        · rw [mergeValue_dict_dict, mergeDict_fixed, Option.map_some]
          intro key value isEntry
          obtain ⟨new, isNew, found⟩ := find?_mergeDict_of_mem distinct.keys isOut isEntry
          exact ⟨new, found, (settled _ isEntry _ new isNew).1⟩
        · intro baseOnce
          refine .dict fun entry isEntry => ?_
          rcases mem_mergeDict distinct.keys isOut isEntry with isBase | ⟨value, isPatch, isNew⟩
          · exact baseOnce.values entry isBase
          · exact (settled _ isPatch _ entry.2 isNew).2 (baseOnce.get entry.1)
      · rw [mergeValue_dict_of_not_dict (fun base same => isDict ⟨base, same⟩),
          Option.some.injEq] at merged
        obtain rfl := merged
        refine ⟨?_, fun _ => .dict fun entry isEntry => (settled entry isEntry).self.2⟩
        rw [mergeValue_dict_dict, mergeDict_fixed, Option.map_some]
        intro key value isEntry
        exact ⟨value, (Dict.find?_eq_some_iff distinct.keys key value).mpr isEntry,
          (settled _ isEntry).self.1⟩

/-- A value that leaves itself, and has every key once, is stable. -/
theorem stable_of_self (value : Json) :
    value.Distinct → mergeValue value value = some value → KeysOnce value → Stable value := by
  induction value using Json.documentInduction with
  | leaf value isLeaf => exact fun _ _ _ => .leaf isLeaf
  | list items ih =>
      intro distinct same once
      by_cases plain : startsPlain items = true
      · exact .plain plain once
      · obtain ⟨keysOnce, inside⟩ := once.items
        rw [mergeValue_list_list, Bool.eq_false_iff.mpr plain, Bool.or_self,
          if_neg Bool.false_ne_true] at same
        obtain ⟨seeded, isSeeded, merged⟩ := Option.bind_eq_some_iff.mp same
        obtain ⟨⟨after, added⟩, isMerged, sameItems⟩ := Option.map_eq_some_iff.mp merged
        obtain ⟨_, rfl⟩ := (keyedItems_eq_some_iff _ _).mp isSeeded
        have left := itemsMerged keysOnce isMerged
        have sameItems : after.map Prod.snd ++ added = items := Json.list.inj sameItems
        have count := congrArg List.length left.keys
        have total := congrArg List.length sameItems
        simp only [List.length_map, List.length_append] at count total
        obtain rfl : added = [] := List.length_eq_zero_iff.mp (by omega)
        rw [List.append_nil] at sameItems
        have unchanged : after = items.map indexed := by
          rw [← List.zip_unzip after, ← List.zip_unzip (items.map indexed), List.unzip_eq_map,
            List.unzip_eq_map, left.keys, sameItems, map_snd_indexed]
        have eachKeyed (item) (isItem : item ∈ items) :
            (itemKey item).isSome ∧ mergeValue item item = some item := by
          have notAdded : ¬ ((itemKey item).all fun key =>
              (findLast key (items.map indexed)).isNone) = true := by
            intro isAdded
            have added := left.added ▸ List.mem_filter.mpr ⟨isItem, isAdded⟩
            exact absurd added List.not_mem_nil
          cases keyed : itemKey item with
          | none =>
              rw [keyed] at notAdded
              exact absurd rfl notAdded
          | some key =>
              have isFound := findLast_indexed keysOnce isItem keyed
              obtain ⟨new, isNew, found⟩ := left.found item isItem key keyed item isFound
              rw [unchanged, isFound, Option.some.injEq] at found
              refine ⟨rfl, ?_⟩
              rw [found, Json.entries] at isNew
              rw [found, mergeValue_dict_dict, isNew, Option.map_some]
        exact .keyed (fun item isItem => (eachKeyed item isItem).1) keysOnce
          fun item isItem => ih item isItem (distinct.items item isItem)
            (eachKeyed item isItem).2 (inside item isItem)
  | dict entries ih =>
      intro distinct same once
      refine .dict fun entry isEntry => ?_
      obtain ⟨new, isNew, found⟩ := find?_mergeDict_of_mem distinct.keys
        (mergeDict_of_mergeValue same) (isEntry : (entry.1, entry.2) ∈ entries)
      have isValue := (Dict.find?_eq_some_iff distinct.keys entry.1 entry.2).mpr isEntry
      rw [Dict.get, isValue, Option.getD_some] at isNew
      rw [isValue, Option.some.injEq] at found
      rw [← found] at isNew
      exact ih entry isEntry (distinct.values entry isEntry) isNew
        (once.values entry isEntry)

/-- Applying a patch once more changes nothing, and every list has its keys once if the
lists of the base have. -/
def AppliesOnce (base patch : Dict) : Prop :=
  ∀ once, mergeDict base patch = some once → mergeDict once patch = some once ∧
      (KeysOnce (.dict base) → KeysOnce (.dict once))

/-- A patch can be applied twice to every object exactly when it is stable. -/
theorem appliesOnce_iff (patch : JsonObject) :
    (∀ base : JsonObject, AppliesOnce base.entries patch.entries) ↔
      Stable (.dict patch.entries) := by
  constructor
  · intro applies
    have placed : mergeDict [] patch.entries = some patch.entries :=
      mergeDict_disjoint (by simpa using patch.distinct.keys)
    obtain ⟨same, once⟩ := applies .empty patch.entries placed
    refine stable_of_self _ patch.distinct ?_ (once (.dict fun _ isEntry =>
      absurd isEntry List.not_mem_nil))
    rw [mergeValue_dict_dict, same, Option.map_some]
  · intro stable base once merged
    have settled := stable.settled patch.distinct (.dict base.entries) (.dict once) (by
      rw [mergeValue_dict_dict, merged, Option.map_some])
    exact ⟨mergeDict_of_mergeValue settled.1, settled.2⟩

/-- A patch with one toleration, which has none of the fields that items are found by. -/
def tolerationPatch : JsonObject where
  entries := [("tolerations", .list [.dict [("effect", .str "NoSchedule")]])]
  distinct := by
    refine .dict (by simp) ?_
    simp only [List.forall_mem_singleton]
    refine .list ?_
    simp only [List.forall_mem_singleton]
    refine .dict (by simp) ?_
    simp only [List.forall_mem_singleton]
    exact .leaf rfl

/-- The toleration is there twice after the patch has been applied twice. -/
theorem not_appliesOnce_toleration :
    ¬ AppliesOnce JsonObject.empty.entries tolerationPatch.entries := by
  intro applies
  obtain ⟨same, _⟩ := applies tolerationPatch.entries (by decide +kernel)
  exact absurd same (by decide +kernel)

end ApiShim
end K1s
