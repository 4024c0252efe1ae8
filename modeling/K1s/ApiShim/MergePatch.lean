import K1s.ApiShim.Merges
import K1s.ApiShim.PatchRequests

/-!
# Merge patches

RFC 7386 gives a merge patch its meaning: `null` removes a key, an object is merged into
what is there, and everything else takes its place.  `_merge_dict` keeps `null` as a value
and merges lists of dictionaries as well, so that it does what is prescribed exactly for
the patches in which neither occurs.
-/

namespace K1s
namespace ApiShim

open Py

/-! ## What is prescribed -/

mutual

/-- `MergePatch` of a document with the entries of a patch. -/
def mergePatchEntries (target : Dict) : List (String × Json) → Dict
  | [] => target
  | (key, .null) :: rest => mergePatchEntries (Dict.drop target key) rest
  | (key, value) :: rest =>
      mergePatchEntries (Dict.set target key (mergePatch (Dict.get target key) value)) rest

def mergePatch (target : Json) : Json → Json
  | .dict entries => .dict (mergePatchEntries target.entries entries)
  | other => other

end

theorem mergePatchEntries_null (target : Dict) (key : String) (rest : Dict) :
    mergePatchEntries target ((key, .null) :: rest) =
      mergePatchEntries (Dict.drop target key) rest := by
  rw [mergePatchEntries]

theorem mergePatchEntries_cons
    (target : Dict) (key : String) {value : Json} (present : value ≠ .null) (rest : Dict) :
    mergePatchEntries target ((key, value) :: rest) =
      mergePatchEntries (Dict.set target key (mergePatch (Dict.get target key) value))
        rest := by
  cases value with
  | null => exact absurd rfl present
  | _ => rw [mergePatchEntries]; simp

theorem find?_mergePatchEntries_of_not_mem
    {patch : Dict} {key : String} (absent : key ∉ patch.map Prod.fst) (target : Dict) :
    Dict.find? (mergePatchEntries target patch) key = Dict.find? target key := by
  induction patch generalizing target with
  | nil => rw [mergePatchEntries]
  | cons entry rest ih =>
      obtain ⟨present, value⟩ := entry
      rw [List.map_cons, List.mem_cons, not_or] at absent
      by_cases null : value = .null
      · rw [null, mergePatchEntries_null, ih absent.2,
          Dict.find?_drop, if_neg absent.1]
      · rw [mergePatchEntries_cons target present null, ih absent.2,
          Dict.find?_set_of_ne _ _ absent.1]

/-- What is prescribed for a key of the patch. -/
theorem find?_mergePatchEntries_of_mem
    {patch : Dict} (keys : (patch.map Prod.fst).Nodup) {key : String} {value : Json}
    (isEntry : (key, value) ∈ patch) (target : Dict) :
    Dict.find? (mergePatchEntries target patch) key =
      if value = .null then none else some (mergePatch (Dict.get target key) value) := by
  induction patch generalizing target with
  | nil => exact absurd isEntry List.not_mem_nil
  | cons entry rest ih =>
      obtain ⟨present, first⟩ := entry
      rw [List.map_cons, List.nodup_cons] at keys
      rcases List.mem_cons.mp isEntry with same | later
      · obtain ⟨rfl, rfl⟩ := Prod.mk.inj same
        by_cases null : value = .null
        · rw [null, mergePatchEntries_null, find?_mergePatchEntries_of_not_mem keys.1,
            Dict.find?_drop, if_pos rfl, if_pos rfl]
        · rw [mergePatchEntries_cons target key null,
            find?_mergePatchEntries_of_not_mem keys.1, Dict.find?_set_self, if_neg null]
      · have different : key ≠ present := by
          rintro rfl
          exact keys.1 (List.mem_map.mpr ⟨_, later, rfl⟩)
        by_cases null : first = .null
        · rw [null, mergePatchEntries_null, ih keys.2 later, Dict.get,
            Dict.find?_drop, if_neg different, Dict.get]
        · rw [mergePatchEntries_cons target present null, ih keys.2 later,
            Dict.get_set_of_ne _ _ different]

/-! ## The patches that are applied as prescribed -/

/-- A value without `null` under a key, all of whose lists begin with something that is no
dictionary. -/
inductive Replacing : Json → Prop
  | leaf {value : Json} (isLeaf : value.hashable = true) (present : value ≠ .null) :
      Replacing value
  | list {items : List Json} (plain : startsPlain items = true) : Replacing (.list items)
  | dict {entries : Dict} (inside : ∀ entry ∈ entries, Replacing entry.2) :
      Replacing (.dict entries)

theorem Replacing.ne_null {value : Json} (replacing : Replacing value) : value ≠ .null := by
  rintro rfl
  cases replacing with
  | leaf _ present => exact present rfl

/-- A patch is applied as prescribed if the values of its keys are. -/
theorem mergeDict_of_values
    {patch : Dict} (present : ∀ entry ∈ patch, entry.2 ≠ .null)
    (values : ∀ entry ∈ patch, ∀ old, mergeValue old entry.2 = some (mergePatch old entry.2))
    (base : Dict) : mergeDict base patch = some (mergePatchEntries base patch) := by
  induction patch generalizing base with
  | nil => rw [mergeDict, mergePatchEntries]
  | cons entry rest ih =>
      obtain ⟨key, value⟩ := entry
      rw [mergeDict_cons, values _ List.mem_cons_self, Option.bind_some,
        mergePatchEntries_cons base key (present _ List.mem_cons_self)]
      exact ih (fun entry isLater => present entry (List.mem_cons_of_mem _ isLater))
        (fun entry isLater => values entry (List.mem_cons_of_mem _ isLater)) _

theorem Replacing.mergeValue
    {value : Json} (replacing : Replacing value) (distinct : value.Distinct) :
    ∀ old, mergeValue old value = some (mergePatch old value) := by
  induction replacing with
  | @leaf value isLeaf present =>
      intro old
      rw [mergeValue_leaf old isLeaf]
      cases value with
      | dict entries => simp [Json.hashable] at isLeaf
      | _ => rw [mergePatch]; simp
  | @list items plain =>
      intro old
      rw [mergePatch]
      · by_cases isList : ∃ base, old = .list base
        · obtain ⟨base, rfl⟩ := isList
          rw [mergeValue_list_list, plain, Bool.true_or, if_pos rfl]
        · exact mergeValue_list_of_not_list (fun base same => isList ⟨base, same⟩) items
      · simp
  | @dict entries inside ih =>
      have all := mergeDict_of_values (fun entry isEntry => (inside entry isEntry).ne_null)
        fun entry isEntry => ih entry isEntry (distinct.values entry isEntry)
      intro old
      rw [mergePatch]
      by_cases isDict : ∃ base, old = .dict base
      · obtain ⟨base, rfl⟩ := isDict
        rw [mergeValue_dict_dict, all base, Option.map_some, Json.entries]
      · have placed : mergeDict [] entries = some entries :=
          mergeDict_disjoint (by simpa using distinct.keys)
        have nothing : old.entries = [] := by
          cases old with
          | dict base => exact absurd ⟨base, rfl⟩ isDict
          | _ => rfl
        rw [mergeValue_dict_of_not_dict (fun base same => isDict ⟨base, same⟩), nothing]
        rw [all []] at placed
        rw [Option.some.inj placed]

/-- Items are added to a list whose items have no keys. -/
theorem mergeItems_of_unkeyed
    {seeded after : List (Json × Json)} (unkeyed : ∀ entry ∈ seeded, entry.1 = .null)
    {items added : List Json} (merged : mergeItems seeded items = some (after, added)) :
    after = seeded ∧ added = items := by
  induction items generalizing added with
  | nil =>
      rw [mergeItems, Option.some.injEq, Prod.mk.injEq] at merged
      exact ⟨merged.1.symm, merged.2.symm⟩
  | cons item rest ih =>
      cases keyed : itemKey item with
      | none =>
          obtain ⟨later, isLater, rfl⟩ := mergeItems_unkeyed keyed merged
          obtain ⟨rfl, rfl⟩ := ih isLater
          exact ⟨rfl, rfl⟩
      | some key =>
          obtain ⟨entries, rfl, _, _, present⟩ := (itemKey_eq_some_iff _ _).mp keyed
          have absent : findLast key seeded = none := by
            rw [← Option.not_isSome_iff_eq_none, findLast_isSome_iff]
            intro isKey
            obtain ⟨entry, isEntry, rfl⟩ := List.mem_map.mp isKey
            exact present (unkeyed entry isEntry)
          rw [mergeItems_keyed keyed, absent] at merged
          obtain ⟨⟨same, later⟩, isLater, pairs⟩ := Option.map_eq_some_iff.mp merged
          obtain ⟨rfl, rfl⟩ := Prod.mk.inj pairs
          obtain ⟨rfl, rfl⟩ := ih isLater
          exact ⟨rfl, rfl⟩

/-- A list with one item without a key, which a merge does not replace. -/
def unkeyedList : Json := .list [.dict []]

theorem unkeyedList_distinct : unkeyedList.Distinct := by
  refine .list ?_
  simp only [List.forall_mem_singleton]
  exact .dict List.nodup_nil (by simp)

/-- A list that replaces every other one begins with something that is no dictionary. -/
theorem startsPlain_of_replaces
    {items : List Json} (replaces : mergeValue unkeyedList (.list items) = some (.list items)) :
    startsPlain items = true := by
  by_contra notPlain
  rw [unkeyedList, mergeValue_list_list, Bool.eq_false_iff.mpr notPlain,
    show startsPlain [.dict []] = false from rfl, Bool.or_self,
    if_neg Bool.false_ne_true] at replaces
  obtain ⟨seeded, isSeeded, merged⟩ := Option.bind_eq_some_iff.mp replaces
  obtain ⟨⟨after, added⟩, isMerged, same⟩ := Option.map_eq_some_iff.mp merged
  obtain ⟨_, rfl⟩ := (keyedItems_eq_some_iff _ _).mp isSeeded
  obtain ⟨rfl, rfl⟩ := mergeItems_of_unkeyed (by simp [indexed, itemKey, listItemKey, indexKey,
    Dict.has]) isMerged
  have count := congrArg List.length (Json.list.inj same)
  simp at count

/-- The values of a patch that is applied as prescribed to every object are. -/
theorem values_of_mergeDict
    {patch : Dict} (keys : (patch.map Prod.fst).Nodup)
    (all : ∀ base : JsonObject,
      mergeDict base.entries patch = some (mergePatchEntries base.entries patch))
    {entry : String × Json}
    (isEntry : entry ∈ patch) :
    entry.2 ≠ .null ∧ ∀ old : Json, old.Distinct →
      mergeValue old entry.2 = some (mergePatch old entry.2) := by
  obtain ⟨key, value⟩ := entry
  have each (old : Json) (distinct : old.Distinct) : ∃ new, mergeValue old value = some new ∧
      some new = if value = .null then none else some (mergePatch old value) := by
    have merged := all ⟨[(key, old)], .dict (by simp) (by simpa using distinct)⟩
    obtain ⟨new, isNew, found⟩ := find?_mergeDict_of_mem keys merged isEntry
    have current : Dict.get [(key, old)] key = old := by simp [Dict.get, Dict.find?_cons]
    rw [find?_mergePatchEntries_of_mem keys isEntry] at found
    rw [current] at isNew found
    exact ⟨new, isNew, found.symm⟩
  have present : value ≠ .null := by
    intro null
    obtain ⟨new, _, same⟩ := each .null (.leaf rfl)
    rw [if_pos null] at same
    exact absurd same (by simp)
  refine ⟨present, fun old distinct => ?_⟩
  obtain ⟨new, isNew, same⟩ := each old distinct
  rw [if_neg present] at same
  exact isNew.trans same

/-- A value that is applied as prescribed to every value is a replacing one. -/
theorem replacing_of_mergeValue (value : Json) :
    value.Distinct → value ≠ .null →
      (∀ old : Json, old.Distinct → mergeValue old value = some (mergePatch old value)) →
        Replacing value := by
  induction value using Json.documentInduction with
  | leaf value isLeaf => exact fun _ present _ => .leaf isLeaf present
  | list items ih =>
      intro distinct _ all
      refine .list (startsPlain_of_replaces ?_)
      have same := all unkeyedList unkeyedList_distinct
      rw [mergePatch] at same
      · exact same
      · simp
  | dict entries ih =>
      intro distinct _ all
      refine .dict fun entry isEntry => ?_
      have values := values_of_mergeDict distinct.keys (fun base => by
        have same := all (.dict base.entries) base.distinct
        rw [mergePatch, mergeValue_dict_dict, Json.entries] at same
        obtain ⟨out, isOut, sameOut⟩ := Option.map_eq_some_iff.mp same
        rw [isOut, Json.dict.inj sameOut]) isEntry
      exact ih entry isEntry (distinct.values entry isEntry) values.1 values.2

/-- A patch is applied as prescribed to every object exactly when it has no `null` and no
list that is empty or begins with a dictionary, except inside of lists. -/
theorem mergeDict_eq_mergePatch_iff (patch : JsonObject) :
    (∀ base : JsonObject, mergeDict base.entries patch.entries =
        some (mergePatchEntries base.entries patch.entries)) ↔
      Replacing (.dict patch.entries) := by
  constructor
  · intro all
    refine .dict fun entry isEntry => ?_
    obtain ⟨present, values⟩ := values_of_mergeDict patch.distinct.keys all isEntry
    exact replacing_of_mergeValue entry.2 (patch.distinct.values entry isEntry) present values
  · intro replacing base
    have same := replacing.mergeValue patch.distinct (.dict base.entries)
    rw [mergePatch, mergeValue_dict_dict, Json.entries] at same
    obtain ⟨out, isOut, sameOut⟩ := Option.map_eq_some_iff.mp same
    rw [isOut, Json.dict.inj sameOut]

def mergePatchRequest (manager : String) (force : Bool) (patch : Json) : PatchRequest :=
  ⟨"application/merge-patch+json", manager, force, patch⟩

theorem applyPatchMerge_mergePatchRequest
    (manager : String) (force : Bool) (base patch : Dict) :
    (mergePatchRequest manager force (.dict patch)).applyPatchMerge base =
      orRaise ((mergeDict base patch).map .dict) := by
  simp [mergePatchRequest, PatchRequest.applyPatchMerge]

/-- A merge patch is answered as prescribed for every object exactly when it has no `null`
and no list that is empty or begins with a dictionary, except inside of lists. -/
theorem applyPatchMerge_eq_mergePatch_iff
    (manager : String) (force : Bool) (patch : JsonObject) :
    (∀ base : JsonObject,
        (mergePatchRequest manager force (.dict patch.entries)).applyPatchMerge base.entries =
          .ok (mergePatch (.dict base.entries) (.dict patch.entries))) ↔
      Replacing (.dict patch.entries) := by
  rw [← mergeDict_eq_mergePatch_iff]
  refine forall_congr' fun base => ?_
  rw [applyPatchMerge_mergePatchRequest, mergePatch, Json.entries]
  cases mergeDict base.entries patch.entries <;> simp [orRaise]

/-- `null` is stored and does not remove the key. -/
theorem not_applyPatchMerge_eq_null :
    (mergePatchRequest "kubectl" false (.dict [("a", .null)])).applyPatchMerge [("a", .int 1)] ≠
      .ok (mergePatch (.dict [("a", .int 1)]) (.dict [("a", .null)])) := by
  have stored : (mergePatchRequest "kubectl" false (.dict [("a", .null)])).applyPatchMerge
      [("a", .int 1)] = .ok (.dict [("a", .null)]) := by
    rw [applyPatchMerge_mergePatchRequest]
    rfl
  have removed : mergePatch (.dict [("a", .int 1)]) (.dict [("a", .null)]) = .dict [] := rfl
  rw [stored, removed]
  simp

end ApiShim
end K1s
