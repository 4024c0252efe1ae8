import K1s.ApiShim.ReportedVersions
import K1s.Lib.OptionLists

/-!
# The managers of an object's fields

The metadata of an object list who manages which of its fields.  `FieldManager` is a
line of that ledger, and `ManagedBy` says that the metadata hold exactly the entries
of a ledger in which no manager occurs twice.

An update replaces the entry of the acting manager and keeps the others.  An apply
merges the stored entries into themselves first, where they are added a second time,
so that it keeps to the ledger only if no entry of another manager is left.
-/

namespace K1s
namespace ApiShim

open Py

/-! ## The ledger -/

structure FieldManager where
  manager : String
  operation : String
  version : String
  time : String
  paths : List String

def FieldManager.entry (line : FieldManager) : Json :=
  managedEntry line.manager line.operation line.version line.time line.paths

/-- The entries of a ledger in which every manager occurs once. -/
structure ManagedBy (md : Json) (ledger : List FieldManager) : Prop where
  listed : (md.item "managedFields").asList = some (ledger.map FieldManager.entry)
  once : (ledger.map FieldManager.manager).Nodup
  named : ∀ line ∈ ledger, line.manager ≠ ""

def otherLines (manager : String) (ledger : List FieldManager) : List FieldManager :=
  ledger.filter fun line => line.manager ≠ manager

def otherThan (manager : String) (entry : Json) : Bool :=
  (entry.item "manager").truthy && decide (entry.item "manager" ≠ .str manager)

def managedEntries (md : Json) : List Json := (md.item "managedFields").asList.getD []

def othersOf (manager : String) (md : Json) : List Json :=
  (managedEntries md).filter (otherThan manager)

/-- What an update or an apply leaves of another manager's entry. -/
def restOf (fields : List String) (force : Bool) (entry : Json) : Option (Option Json) :=
  (managedPaths entry).bind fun known => strippedEntry fields force entry known.2

section Entries

theorem mem_otherLines
    {manager : String} {ledger : List FieldManager} {line : FieldManager} :
    line ∈ otherLines manager ledger ↔ line ∈ ledger ∧ line.manager ≠ manager := by
  simp [otherLines]

theorem otherLines_append (manager : String) (first second : List FieldManager) :
    otherLines manager (first ++ second) = otherLines manager first ++ otherLines manager second :=
  List.filter_append ..

@[simp] theorem item_manager_entry (line : FieldManager) :
    line.entry.item "manager" = .str line.manager := rfl

@[simp] theorem item_paths_entry (line : FieldManager) :
    line.entry.item "paths" = .list ((sortedPaths line.paths).map .str) := rfl

theorem otherThan_entry (manager : String) {line : FieldManager} (named : line.manager ≠ "") :
    otherThan manager line.entry = decide (line.manager ≠ manager) := by
  simp [otherThan, named]

theorem filter_otherThan_entries
    (manager : String) {ledger : List FieldManager} (named : ∀ line ∈ ledger, line.manager ≠ "") :
    (ledger.map FieldManager.entry).filter (otherThan manager) =
      (otherLines manager ledger).map FieldManager.entry := by
  rw [List.filter_map, otherLines]
  congr 1
  apply List.filter_congr
  intro line member
  exact otherThan_entry manager (named line member)

theorem sortedPaths_sortedPaths (paths : List String) :
    sortedPaths (sortedPaths paths) = sortedPaths paths := by
  have distinct : (sortedPaths paths).Nodup :=
    (List.perm_insertionSort _ _).nodup_iff.mpr (List.nodup_dedup paths)
  have sorted : (sortedPaths paths).Pairwise (· ≤ ·) := List.pairwise_insertionSort _ _
  calc sortedPaths (sortedPaths paths)
      = (sortedPaths paths).insertionSort (· ≤ ·) := by rw [sortedPaths, distinct.dedup]
    _ = sortedPaths paths := sorted.insertionSort_eq

theorem mem_sortedPaths (paths : List String) (path : String) :
    path ∈ sortedPaths paths ↔ path ∈ paths := by
  simp [sortedPaths]

theorem pathTexts_map_str (texts : List String) :
    pathTexts (texts.map .str) = some texts := by
  induction texts with
  | nil => rfl
  | cons text rest ih =>
      unfold pathTexts at ih ⊢
      simp [ih]

/-- An entry that lists paths is read back as these. -/
theorem managedPaths_entry
    {line : FieldManager} (named : line.manager ≠ "") (listed : sortedPaths line.paths ≠ []) :
    managedPaths line.entry = some (.str line.manager, (sortedPaths line.paths).map .str) := by
  have hashable : ∀ path, (Json.str path).hashable = true := fun _ => rfl
  simp [managedPaths, FieldManager.entry, managedEntry, Dict.get, Dict.find?_cons, named,
    Json.truthy, Json.iterate, listed, hashable]

/-- An update leaves the entry of another manager as it is. -/
theorem restOf_entry
    (fields : List String) {line : FieldManager} (named : line.manager ≠ "")
    (listed : sortedPaths line.paths ≠ []) :
    restOf fields false line.entry = some (some line.entry) := by
  rw [restOf, managedPaths_entry named listed]
  simp [strippedEntry, listed, pathTexts_map_str, sortedPaths_sortedPaths, FieldManager.entry,
    managedEntry, Json.entries, Dict.set]

theorem manager_of_managedPaths
    {entry : Json} {known : Json × List Json} (read : managedPaths entry = some known) :
    known.1 = if (entry.item "manager").truthy then entry.item "manager" else .null := by
  unfold managedPaths at read
  cases entry with
  | dict entries =>
      rw [Json.item_dict]
      dsimp only at read
      split at read
      · next anonymous =>
          rw [← Option.some.inj read, if_neg (by simpa using anonymous)]
      · next named =>
          rw [if_pos (by simpa using named)]
          obtain ⟨paths, -, read⟩ := Option.bind_eq_some_iff.mp read
          split at read
          · split at read
            · rw [← Option.some.inj read]
            · cases read
          · rw [← Option.some.inj read]
  | null | bool | int | float | str | list => cases read

theorem mapM_strippedEntry
    {manager : String} {fields : List String} {force : Bool} {managed : List Json}
    {paths : List (Json × List Json)} (read : managed.mapM managedPaths = some paths) :
    (((managed.zip paths).filter fun entry => entry.2.1.truthy).filter fun entry =>
        entry.2.1 ≠ .str manager).mapM
      (fun entry => strippedEntry fields force entry.1 entry.2.2) =
    (managed.filter (otherThan manager)).mapM (restOf fields force) := by
  induction managed generalizing paths with
  | nil => simp
  | cons entry rest ih =>
      simp only [List.mapM_cons, Option.bind_eq_bind, Option.pure_def,
        Option.bind_eq_some_iff, Option.some.injEq] at read
      obtain ⟨known, first, others, later, rfl⟩ := read
      have owner := manager_of_managedPaths first
      have kept : otherThan manager entry =
          (known.1.truthy && decide (known.1 ≠ .str manager)) := by
        rw [owner, otherThan]
        split
        · rfl
        · next anonymous => simp [anonymous]
      have rest := ih later
      simp only [List.zip_cons_cons, List.filter_cons, kept]
      cases truthy : known.1.truthy with
      | false => simpa [truthy] using rest
      | true =>
          by_cases other : known.1 = .str manager
          · simpa [truthy, other] using rest
          · simp only [if_true, other, Bool.true_and, ne_eq, not_false_eq_true, decide_true,
              List.filter_cons, List.mapM_cons, rest, restOf, first, Option.bind_some]

/-- The ledger after `_update_managed_fields`: what is left of the other entries, and
one of the acting manager with its old paths and the new ones. -/
theorem updateManagedFields_cases
    {md out : Dict} {version manager operation now : String} {fields : List String} {force : Bool}
    (updated : updateManagedFields md version manager operation now fields force = some out) :
    ∃ rests existing, (othersOf manager (.dict md)).mapM (restOf fields force) = some rests ∧
      out = Dict.set md "managedFields" (.list (rests.filterMap id ++
        [managedEntry manager operation version now (existing ++ fields)])) := by
  obtain ⟨managed, listed, updated⟩ := Option.bind_eq_some_iff.mp updated
  obtain ⟨paths, read, updated⟩ := Option.bind_eq_some_iff.mp updated
  obtain ⟨rests, left, updated⟩ := Option.bind_eq_some_iff.mp updated
  obtain ⟨existing, -, rfl⟩ := Option.map_eq_some_iff.mp updated
  refine ⟨rests, existing, ?_, rfl⟩
  rw [othersOf, managedEntries, Json.item_dict, listed, Option.getD_some,
    ← mapM_strippedEntry read]
  exact left

/-- An update keeps the entries of all others that list paths. -/
theorem mapM_restOf_entries
    (fields : List String) {ledger : List FieldManager}
    (named : ∀ line ∈ ledger, line.manager ≠ "")
    (listed : ∀ line ∈ ledger, sortedPaths line.paths ≠ []) :
    (ledger.map FieldManager.entry).mapM (restOf fields false) =
      some ((ledger.map FieldManager.entry).map some) := by
  induction ledger with
  | nil => rfl
  | cons line rest ih =>
      rw [List.forall_mem_cons] at named listed
      simp [restOf_entry fields named.1 listed.1, ih named.2 listed.2]

theorem mapM_restOf_of_none
    {fields : List String} {force : Bool} {entries : List Json} {rests : List (Option Json)}
    (left : entries.mapM (restOf fields force) = some rests)
    (none : ∀ entry ∈ entries, restOf fields force entry = some none) :
    rests.filterMap id = [] := by
  rw [List.filterMap_eq_nil_iff]
  intro rest member
  obtain ⟨entry, listed, same⟩ := (mem_of_mapM left rest).mp member
  exact (Option.some.inj ((none entry listed).symm.trans same)).symm

end Entries

/-! ## What a step does to the ledger -/

/-- What a manager leaves of another's entry: its entry, without the paths that a forced
apply takes over. -/
def leftEntry (forced : Bool) (paths : List String) (entry : Json) : Option Json :=
  if forced then (restOf paths true entry).join else some entry

/-- A manager has written paths to an object: every manager has one entry at most, the
manager's own lists the paths, and those of the others are as they were, up to paths
that are taken over. -/
structure KeepsManagers
    (before after : Json) (manager : String) (paths : List String)
    (forced : Bool) : Prop where
  once : ((managedEntries after).map fun entry => entry.item "manager").Nodup
  own : ∃ entry ∈ managedEntries after, entry.item "manager" = .str manager ∧
    ∀ path ∈ paths, .str path ∈ (entry.item "paths").items
  others : othersOf manager after = (othersOf manager before).filterMap (leftEntry forced paths)

section Ledgers

theorem ManagedBy.managedEntries_eq
    {md : Json} {ledger : List FieldManager} (managed : ManagedBy md ledger) :
    managedEntries md = ledger.map FieldManager.entry := by
  rw [managedEntries, managed.listed, Option.getD_some]

theorem ManagedBy.othersOf_eq
    {md : Json} {ledger : List FieldManager} (managed : ManagedBy md ledger) (manager : String) :
    othersOf manager md = (otherLines manager ledger).map FieldManager.entry := by
  rw [othersOf, managed.managedEntries_eq, filter_otherThan_entries manager managed.named]

theorem ManagedBy.nodup_managers
    {md : Json} {ledger : List FieldManager} (managed : ManagedBy md ledger) :
    ((managedEntries md).map fun entry => entry.item "manager").Nodup := by
  have names : (managedEntries md).map (fun entry => entry.item "manager") =
      (ledger.map FieldManager.manager).map Json.str := by
    rw [managed.managedEntries_eq, List.map_map, List.map_map]
    rfl
  rw [names]
  exact managed.once.map fun first second same => Json.str.inj same

/-- A manager that has an entry is not given another. -/
theorem ensureManagedFieldsEntry_of_mem
    {md : Dict} {ledger : List FieldManager} {line : FieldManager}
    (managed : ManagedBy (.dict md) ledger) (member : line ∈ ledger)
    (version operation now : String) (paths : List String) :
    ensureManagedFieldsEntry md version line.manager operation now paths = some md := by
  have listed := managed.listed
  rw [Json.item_dict] at listed
  have own : (ledger.map FieldManager.entry).any
      (fun field => field.item "manager" = .str line.manager) = true := by
    rw [List.any_eq_true]
    exact ⟨line.entry, List.mem_map_of_mem member, decide_eq_true rfl⟩
  rw [ensureManagedFieldsEntry, listed, Option.map_some, if_pos own]

/-- A new line at the end of the lines of others. -/
theorem managedBy_set
    {md : Dict} {others : List FieldManager} {line : FieldManager}
    (once : (others.map FieldManager.manager).Nodup)
    (named : ∀ other ∈ others, other.manager ≠ "")
    (apart : ∀ other ∈ others, other.manager ≠ line.manager) (acting : line.manager ≠ "") :
    ManagedBy (.dict (Dict.set md "managedFields"
      (.list (others.map FieldManager.entry ++ [line.entry])))) (others ++ [line]) := by
  constructor
  · simp [Json.asList, Json.or, Json.truthy]
  · rw [List.map_append, List.nodup_append]
    refine ⟨once, by simp, ?_⟩
    intro name member other own same
    obtain ⟨earlier, listed, rfl⟩ := List.mem_map.mp member
    simp only [List.map_cons, List.map_nil, List.mem_singleton] at own
    exact apart earlier listed (same.trans own)
  · intro other member
    rcases List.mem_append.mp member with earlier | own
    · exact named other earlier
    · rw [List.mem_singleton.mp own]
      exact acting

/-- Such a line keeps the managers, if the others are what was left of them. -/
theorem keepsManagers_set
    {before : Json} {md : Dict} {others : List FieldManager} {line : FieldManager}
    {paths : List String} {forced : Bool}
    (managed : ManagedBy (.dict (Dict.set md "managedFields"
      (.list (others.map FieldManager.entry ++ [line.entry])))) (others ++ [line]))
    (apart : ∀ other ∈ others, other.manager ≠ line.manager)
    (written : ∀ path ∈ paths, path ∈ line.paths)
    (left : others.map FieldManager.entry =
      (othersOf line.manager before).filterMap (leftEntry forced paths)) :
    KeepsManagers before (.dict (Dict.set md "managedFields"
      (.list (others.map FieldManager.entry ++ [line.entry])))) line.manager paths forced := by
  refine ⟨managed.nodup_managers, ⟨line.entry, ?_, rfl, fun path member => ?_⟩, ?_⟩
  · rw [managed.managedEntries_eq]
    simp
  · rw [item_paths_entry]
    exact List.mem_map.mpr ⟨path, (mem_sortedPaths _ _).mpr (written path member), rfl⟩
  · have kept : otherLines line.manager others = others :=
      List.filter_eq_self.mpr fun other member => decide_eq_true (apart other member)
    rw [managed.othersOf_eq, ← left, otherLines_append, kept]
    simp [otherLines]

end Ledgers

/-! ## Patches -/

namespace PatchRequest

variable {request : PatchRequest} {version now : String} {stored md : Json} {out : Dict}

/-- The paths that an apply records. -/
def appliedPaths (request : PatchRequest) : List String :=
  if request.paths.isEmpty then ["*"] else request.paths

def writtenPaths (request : PatchRequest) : List String :=
  if request.applies then request.appliedPaths else request.paths

/-- The line that a patch adds to the ledger. -/
def line
    (request : PatchRequest) (operation version now : String)
    (paths : List String) : FieldManager :=
  ⟨request.manager, operation, version, now, paths⟩

def forces (request : PatchRequest) : Bool := request.applies && request.force

/-- Server-side apply, a merge patch or the replacement by a document. -/
def RecordsFields (request : PatchRequest) : Prop :=
  (∃ entries, request.patch = .dict entries) ∧
    (request.applies = true ∨ request.ctype ∈ updateTypes)

/-- The condition under which a patch keeps the entries of the other managers.  An
update has to leave them in the document, where they have to list paths.  An apply has
to take over all of them: what is left is merged into itself. -/
def LeavesOthers (request : PatchRequest) (stored md : Json) : Prop :=
  if request.applies then
    (othersOf request.manager stored).filterMap
      (leftEntry request.force request.appliedPaths) = [] ∧
    ∀ merged, mergeDict stored.entries md.entries = some merged →
      ∀ entry ∈ othersOf request.manager (.dict merged),
        restOf request.appliedPaths request.force entry = some none
  else
    othersOf request.manager md = othersOf request.manager stored ∧
      ∀ entry ∈ othersOf request.manager stored, (entry.item "paths").truthy = true

theorem keeps_of_update
    {ledger : List FieldManager} {md : Dict} (managed : ManagedBy stored ledger)
    (acting : request.manager ≠ "")
    (same : othersOf request.manager (.dict md) = othersOf request.manager stored)
    (listed : ∀ entry ∈ othersOf request.manager stored, (entry.item "paths").truthy = true)
    (updated : updateManagedFields md version request.manager "Update" now request.paths
      false = some out) :
    KeepsManagers stored (.dict out) request.manager request.paths false ∧
      ∃ after, ManagedBy (.dict out) after := by
  obtain ⟨rests, existing, left, rfl⟩ := updateManagedFields_cases updated
  have others := managed.othersOf_eq request.manager
  have named : ∀ line ∈ otherLines request.manager ledger, line.manager ≠ "" :=
    fun line member => managed.named line (mem_otherLines.mp member).1
  have apart : ∀ line ∈ otherLines request.manager ledger, line.manager ≠ request.manager :=
    fun line member => (mem_otherLines.mp member).2
  have once : ((otherLines request.manager ledger).map FieldManager.manager).Nodup :=
    managed.once.sublist (List.filter_sublist.map FieldManager.manager)
  have paths : ∀ line ∈ otherLines request.manager ledger, sortedPaths line.paths ≠ [] := by
    intro line member empty
    have truthy := listed line.entry (others ▸ List.mem_map_of_mem member)
    simp [empty, Json.truthy] at truthy
  rw [same, others, mapM_restOf_entries request.paths named paths] at left
  have kept : rests.filterMap id = (otherLines request.manager ledger).map FieldManager.entry := by
    rw [← Option.some.inj left, List.filterMap_map]
    exact List.filterMap_some
  have after : ManagedBy (.dict (Dict.set md "managedFields" (.list
      ((otherLines request.manager ledger).map FieldManager.entry ++
        [(request.line "Update" version now (existing ++ request.paths)).entry])))) _ :=
    managedBy_set once named apart acting
  rw [kept]
  refine ⟨keepsManagers_set after apart (fun path member => ?_) ?_, _, after⟩
  · exact List.mem_append_right _ member
  · rw [line, others]
    exact List.filterMap_some.symm

/-- An apply that leaves no entry of another manager keeps the ledger. -/
theorem keeps_of_applied
    {md : Dict} (acting : request.manager ≠ "")
    (gone : (othersOf request.manager stored).filterMap
      (leftEntry request.force request.appliedPaths) = [])
    (taken : ∀ entry ∈ othersOf request.manager (.dict md),
      restOf request.appliedPaths request.force entry = some none)
    (applied : request.appliedMetadata version now md = some out) :
    KeepsManagers stored (.dict out) request.manager request.appliedPaths request.force ∧
      ∃ after, ManagedBy (.dict out) after := by
  obtain ⟨recorded, updated, ensured⟩ := Option.bind_eq_some_iff.mp applied
  rw [← appliedPaths] at updated ensured
  obtain ⟨rests, existing, left, rfl⟩ := updateManagedFields_cases updated
  rw [mapM_restOf_of_none left taken, List.nil_append] at ensured
  have after : ManagedBy (.dict (Dict.set md "managedFields" (.list
      (([] : List FieldManager).map FieldManager.entry ++
        [(request.line "Apply" version now (existing ++ request.appliedPaths)).entry]))))
      [request.line "Apply" version now (existing ++ request.appliedPaths)] :=
    managedBy_set List.nodup_nil (by simp) (by simp) acting
  have same : Dict.set md "managedFields" (.list
      [(request.line "Apply" version now (existing ++ request.appliedPaths)).entry]) = out := by
    have kept := ensureManagedFieldsEntry_of_mem after (List.mem_singleton_self _) version
      "Apply" now request.appliedPaths
    exact Option.some.inj (kept.symm.trans ensured)
  rw [← same]
  refine ⟨keepsManagers_set after (by simp) (fun path member => ?_) gone.symm, _, after⟩
  exact List.mem_append_right _ member

theorem keeps_of_metadata
    {ledger : List FieldManager} (managed : ManagedBy stored ledger)
    (acting : request.manager ≠ "") (records : request.RecordsFields)
    (leaves : request.LeavesOthers stored md)
    (made : request.metadata version now stored md = .ok out) :
    KeepsManagers stored (.dict out) request.manager request.writtenPaths request.forces ∧
      ∃ after, ManagedBy (.dict out) after := by
  unfold metadata at made
  unfold LeavesOthers at leaves
  unfold writtenPaths forces
  cases applies : request.applies with
  | true =>
      simp only [applies, if_true, Bool.true_and] at made leaves ⊢
      split at made
      · cases made
      · cases made
      · split at made
        · next _ _ entries given read =>
            obtain ⟨merged, mixed, applied⟩ :=
              Option.bind_eq_some_iff.mp (ok_of_orRaise made)
            rw [← entries_of_dictOf read] at mixed
            exact keeps_of_applied acting leaves.1 (leaves.2 merged mixed) applied
        · cases made
  | false =>
      simp only [applies, Bool.false_eq_true, if_false, Bool.false_and] at made leaves ⊢
      have updates : request.ctype ∈ updateTypes :=
        records.2.resolve_left (by simp [applies])
      split at made
      · rw [if_pos updates] at made
        exact keeps_of_update managed acting leaves.1 leaves.2 (ok_of_orRaise made)
      · cases made

end PatchRequest

end ApiShim
end K1s
