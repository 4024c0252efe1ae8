import K1s.ApiShim.Store
import K1s.Lib.Machine

/-!
# The resource versions of the object store

`upsert` gives a row the version of its caller, or else one more than the
greatest version in the SQLite table.  The table forgets the versions of the
objects that are deleted from it, so that a version can be given out twice: this
happens exactly when an object is written while the newest one is gone.

The PostgreSQL table draws its versions from a sequence.
-/

namespace K1s
namespace ApiShim

open Py Machine

/-! ## Writes -/

/-- The calls that change the table, with their arguments. -/
inductive StoreWrite
  | upsert
      (gvr : Gvr)
      (ns : Option String)
      (name : String)
      (metadata spec status : Json)
      (resourceVersion : Option Nat)
  | delete (gvr : Gvr) (ns : Option String) (name : String)

namespace ObjectStore

variable (store : ObjectStore)

/-- `resource_version or self._next_rv()`. -/
def assignedRv : Option Nat → Nat
  | some given => if given = 0 then store.nextRv else given
  | none => store.nextRv

/-- `upsert` with the version that the caller may give. -/
def upsertAt
    (gvr : Gvr) (ns : Option String) (name : String) (metadata spec status : Json)
    (resourceVersion : Option Nat) : K8sObject × ObjectStore :=
  let row : ObjectRow :=
    ⟨metadata, spec, status.or (.dict []), store.assignedRv resourceVersion⟩
  ({ row.object (gvr.key ns name) with ns := ns }, ⟨store.rows.insert (gvr.key ns name) row⟩)

/-- The table after a write. -/
def write : StoreWrite → ObjectStore
  | .upsert gvr ns name metadata spec status resourceVersion =>
      (store.upsertAt gvr ns name metadata spec status resourceVersion).2
  | .delete gvr ns name => (store.delete gvr ns name).2

theorem row?_upsertAt
    (gvr : Gvr) (ns : Option String) (name : String) (metadata spec status : Json)
    (resourceVersion : Option Nat) (key : ObjectKey) :
    (store.upsertAt gvr ns name metadata spec status resourceVersion).2.row? key =
      if gvr.key ns name = key then
        some ⟨metadata, spec, status.or (.dict []), store.assignedRv resourceVersion⟩
      else store.row? key := by
  simp [upsertAt, row?, Std.TreeMap.getElem?_insert]

/-! ## The next version -/

/-- The greatest version is the start or the version of an entry. -/
theorem foldl_max_attained (entries : List (ObjectKey × ObjectRow)) (start : Nat) :
    entries.foldl (fun greatest entry => max greatest entry.2.rv) start = start ∨
      ∃ entry ∈ entries,
        entries.foldl (fun greatest entry => max greatest entry.2.rv) start = entry.2.rv := by
  induction entries generalizing start with
  | nil => exact .inl rfl
  | cons first rest ih =>
      rw [List.foldl_cons]
      rcases ih (max start first.2.rv) with same | ⟨entry, member, same⟩
      · rcases max_choice start first.2.rv with before | here
        · exact .inl (same.trans before)
        · exact .inr ⟨first, List.mem_cons_self, same.trans here⟩
      · exact .inr ⟨entry, List.mem_cons_of_mem _ member, same⟩

/-- A version is below the next one exactly when a row has it or a greater one. -/
theorem lt_nextRv_iff {version : Nat} (positive : 0 < version) :
    version < store.nextRv ↔ ∃ key row, store.row? key = some row ∧ version ≤ row.rv := by
  constructor
  · intro below
    rw [nextRv, Std.TreeMap.foldl_eq_foldl_toList] at below
    rcases foldl_max_attained store.rows.toList 0 with same | ⟨⟨key, row⟩, member, same⟩
    · omega
    · refine ⟨key, row, Std.TreeMap.mem_toList_iff_getElem?_eq_some.mp member, ?_⟩
      rw [same] at below
      exact Nat.lt_succ_iff.mp below
  · rintro ⟨key, row, stored, atMost⟩
    exact lt_of_le_of_lt atMost (rv_lt_nextRv stored)

theorem nextRv_pos : 0 < store.nextRv := Nat.succ_pos _

theorem assignedRv_pos (given : Option Nat) : 0 < store.assignedRv given := by
  cases given with
  | none => exact store.nextRv_pos
  | some version =>
      rw [assignedRv]
      split
      · exact store.nextRv_pos
      · omega

end ObjectStore

/-! ## Histories -/

/-- The table, and every version that has been assigned. -/
structure VersionHistory where
  store : ObjectStore
  assigned : List Nat
  positive : ∀ version ∈ assigned, 0 < version
  known : ∀ key row, store.row? key = some row → row.rv ∈ assigned

namespace VersionHistory

/-- A table that has never been written. -/
def empty : VersionHistory where
  store := .empty
  assigned := []
  positive := nofun
  known := by simp

variable (history : VersionHistory)

/-- A write is carried out, and the version that it assigns is remembered. -/
def write : StoreWrite → VersionHistory
  | .upsert gvr ns name metadata spec status resourceVersion =>
      { store :=
          (history.store.upsertAt gvr ns name metadata spec status resourceVersion).2
        assigned := history.store.assignedRv resourceVersion :: history.assigned
        positive := by
          intro version member
          rcases List.mem_cons.mp member with rfl | earlier
          · exact history.store.assignedRv_pos resourceVersion
          · exact history.positive version earlier
        known := by
          intro key row stored
          rw [ObjectStore.row?_upsertAt] at stored
          split at stored
          · obtain rfl := Option.some.inj stored
            exact List.mem_cons_self
          · exact List.mem_cons_of_mem _ (history.known key row stored) }
  | .delete gvr ns name =>
      { store := (history.store.delete gvr ns name).2
        assigned := history.assigned
        positive := history.positive
        known := by
          intro key row stored
          rw [ObjectStore.row?_delete] at stored
          split at stored
          · cases stored
          · exact history.known key row stored }

def step (write : StoreWrite) : Option VersionHistory :=
  some (history.write write)

/-- The write assigns a version above all that have been assigned before. -/
def AssignsNewest : StoreWrite → Prop
  | .upsert _ _ _ _ _ _ resourceVersion =>
      ∀ earlier ∈ history.assigned, earlier < history.store.assignedRv resourceVersion
  | .delete _ _ _ => True

/-- A write that draws its version finds the greatest version so far, or a greater
one, in the table; one that brings its version brings a new greatest one. -/
def FindsNewest : StoreWrite → Prop
  | .upsert _ _ _ _ _ _ resourceVersion =>
      (resourceVersion.getD 0 = 0 → ∀ earlier ∈ history.assigned,
        ∃ key row, history.store.row? key = some row ∧ earlier ≤ row.rv) ∧
      (resourceVersion.getD 0 ≠ 0 → ∀ earlier ∈ history.assigned, earlier < resourceVersion.getD 0)
  | .delete _ _ _ => True

theorem assignsNewest_iff (write : StoreWrite) :
    history.AssignsNewest write ↔ history.FindsNewest write := by
  cases write with
  | delete => rfl
  | upsert gvr ns name metadata spec status resourceVersion =>
      have drawn : (∀ earlier ∈ history.assigned, earlier < history.store.nextRv) ↔
          ∀ earlier ∈ history.assigned,
            ∃ key row, history.store.row? key = some row ∧ earlier ≤ row.rv :=
        forall₂_congr fun earlier member =>
          history.store.lt_nextRv_iff (history.positive earlier member)
      rcases resourceVersion with _ | given
      · simp [AssignsNewest, FindsNewest, ObjectStore.assignedRv, drawn]
      · by_cases zero : given = 0
        · simp [AssignsNewest, FindsNewest, ObjectStore.assignedRv, drawn, zero]
        · simp [AssignsNewest, FindsNewest, ObjectStore.assignedRv, zero]

/-- Every version is above those before it in exactly those sequences of writes in
which no object is written while the newest one is gone. -/
theorem assignsNewest_along_iff (history : VersionHistory) (writes : List StoreWrite) :
    Along step AssignsNewest history writes ↔ Along step FindsNewest history writes :=
  along_iff_of_invariant (fun _ _ _ _ _ => trivial)
    (fun state write _ => assignsNewest_iff state write) trivial writes

/-- A ConfigMap without content. -/
def writeConfigMap (name : String) : StoreWrite :=
  .upsert ⟨"", "v1", "configmaps"⟩ (some "default") name (.dict []) (.dict []) .null none

/-- The newest object is deleted, and the next one gets its version. -/
theorem not_assignsNewest_afterDeletion :
    ¬ Along step AssignsNewest .empty [writeConfigMap "first", writeConfigMap "second",
        .delete ⟨"", "v1", "configmaps"⟩ (some "default") "second", writeConfigMap "third"] := by
  intro along
  obtain ⟨-, along⟩ := along
  obtain ⟨-, along⟩ := along _ rfl
  obtain ⟨-, along⟩ := along _ rfl
  obtain ⟨newest, -⟩ := along _ rfl
  have below := newest 2 (by decide +kernel)
  revert below
  decide +kernel

end VersionHistory

end ApiShim
end K1s
