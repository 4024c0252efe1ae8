import K1s.Lib.Program
import K1s.Py.Json

/-!
# The object store of the API shim

`ObjectStore` keeps one row for every object in a SQLite table whose primary key
is the group, version, resource, namespace and name.  Each method holds the
store's lock, so that a method call is one atomic operation; `StoreOp` names
these operations for the programs that run against the store.

`upsert` overwrites the row without looking at the version that the caller has
read.  The operation records the copy that the caller started from.  The store
does not see it; it serves to say which writes are based on the stored object.
-/

namespace K1s
namespace ApiShim

open Py

/-- The group, version and plural name of a kind of object. -/
structure Gvr where
  group : String
  version : String
  resource : String
  deriving DecidableEq

/-- The primary key of the `objects` table. -/
structure ObjectKey where
  gvr : Gvr
  ns : String
  name : String
  deriving DecidableEq

namespace ObjectKey

/-- The key columns in the order of the index. -/
def columns (key : ObjectKey) : List String :=
  [key.gvr.group, key.gvr.version, key.gvr.resource, key.ns, key.name]

theorem columns_injective : Function.Injective columns := by
  rintro ⟨⟨group, version, resource⟩, ns, name⟩
    ⟨⟨otherGroup, otherVersion, otherResource⟩, otherNs, otherName⟩ equal
  simp only [columns, List.cons.injEq, and_true] at equal
  obtain ⟨rfl, rfl, rfl, rfl, rfl⟩ := equal
  rfl

instance : Ord ObjectKey := ⟨fun first second =>
  compare first.columns second.columns⟩

instance : Std.TransOrd ObjectKey where
  eq_swap {first second} :=
    Std.OrientedOrd.eq_swap (a := first.columns) (b := second.columns)
  isLE_trans {first second third} :=
    Std.TransOrd.isLE_trans (a := first.columns) (b := second.columns) (c := third.columns)

instance : Std.LawfulEqOrd ObjectKey where
  compare_self {key} := Std.ReflOrd.compare_self (a := key.columns)
  eq_of_compare equal :=
    columns_injective (Std.LawfulEqOrd.eq_of_compare equal)

end ObjectKey

/-- The other columns of a row. -/
structure ObjectRow where
  metadata : Json
  spec : Json
  status : Json
  rv : Nat
  deriving DecidableEq

/-- An object as the methods return it. -/
structure K8sObject where
  gvr : Gvr
  ns : Option String
  name : String
  metadata : Json
  spec : Json
  status : Json
  resourceVersion : Nat
  deriving DecidableEq

/-- The key of a method's arguments: `namespace or ""`. -/
def Gvr.key (gvr : Gvr) (ns : Option String) (name : String) : ObjectKey :=
  ⟨gvr, ns.getD "", name⟩

def K8sObject.key (object : K8sObject) : ObjectKey :=
  object.gvr.key object.ns object.name

def ObjectRow.object (row : ObjectRow) (key : ObjectKey) : K8sObject where
  gvr := key.gvr
  ns := some key.ns
  name := key.name
  metadata := row.metadata
  spec := row.spec
  status := row.status
  resourceVersion := row.rv

/-- The `objects` table. -/
structure ObjectStore where
  rows : Std.TreeMap ObjectKey ObjectRow compare

namespace ObjectStore

def empty : ObjectStore := ⟨∅⟩

variable (store : ObjectStore)

def row? (key : ObjectKey) : Option ObjectRow :=
  store.rows[key]?

/-- The greatest version in the table, and one more. -/
def nextRv : Nat :=
  store.rows.foldl (fun greatest _ row => max greatest row.rv) 0 + 1

def get
    (gvr : Gvr) (ns : Option String)
    (name : String) : Option K8sObject :=
  (store.row? (gvr.key ns name)).map fun row =>
    row.object (gvr.key ns name)

/-- Every object of a kind, in the order of namespace and name. -/
def listAll (gvr : Gvr) : List K8sObject :=
  (store.rows.toList.filter fun entry => entry.1.gvr = gvr).map fun entry =>
    entry.2.object entry.1

/-- The objects of a kind in one namespace, in the order of their names. -/
def list
    (gvr : Gvr)
    (ns : Option String) : List K8sObject :=
  (store.listAll gvr).filter fun object =>
    object.ns = some (ns.getD "")

/-- Insert or replace a row under a new version.  `status or {}` is stored for
the status. -/
def upsert
    (gvr : Gvr) (ns : Option String) (name : String)
    (metadata spec status : Json) : K8sObject × ObjectStore :=
  let row : ObjectRow :=
    ⟨metadata, spec, status.or (.dict []), store.nextRv⟩
  ({ row.object (gvr.key ns name) with ns := ns }, ⟨store.rows.insert (gvr.key ns name) row⟩)

/-- Remove a row, and whether there was one. -/
def delete
    (gvr : Gvr) (ns : Option String)
    (name : String) : Bool × ObjectStore :=
  ((store.row? (gvr.key ns name)).isSome, ⟨store.rows.erase (gvr.key ns name)⟩)

@[simp] theorem row?_empty (key : ObjectKey) : empty.row? key = none := by
  simp [empty, row?]

theorem row?_upsert
    (gvr : Gvr) (ns : Option String) (name : String) (metadata spec status : Json)
    (key : ObjectKey) :
    (store.upsert gvr ns name metadata spec status).2.row? key =
      if gvr.key ns name = key then
        some ⟨metadata, spec, status.or (.dict []), store.nextRv⟩
      else store.row? key := by
  simp [upsert, row?, Std.TreeMap.getElem?_insert]

theorem row?_delete (gvr : Gvr) (ns : Option String) (name : String) (key : ObjectKey) :
    (store.delete gvr ns name).2.row? key =
      if gvr.key ns name = key then none else store.row? key := by
  simp [delete, row?, Std.TreeMap.getElem?_erase]

theorem le_foldl_max (entries : List (ObjectKey × ObjectRow)) (start : Nat) :
    start ≤ entries.foldl (fun greatest entry => max greatest entry.2.rv) start ∧
      ∀ entry ∈ entries, entry.2.rv ≤
        entries.foldl (fun greatest entry => max greatest entry.2.rv) start := by
  induction entries generalizing start with
  | nil => simp
  | cons first rest ih =>
      obtain ⟨above, each⟩ := ih (max start first.2.rv)
      simp only [List.foldl_cons]
      refine ⟨le_trans (le_max_left ..) above, fun entry member => ?_⟩
      rcases List.mem_cons.mp member with rfl | later
      · exact le_trans (le_max_right ..) above
      · exact each entry later

/-- A new version is greater than those of all rows. -/
theorem rv_lt_nextRv
    {store : ObjectStore} {key : ObjectKey} {row : ObjectRow}
    (stored : store.row? key = some row) : row.rv < store.nextRv := by
  have member : (key, row) ∈ store.rows.toList :=
    Std.TreeMap.mem_toList_iff_getElem?_eq_some.mpr stored
  rw [nextRv, Std.TreeMap.foldl_eq_foldl_toList]
  exact Nat.lt_succ_of_le ((le_foldl_max store.rows.toList 0).2 (key, row) member)

theorem mem_listAll (gvr : Gvr) (object : K8sObject) :
    object ∈ store.listAll gvr ↔ ∃ key row, store.row? key = some row ∧ key.gvr = gvr ∧
        row.object key = object := by
  simp only [listAll, List.mem_map, List.mem_filter, decide_eq_true_eq,
    Prod.exists, Std.TreeMap.mem_toList_iff_getElem?_eq_some, row?]
  constructor
  · rintro ⟨key, row, ⟨stored, kind⟩, equal⟩
    exact ⟨key, row, stored, kind, equal⟩
  · rintro ⟨key, row, stored, kind, equal⟩
    exact ⟨key, row, ⟨stored, kind⟩, equal⟩

/-- The objects of a namespace are the rows of the kind and the namespace. -/
theorem mem_list (gvr : Gvr) (ns : Option String) (object : K8sObject) :
    object ∈ store.list gvr ns ↔
      ∃ key row, store.row? key = some row ∧ key.gvr = gvr ∧ key.ns = ns.getD "" ∧
        row.object key = object := by
  rw [list, List.mem_filter, mem_listAll, decide_eq_true_eq]
  constructor
  · rintro ⟨⟨key, row, stored, kind, rfl⟩, within⟩
    exact ⟨key, row, stored, kind, Option.some.inj within, rfl⟩
  · rintro ⟨key, row, stored, kind, within, rfl⟩
    exact ⟨⟨key, row, stored, kind, rfl⟩, congrArg some within⟩

end ObjectStore

theorem object_inj {row other : ObjectRow} {key otherKey : ObjectKey} :
    row.object key = other.object otherKey ↔ row = other ∧ key = otherKey := by
  constructor
  · obtain ⟨metadata, spec, status, rv⟩ := row
    obtain ⟨gvr, ns, name⟩ := key
    intro same
    simp only [ObjectRow.object, K8sObject.mk.injEq, Option.some.injEq] at same
    obtain ⟨rfl, rfl, rfl, rfl, rfl, rfl, rfl⟩ := same
    exact ⟨rfl, rfl⟩
  · rintro ⟨rfl, rfl⟩
    rfl

/-! ## The methods as operations of programs -/

/-- One method call. -/
inductive StoreOp
  | get (gvr : Gvr) (ns : Option String) (name : String)
  | list (gvr : Gvr) (ns : Option String)
  | listAll (gvr : Gvr)
  /-- `basis` is the stored object that the new content was computed from, and
  `none` for an object that the caller takes to be new. -/
  | upsert
      (basis : Option K8sObject)
      (gvr : Gvr)
      (ns : Option String)
      (name : String)
      (metadata spec status : Json)
  | delete (gvr : Gvr) (ns : Option String) (name : String)

namespace StoreOp

/-- What a call returns. -/
def Reply : StoreOp → Type
  | .get _ _ _ => Option K8sObject
  | .list _ _ => List K8sObject
  | .listAll _ => List K8sObject
  | .upsert _ _ _ _ _ _ _ => K8sObject
  | .delete _ _ _ => Bool

/-- The effect of a call on the table. -/
def execute : (operation : StoreOp) → ObjectStore → operation.Reply × ObjectStore
  | .get gvr ns name, store => (store.get gvr ns name, store)
  | .list gvr ns, store => (store.list gvr ns, store)
  | .listAll gvr, store => (store.listAll gvr, store)
  | .upsert _ gvr ns name metadata spec status, store =>
      store.upsert gvr ns name metadata spec status
  | .delete gvr ns name, store => store.delete gvr ns name

/-- A call that does not write. -/
def isRead : StoreOp → Bool
  | .get _ _ _ | .list _ _ | .listAll _ => true
  | _ => false

theorem execute_of_isRead
    {operation : StoreOp} (read : operation.isRead = true) (store : ObjectStore) :
    (operation.execute store).2 = store := by
  cases operation with
  | get | list | listAll => rfl
  | upsert | delete => simp [isRead] at read

end StoreOp

end ApiShim
end K1s
