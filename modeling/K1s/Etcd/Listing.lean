import K1s.Etcd.Store

/-!
# Listings of typed records

`_list_prefix` for a store whose records are kept as values of a type of their own.
The rows of a range come in the order of their keys, so they are determined by the
values of the keys in the range.
-/

namespace K1s
namespace Etcd

variable {V : Type}

/-- The order of the rows of a range. -/
def rowLe (first second : Key × V) : Bool :=
  decide (KeyRange.utf8 first.1 ≤ KeyRange.utf8 second.1)

/-- The rows of a range in the order of their keys. -/
def rowsUnder (records : Dictionary Key V) (start : Key) : List (Key × V) :=
  (records.entries.filter fun entry => Store.inPrefix start entry.1).mergeSort rowLe

theorem mem_rowsUnder (records : Dictionary Key V) (start key : Key) (value : V) :
    (key, value) ∈ rowsUnder records start ↔ records.find? key = some value ∧ start <+: key := by
  rw [rowsUnder, List.mem_mergeSort, List.mem_filter, Store.inPrefix_iff]
  exact and_congr_left' (records.find?_eq_some_iff key value).symm

/-- The rows of a range have distinct keys. -/
theorem nodup_rowsUnder (records : Dictionary Key V) (start : Key) :
    ((rowsUnder records start).map Prod.fst).Nodup := by
  have rows := (List.mergeSort_perm
    (records.entries.filter fun entry => Store.inPrefix start entry.1) rowLe).map Prod.fst
  exact rows.nodup_iff.mpr (records.distinct.sublist (List.filter_sublist.map Prod.fst))

theorem sorted_rowsUnder (records : Dictionary Key V) (start : Key) :
    (rowsUnder records start).Pairwise fun first second => rowLe first second = true := by
  refine List.pairwise_mergeSort ?_ ?_ _
  · intro first second third before after
    simp only [rowLe, decide_eq_true_eq] at *
    exact List.le_trans before after
  · intro first second
    simpa [rowLe] using List.le_total (KeyRange.utf8 first.1) (KeyRange.utf8 second.1)

/-- Rows with distinct keys are determined by their order. -/
theorem rows_eq_of_mem_iff
    {first second : List (Key × V)} (same : ∀ row, row ∈ first ↔ row ∈ second)
    (firstDistinct : (first.map Prod.fst).Nodup) (secondDistinct : (second.map Prod.fst).Nodup)
    (firstSorted : first.Pairwise fun one two => rowLe one two = true)
    (secondSorted : second.Pairwise fun one two => rowLe one two = true) :
    first = second := by
  have permuted : first.Perm second :=
    (List.perm_ext_iff_of_nodup firstDistinct.of_map secondDistinct.of_map).mpr same
  refine permuted.eq_of_pairwise ?_ firstSorted secondSorted
  intro one two inFirst inSecond before after
  simp only [rowLe, decide_eq_true_eq] at before after
  have sameKey : one.1 = two.1 := Store.utf8_injective (List.le_antisymm before after)
  exact List.inj_on_of_nodup_map firstDistinct inFirst (permuted.mem_iff.mpr inSecond) sameKey

/-- A store that changes the values of a range in place lists the changed rows. -/
theorem rowsUnder_of_change
    {first second : Dictionary Key V} {start : Key} (change : V → V)
    (changed : ∀ key, start <+: key → second.find? key = (first.find? key).map change) :
    rowsUnder second start = (rowsUnder first start).map fun row => (row.1, change row.2) := by
  have sameKeys : ((rowsUnder first start).map fun row => (row.1, change row.2)).map Prod.fst =
      (rowsUnder first start).map Prod.fst := by
    rw [List.map_map]
    rfl
  refine rows_eq_of_mem_iff ?_ (nodup_rowsUnder second start) ?_ (sorted_rowsUnder second start) ?_
  · rintro ⟨key, value⟩
    rw [mem_rowsUnder, List.mem_map]
    constructor
    · rintro ⟨found, starts⟩
      rw [changed key starts] at found
      obtain ⟨old, present, rfl⟩ := Option.map_eq_some_iff.mp found
      exact ⟨(key, old), (mem_rowsUnder first start key old).mpr ⟨present, starts⟩, rfl⟩
    · rintro ⟨⟨other, old⟩, listed, same⟩
      obtain ⟨rfl, rfl⟩ := Prod.mk.inj same
      obtain ⟨present, starts⟩ := (mem_rowsUnder first start other old).mp listed
      exact ⟨by rw [changed other starts, present]; rfl, starts⟩
  · rw [sameKeys]
    exact nodup_rowsUnder first start
  · rw [List.pairwise_map]
    exact sorted_rowsUnder first start

/-! ## Writing many keys -/

def putRows (records : Dictionary Key V) (rows : List (Key × V)) : Dictionary Key V :=
  rows.foldl (fun store row => store.set row.1 row.2) records

theorem find?_putRows_of_not_mem
    (records : Dictionary Key V) {rows : List (Key × V)} {key : Key}
    (absent : key ∉ rows.map Prod.fst) :
    (putRows records rows).find? key = records.find? key := by
  induction rows generalizing records with
  | nil => rfl
  | cons row rest ih =>
      rw [List.map_cons, List.mem_cons, not_or] at absent
      have kept := ih (records.set row.1 row.2) absent.2
      rw [Dictionary.find?_set, if_neg (Ne.symm absent.1)] at kept
      exact kept

theorem find?_putRows_of_mem
    (records : Dictionary Key V) {rows : List (Key × V)}
    (distinct : (rows.map Prod.fst).Nodup) {key : Key} {value : V}
    (listed : (key, value) ∈ rows) : (putRows records rows).find? key = some value := by
  induction rows generalizing records with
  | nil => cases listed
  | cons row rest ih =>
      obtain ⟨absent, others⟩ := List.nodup_cons.mp distinct
      rcases List.mem_cons.mp listed with rfl | later
      · have put := find?_putRows_of_not_mem (records.set key value) absent
        rw [Dictionary.find?_set, if_pos rfl] at put
        exact put
      · exact ih _ others later

end Etcd
end K1s
