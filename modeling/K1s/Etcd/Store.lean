import K1s.Lib.Dictionary
import K1s.Lib.KeyRange
import K1s.Py.Text

/-!
# The etcd client of the state store

`EtcdStateStore` in `controller/etcd_state.py` keeps every record as a JSON
object under a slash-separated key.  This module has the requests it sends:
reading, writing and deleting one key, creating a key that is absent, and
listing or deleting the range of a key prefix.

A key is kept as its characters.  Ranges are those of the UTF-8 bytes, as the
client computes them.
-/

namespace K1s
namespace Etcd

open Py (Dict Json)

abbrev Key := List Char

/-! ## Keys -/

variable (part : String)

/-- `part.strip("/")`. -/
def clean : List Char :=
  (part.toList.dropWhile (· == '/')).rdropWhile (· == '/')

/-- `"/".join(parts)`. -/
def joinSlash : List (List Char) → List Char
  | [] => []
  | first :: rest => first ++ rest.flatMap fun part => '/' :: part

/-- `EtcdStateStore._k`: empty parts are left out, the others lose their outer
slashes.  `root` is the configured prefix, already stripped. -/
def k (root : String) (parts : List String) : Key :=
  let cleaned := (parts.filter (· ≠ "")).map clean
  if root = "" then joinSlash cleaned else joinSlash (root.toList :: cleaned)

/-- What a part adds to a key that has begun. -/
def segment : List Char :=
  if part = "" then [] else '/' :: clean part

/-- What the configured prefix puts before the first part. -/
def rootPart (root : String) : List Char :=
  if root = "" then [] else root.toList ++ ['/']

@[simp] theorem segment_empty : segment "" = [] := rfl

theorem segment_of_ne {part : String} (named : part ≠ "") :
    segment part = '/' :: clean part := if_neg named

/-- A key is its first part and one segment for every other. -/
theorem k_cons (root first : String) (rest : List String) (named : first ≠ "") :
    k root (first :: rest) = rootPart root ++ clean first ++ rest.flatMap segment := by
  have segments : ∀ parts : List String,
      ((parts.filter (· ≠ "")).map clean).flatMap (fun part => '/' :: part) =
        parts.flatMap segment := by
    intro parts
    induction parts with
    | nil => rfl
    | cons part others ih =>
        by_cases empty : part = ""
        · simp [empty, ← ih]
        · simp only [ne_eq, empty, not_false_eq_true, decide_true, List.filter_cons_of_pos,
            List.map_cons, List.flatMap_cons, segment_of_ne empty, ← ih]
  simp only [k, rootPart, ne_eq, named, not_false_eq_true, decide_true,
    List.filter_cons_of_pos, List.map_cons, joinSlash, List.flatMap_cons]
  split
  · simp [← segments]
  · simp [← segments]

/-- A longer list of parts gives a longer key. -/
theorem k_append (root first : String) (rest more : List String) (named : first ≠ "") :
    k root (first :: rest ++ more) = k root (first :: rest) ++ more.flatMap segment := by
  rw [List.cons_append, k_cons root first _ named, k_cons root first _ named]
  simp

/-! ## The outer slashes of a cleaned part -/

/-- A cleaned part does not start with a slash. -/
theorem head?_clean : (clean part).head? ≠ some '/' := by
  have start : (part.toList.dropWhile (· == '/')).head? ≠ some '/' := by
    intro slash
    have := List.head?_dropWhile_not (· == '/') part.toList
    simp [slash] at this
  intro slash
  obtain ⟨rest, whole⟩ := List.rdropWhile_prefix (· == '/') (l := part.toList.dropWhile (· == '/'))
  refine start ?_
  rw [← whole]
  change ((clean part) ++ rest).head? = some '/'
  cases body : clean part with
  | nil => simp [body] at slash
  | cons head tail => simpa [body] using slash

/-- A cleaned part does not end with a slash. -/
theorem getLast?_clean : (clean part).getLast? ≠ some '/' := by
  intro slash
  have last : '/' ∈ (clean part).getLast? := slash
  obtain ⟨nonempty, ends⟩ := List.mem_getLast?_eq_getLast last
  have := List.rdropWhile_last_not (· == '/') (part.toList.dropWhile (· == '/')) nonempty
  change ¬ ((clean part).getLast nonempty == '/') = true at this
  simp [← ends] at this

/-- A text without outer slashes is left as it is. -/
theorem clean_ofList
    {text : List Char} (start : text.head? ≠ some '/') (finish : text.getLast? ≠ some '/') :
    clean (String.ofList text) = text := by
  have opened : text.dropWhile (· == '/') = text := by
    cases text with
    | nil => rfl
    | cons head tail =>
        have other : ¬ head = '/' := by simpa using start
        simp [other]
  rw [clean, String.toList_ofList, opened, List.rdropWhile_eq_self_iff]
  intro nonempty
  have last : text.getLast nonempty ≠ '/' := by
    rw [List.getLast?_eq_getLast_of_ne_nil nonempty] at finish
    simpa using finish
  simpa using last

/-- A part without slashes is left as it is. -/
theorem clean_of_no_slash {part : String} (none : '/' ∉ part.toList) :
    clean part = part.toList := by
  have start : part.toList.head? ≠ some '/' := fun slash =>
    none (List.mem_of_head? slash)
  have finish : part.toList.getLast? ≠ some '/' := fun slash =>
    none (List.mem_of_getLast? slash)
  have kept := clean_ofList start finish
  rwa [String.ofList_toList] at kept

/-- Segments are nothing or start with a slash. -/
theorem flatMap_segment (parts : List String) :
    parts.flatMap segment = [] ∨ ∃ rest, parts.flatMap segment = '/' :: rest := by
  induction parts with
  | nil => exact .inl rfl
  | cons part others ih =>
      by_cases empty : part = ""
      · simpa [empty] using ih
      · exact .inr ⟨clean part ++ others.flatMap segment, by
          simp [segment_of_ne empty]⟩

/-- The characters before the first slash. -/
theorem takeWhile_append_slash {first rest : List Char} (none : '/' ∉ first) :
    (first ++ '/' :: rest).takeWhile (· ≠ '/') = first := by
  rw [List.takeWhile_append_of_pos]
  · simp
  · intro char member
    simpa using fun same : char = '/' => none (same ▸ member)

theorem takeWhile_append_segments
    {first : List Char} (none : '/' ∉ first) (parts : List String) :
    (first ++ parts.flatMap segment).takeWhile (· ≠ '/') = first := by
  rcases flatMap_segment parts with empty | ⟨rest, slash⟩
  · rw [empty, List.append_nil, List.takeWhile_eq_self_iff]
    intro char member
    simpa using fun same : char = '/' => none (same ▸ member)
  · rw [slash, takeWhile_append_slash none]

/-! ## Requests -/

/-- A field of a record, with the default of `rec.get`. -/
def field (record : Dict) (name : String) (default : Json) : Json :=
  (Dict.find? record name).getD default

/-- A stored object and the revision of its last write. -/
structure Value where
  payload : Dict
  modRevision : Nat
  deriving DecidableEq

/-- The key-value pairs and the revision of the last change. -/
structure Store where
  kvs : Dictionary Key Value
  revision : Nat

namespace Store

/-- A store without keys. -/
def empty : Store := ⟨Dictionary.empty, 1⟩

def find? (store : Store) (key : Key) : Option Value :=
  store.kvs.find? key

variable (store : Store)

/-- `_get_json`, without the revision 0 of a missing key. -/
def getJson (key : Key) : Option (Dict × Nat) :=
  (store.find? key).map fun value => (value.payload, value.modRevision)

def putJson (key : Key) (payload : Dict) : Store where
  kvs := store.kvs.set key ⟨payload, store.revision + 1⟩
  revision := store.revision + 1

def createJsonIfAbsent (key : Key) (payload : Dict) : Bool × Store :=
  match store.find? key with
  | some _ => (false, store)
  | none => (true, store.putJson key payload)

def delete (key : Key) : Store :=
  match store.find? key with
  | some _ => { kvs := store.kvs.drop key, revision := store.revision + 1 }
  | none => store

/-- The key lies in the range that the client asks for with a prefix. -/
def inPrefix (start key : Key) : Bool :=
  decide (KeyRange.InRange (KeyRange.utf8 start)
    (KeyRange.prefixEnd (KeyRange.utf8 start)) (KeyRange.utf8 key))

def deletePrefix (start : Key) : Store where
  kvs := store.kvs.keep fun key => !inPrefix start key
  revision := store.revision + 1

/-- The order in which a range is returned. -/
def keyLe (first second : Key × Value) : Bool :=
  decide (KeyRange.utf8 first.1 ≤ KeyRange.utf8 second.1)

/-- `_list_prefix`: the pairs of the range in the order of their keys. -/
def listPrefix (start : Key) : List (Key × Value) :=
  (store.kvs.entries.filter fun entry => inPrefix start entry.1).mergeSort keyLe

/-! ## What the requests do to a key -/

theorem inPrefix_iff (start key : Key) : inPrefix start key = true ↔ start <+: key := by
  simp [inPrefix, KeyRange.inRange_utf8_iff]

@[simp] theorem find?_putJson (key other : Key) (payload : Dict) :
    (store.putJson key payload).find? other =
      if key = other then some ⟨payload, store.revision + 1⟩ else store.find? other := by
  simp [putJson, find?]

@[simp] theorem find?_delete (key other : Key) :
    (store.delete key).find? other = if key = other then none else store.find? other := by
  unfold delete
  split
  · simp [find?]
  · rename_i absent
    split
    · rename_i same
      rw [← same, absent]
    · rfl

theorem find?_deletePrefix (start key : Key) :
    (store.deletePrefix start).find? key =
      if start <+: key then none else store.find? key := by
  by_cases starts : start <+: key
  · simp [deletePrefix, find?, starts, (inPrefix_iff start key).mpr starts]
  · have outside : inPrefix start key = false :=
      Bool.eq_false_iff.mpr fun within => starts ((inPrefix_iff start key).mp within)
    simp [deletePrefix, find?, starts, outside]

theorem mem_listPrefix (start key : Key) (value : Value) :
    (key, value) ∈ store.listPrefix start ↔ store.find? key = some value ∧ start <+: key := by
  rw [listPrefix, List.mem_mergeSort, List.mem_filter, inPrefix_iff]
  exact and_congr_left' (store.kvs.find?_eq_some_iff key value).symm

/-! ## A listing depends on the values of its keys only -/

theorem utf8_injective : Function.Injective KeyRange.utf8 := by
  intro first second same
  have forward := (KeyRange.utf8_isPrefix_iff first second).mp (same ▸ List.prefix_refl _)
  have backward := (KeyRange.utf8_isPrefix_iff second first).mp (same ▸ List.prefix_refl _)
  exact forward.eq_of_length_le backward.length_le

/-- The rows of a range have distinct keys. -/
theorem nodup_listPrefix (start : Key) : ((store.listPrefix start).map Prod.fst).Nodup := by
  have rows := (List.mergeSort_perm
    (store.kvs.entries.filter fun entry => inPrefix start entry.1) keyLe).map Prod.fst
  exact rows.nodup_iff.mpr (store.kvs.distinct.sublist (List.filter_sublist.map Prod.fst))

theorem keyLe_trans
    (first second third : Key × Value) (before : keyLe first second = true)
    (after : keyLe second third = true) : keyLe first third = true := by
  simp only [keyLe, decide_eq_true_eq] at *
  exact List.le_trans before after

theorem keyLe_total (first second : Key × Value) :
    keyLe first second = true ∨ keyLe second first = true := by
  simp only [keyLe, decide_eq_true_eq]
  exact List.le_total _ _

theorem sorted_listPrefix (start : Key) :
    (store.listPrefix start).Pairwise fun first second => keyLe first second = true :=
  List.pairwise_mergeSort keyLe_trans
    (fun first second => by simpa using keyLe_total first second) _

/-- Rows with distinct keys are determined by their order. -/
theorem rows_eq_of_perm
    {first second : List (Key × Value)} (permuted : first.Perm second)
    (distinct : (first.map Prod.fst).Nodup)
    (firstSorted : first.Pairwise fun one two => keyLe one two = true)
    (secondSorted : second.Pairwise fun one two => keyLe one two = true) :
    first = second := by
  refine permuted.eq_of_pairwise ?_ firstSorted secondSorted
  intro one two inFirst inSecond before after
  simp only [keyLe, decide_eq_true_eq] at before after
  have sameKey : one.1 = two.1 := utf8_injective (List.le_antisymm before after)
  exact List.inj_on_of_nodup_map distinct inFirst (permuted.mem_iff.mpr inSecond) sameKey

/-- Two stores with the same values in a range list it alike. -/
theorem listPrefix_congr
    {first second : Store} {start : Key}
    (same : ∀ key, start <+: key → first.find? key = second.find? key) :
    first.listPrefix start = second.listPrefix start := by
  have members : ∀ row, row ∈ first.listPrefix start ↔ row ∈ second.listPrefix start := by
    rintro ⟨key, value⟩
    rw [mem_listPrefix, mem_listPrefix]
    exact ⟨fun ⟨found, starts⟩ => ⟨same key starts ▸ found, starts⟩,
      fun ⟨found, starts⟩ => ⟨same key starts ▸ found, starts⟩⟩
  have permuted : (first.listPrefix start).Perm (second.listPrefix start) :=
    (List.perm_ext_iff_of_nodup (first.nodup_listPrefix start).of_map
      (second.nodup_listPrefix start).of_map).mpr members
  exact rows_eq_of_perm permuted (first.nodup_listPrefix start)
    (first.sorted_listPrefix start) (second.sorted_listPrefix start)

end Store

end Etcd
end K1s
