import K1s.Etcd.Store

/-!
# The apps that have events

`_event_app_names` adds the apps in the keys of all events to those that are known.  It reads
the keys page by page, each page from behind the last key of the one before.
-/

namespace K1s
namespace Etcd

open KeyRange

/-- The keys of a range in ascending order. -/
def Store.keysBetween (store : Store) (start stop : List UInt8) : List Key :=
  ((store.kvs.entries.filter fun entry =>
    decide (InRange start stop (utf8 entry.1))).mergeSort Store.keyLe).map Prod.fst

def listPrefixKeys (start : Key) (limit : Int) (startKey : Option Key) (store : Store) : List Key :=
  ((store.keysBetween (utf8 (startKey.getD start)) (KeyRange.prefixEnd (utf8 start))).take
    (max 1 limit).toNat).filter fun key => start.isPrefixOf key

def keyAfter (key : Key) : Key := key ++ ['\x00']

/-- `key[len(root) :].split("/", 1)[0]`. -/
def nameAfter (top key : Key) : String :=
  String.ofList ((key.drop top.length).takeWhile (· ≠ '/'))

/-- The names of some pages at most, the first one from a key on. -/
def discoveredNames (top : Key) (pageSize : Int) (store : Store) :
    Nat → Option Key → List String
  | 0, _ => []
  | pages + 1, startKey =>
      let keys := listPrefixKeys top pageSize startKey store
      match keys.getLast? with
      | none => []
      | some last =>
          if keys.length < pageSize then keys.map (nameAfter top)
          else keys.map (nameAfter top) ++
            discoveredNames top pageSize store pages (some (keyAfter last))

/-- `_event_app_names`, for the names that the registry and the status records give.  No more
pages are read than there are keys, and one. -/
def eventAppNames (root : String) (known : List String) (discover : Bool) (pageSize : Int)
    (store : Store) : List String :=
  let found :=
    if discover then
      discoveredNames (k root ["events"] ++ ['/']) pageSize store
        (store.kvs.entries.length + 1) none
    else []
  ((known ++ found).filter (· ≠ "")).dedup.mergeSort fun first second => decide (first ≤ second)

/-! ## Ranges from behind a key -/

theorem lt_append_zero_iff (key last : List UInt8) : key < last ++ [0] ↔ key ≤ last := by
  induction last generalizing key with
  | nil =>
      cases key with
      | nil => simp
      | cons byte others =>
          rw [List.nil_append, List.cons_lt_cons_iff]
          have zero : ¬ byte < 0 := by grind
          simp [zero]
  | cons head rest ih =>
      cases key with
      | nil => simp
      | cons byte others =>
          rw [List.cons_append, List.cons_lt_cons_iff, List.cons_le_cons_iff, ih]

section Pages

variable (store : Store) {start stop : List UInt8}

theorem mem_keysBetween (key : Key) :
    key ∈ store.keysBetween start stop ↔
      (store.find? key).isSome ∧ InRange start stop (utf8 key) := by
  rw [Option.isSome_iff_exists, Store.keysBetween, List.mem_map]
  simp only [List.mem_mergeSort, List.mem_filter, decide_eq_true_eq]
  constructor
  · rintro ⟨⟨_, value⟩, ⟨listed, inside⟩, rfl⟩
    exact ⟨⟨value, (store.kvs.find?_eq_some_iff _ _).mpr listed⟩, inside⟩
  · rintro ⟨⟨value, found⟩, inside⟩
    exact ⟨(key, value), ⟨(store.kvs.find?_eq_some_iff _ _).mp found, inside⟩, rfl⟩

theorem increasing_keysBetween :
    (store.keysBetween start stop).Pairwise fun first second => utf8 first < utf8 second := by
  have distinct : (store.keysBetween start stop).Nodup :=
    ((List.mergeSort_perm _ Store.keyLe).map Prod.fst).nodup_iff.mpr
      (store.kvs.distinct.sublist (List.filter_sublist.map Prod.fst))
  have sorted : (store.keysBetween start stop).Pairwise fun first second =>
      utf8 first ≤ utf8 second := by
    rw [Store.keysBetween, List.pairwise_map]
    exact (List.pairwise_mergeSort Store.keyLe_trans
      (fun first second => by simpa using Store.keyLe_total first second) _).imp
        fun before => by simpa [Store.keyLe] using before
  exact (sorted.and distinct).imp fun both => List.not_le.mp fun back =>
    both.2 (Store.utf8_injective (List.le_antisymm both.1 back))

/-- A range from behind one of the keys holds the keys after it. -/
theorem keysBetween_after {front rest : List Key} {last : Key}
    (whole : store.keysBetween start stop = front ++ last :: rest) :
    store.keysBetween (utf8 (keyAfter last)) stop = rest := by
  have after : utf8 (keyAfter last) = utf8 last ++ [0] := by simp [keyAfter, utf8]; rfl
  have increasing : (store.keysBetween start stop).Pairwise _ := increasing_keysBetween store
  rw [whole, List.pairwise_append] at increasing
  obtain ⟨-, tail, across⟩ := increasing
  obtain ⟨behind, increasing⟩ := List.pairwise_cons.mp tail
  have isLast : last ∈ store.keysBetween start stop := by simp [whole]
  have isLast := (mem_keysBetween store last).mp isLast
  have members (key : Key) : key ∈ store.keysBetween (utf8 (keyAfter last)) stop ↔ key ∈ rest := by
    have later : utf8 (keyAfter last) ≤ utf8 key ↔ utf8 last < utf8 key := by
      rw [after, ← List.not_lt, lt_append_zero_iff, List.not_le]
    rw [mem_keysBetween, InRange, later]
    constructor
    · rintro ⟨stored, low, high⟩
      have member : key ∈ store.keysBetween start stop :=
        (mem_keysBetween store key).mpr ⟨stored, List.le_trans isLast.2.1 (List.le_of_lt low), high⟩
      rw [whole, List.mem_append, List.mem_cons] at member
      rcases member with earlier | rfl | member
      · exact absurd (across key earlier last List.mem_cons_self) (List.lt_asymm low)
      · exact absurd low (List.lt_irrefl _)
      · exact member
    · intro member
      have listed : key ∈ store.keysBetween start stop := by simp [whole, member]
      have listed := (mem_keysBetween store key).mp listed
      exact ⟨listed.1, behind key member, listed.2.2⟩
  have distinct {keys : List Key}
      (increasing : keys.Pairwise fun first second => utf8 first < utf8 second) : keys.Nodup := by
    refine increasing.imp ?_
    rintro key _ before rfl
    exact List.lt_irrefl _ before
  have permuted := (List.perm_ext_iff_of_nodup (distinct (increasing_keysBetween store))
    (distinct increasing)).mpr members
  exact permuted.eq_of_pairwise (fun _ _ _ _ before after => absurd after (List.lt_asymm before))
    (increasing_keysBetween store) increasing

/-! ## All pages -/

theorem discoveredNames_eq {top : Key} (pageSize : Int) {pages : Nat} (startKey : Option Key)
    {front rest : List Key}
    (whole : store.keysBetween (utf8 top) (KeyRange.prefixEnd (utf8 top)) = front ++ rest)
    (from_here : store.keysBetween (utf8 (startKey.getD top)) (KeyRange.prefixEnd (utf8 top)) =
      rest) (enough : rest.length < pages) :
    discoveredNames top pageSize store pages startKey = rest.map (nameAfter top) := by
  induction pages generalizing startKey front rest with
  | zero => cases enough
  | succ pages ih =>
      have page : listPrefixKeys top pageSize startKey store =
          rest.take (max 1 pageSize).toNat := by
        rw [listPrefixKeys, from_here, List.filter_eq_self]
        intro key member
        have listed : key ∈ store.keysBetween (utf8 top) (KeyRange.prefixEnd (utf8 top)) :=
          whole ▸ List.mem_append_right front (List.mem_of_mem_take member)
        exact List.isPrefixOf_iff_prefix.mpr
          ((inRange_utf8_iff top key).mp ((mem_keysBetween store key).mp listed).2)
      rw [discoveredNames, page]
      generalize size : (max 1 pageSize).toNat = count
      cases ends : (rest.take count).getLast? with
      | none =>
          have empty : rest = [] := (List.take_eq_nil_iff.mp
            (List.getLast?_eq_none_iff.mp ends)).resolve_left (by omega)
          simp [empty]
      | some last =>
          dsimp only
          split
          · next short =>
              rw [List.take_of_length_le]
              rw [List.length_take] at short
              omega
          · obtain ⟨init, taken⟩ := List.getLast?_eq_some_iff.mp ends
            have parts : rest = init ++ last :: rest.drop count := by
              conv_lhs => rw [← List.take_append_drop count rest, taken]
              simp
            have all : store.keysBetween (utf8 top) (KeyRange.prefixEnd (utf8 top)) =
                (front ++ init) ++ last :: rest.drop count := by
              rw [whole, List.append_assoc, ← parts]
            have onward := ih (some (keyAfter last)) (all.trans (List.append_cons ..))
              (keysBetween_after store all)
              (by
                have := congrArg List.length parts
                simp only [List.length_append, List.length_cons] at this
                omega)
            rw [onward, ← List.map_append, List.take_append_drop]

end Pages

/-- The names are distinct, and each is known, or is the first part of the key of an event behind
the key of all events; where stale apps are looked for, no such name is missing. -/
theorem eventAppNames_exact (root : String) (known : List String) (discover : Bool) (pageSize : Int)
    (store : Store) :
    (eventAppNames root known discover pageSize store).Nodup ∧
      ∀ name, name ∈ eventAppNames root known discover pageSize store ↔
        name ≠ "" ∧ (name ∈ known ∨ discover = true ∧ ∃ key, (store.find? key).isSome ∧
          k root ["events"] ++ ['/'] <+: key ∧
            nameAfter (k root ["events"] ++ ['/']) key = name) := by
  generalize isTop : k root ["events"] ++ ['/'] = top
  have few : (store.keysBetween (utf8 top) (KeyRange.prefixEnd (utf8 top))).length <
      store.kvs.entries.length + 1 := by
    rw [Store.keysBetween, List.length_map, List.length_mergeSort]
    exact Nat.lt_succ_of_le (List.length_filter_le ..)
  have names := discoveredNames_eq store pageSize none (List.nil_append _).symm rfl few
  rw [eventAppNames, isTop, names]
  refine ⟨(List.mergeSort_perm ..).nodup_iff.mpr (List.nodup_dedup _), fun name => ?_⟩
  rw [List.mem_mergeSort, List.mem_dedup, List.mem_filter, List.mem_append, decide_eq_true_eq,
    and_comm]
  refine and_congr_right fun _ => or_congr_right ?_
  cases discover with
  | false => simp
  | true =>
      simp only [if_true, List.mem_map (f := nameAfter top), true_and]
      refine exists_congr fun key => ?_
      rw [mem_keysBetween, inRange_utf8_iff, and_assoc]

end Etcd
end K1s
