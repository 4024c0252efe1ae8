import K1s.Storage.BindingRuns

/-!
# Storage quotas

The controller keeps the storage that the claims of a namespace ask for below
the quota of the namespace.  What a size stands for is fixed here by the syntax
of Kubernetes quantities; the controller reads sizes with `_quantity_bytes`,
which gives up on some spellings and reads others as another number.
-/

namespace K1s
namespace Storage

open Py ApiShim

/-! ## Quantities -/

/-- What a suffix without exponent multiplies a quantity by. -/
def siFactor : String → Option ℚ
  | "" => some 1
  | "n" => some (1 / 10 ^ 9)
  | "u" => some (1 / 10 ^ 6)
  | "m" => some (1 / 10 ^ 3)
  | "k" => some (10 ^ 3)
  | "M" => some (10 ^ 6)
  | "G" => some (10 ^ 9)
  | "T" => some (10 ^ 12)
  | "P" => some (10 ^ 15)
  | "E" => some (10 ^ 18)
  | "Ki" => some (2 ^ 10)
  | "Mi" => some (2 ^ 20)
  | "Gi" => some (2 ^ 30)
  | "Ti" => some (2 ^ 40)
  | "Pi" => some (2 ^ 50)
  | "Ei" => some (2 ^ 60)
  | _ => none

/-- The power of ten of a decimal exponent, with its sign. -/
def exponentFactor (exponent : List Char) : Option ℚ :=
  let digits (text : List Char) : Option Nat :=
    if isDigits (String.ofList text) then some (digitsValue text) else none
  match exponent with
  | '+' :: rest => (digits rest).map fun power => 10 ^ power
  | '-' :: rest => (digits rest).map fun power => 1 / 10 ^ power
  | rest => (digits rest).map fun power => 10 ^ power

/-- What a suffix multiplies a quantity by. -/
def kubeFactor (suffix : List Char) : Option ℚ :=
  match siFactor (String.ofList suffix) with
  | some factor => some factor
  | none =>
      match suffix with
      | 'e' :: exponent | 'E' :: exponent => exponentFactor exponent
      | _ => none

/-- The number that a Kubernetes quantity stands for.  A storage size has no
minus sign. -/
def kubeQuantity (raw : String) : Option ℚ :=
  let text := match raw.toList with
    | '+' :: rest => rest
    | rest => rest
  let isNumeric (ch : Char) : Bool := ch.isDigit || ch == '.'
  (decimalOf (text.takeWhile isNumeric)).bind fun (numerator, denominator) =>
    (kubeFactor (text.dropWhile isNumeric)).map fun factor =>
      numerator / denominator * factor

/-! ## What the claims of a namespace ask for -/

variable (pvc : K8sObject) (store : ObjectStore) (controller : StorageController)

/-- The size that a claim asks for. -/
def kubeSize : ℚ :=
  max 0 (((pvcRequestedStorage pvc).bind kubeQuantity).getD 0)

/-- The size that a claim asks for, as the controller reads it. -/
def codeSize : Nat :=
  ((pvcRequestedStorage pvc).bind quantityBytes).getD 0

/-- The phase of a claim is `Bound`. -/
def hasBoundPhase : Bool :=
  decide (pvc.status.item "phase" = .str "Bound")

/-- What a claim takes of the quota of a namespace. -/
def takes (ns : String) (pvc : K8sObject) : ℚ :=
  if pvc.ns = some ns ∧ hasBoundPhase pvc then kubeSize pvc else 0

/-- The sum of the sizes that the bound claims of a namespace ask for. -/
def boundRequests (ns : String) : ℚ :=
  ((store.listAll pvcResource).map (takes ns)).sum

def HasQuota (ns : String) (quota : ℚ) : Prop :=
  ns ≠ "" ∧ ∃ entry, controller.storageQuotas.find? (fun entry => entry.ns = ns) = some entry ∧
    kubeQuantity entry.hardStorage = some quota

/-! ## The property -/

def volumeCapacity (spec : Json) : Json :=
  (spec.or (.dict [])).item "capacity"

/-- A write that gives a volume another capacity than the copy has that it was
made from. -/
def StorageOp.Expands : StorageOp → Prop
  | .store (.upsert (some pv) gvr _ _ _ spec _) =>
      gvr = pvResource ∧ volumeCapacity spec ≠ volumeCapacity pv.spec
  | _ => False

/-- An operation of the reconciliation of a claim respects the quota of a
namespace: where it adds to what the bound claims ask for, and where it expands
a volume for a claim of the namespace, they do not ask for more than the
quota. -/
def RespectsQuota
    (outside : Outside) (pvc : K8sObject) (ns : String) (quota : ℚ) (world : World)
    (operation : StorageOp) : Prop :=
  (boundRequests world.store ns < boundRequests (operation.execute outside world).2.store ns →
    boundRequests (operation.execute outside world).2.store ns ≤ quota) ∧
    (operation.Expands → pvc.ns = some ns → boundRequests world.store ns ≤ quota)

/-- What happens to the store: a user creates, changes or deletes an object, or
the controller reconciles its copy of a claim. -/
inductive QuotaAction
  | user (operation : StoreOp)
  | reconcile (pvc : K8sObject)

def quotaStep
    (outside : Outside)
    (world : World) : QuotaAction → Option World
  | .user operation => some { world with store := (operation.execute world.store).2 }
  | .reconcile pvc =>
      some (Program.runAlone (StorageOp.execute outside) (reconcilePvc controller pvc) world).2

/-- Every operation of a reconciliation respects the quotas of all
namespaces. -/
def QuotasRespected
    (outside : Outside)
    (world : World) : QuotaAction → Prop
  | .user _ => True
  | .reconcile pvc => ∀ ns quota, HasQuota controller ns quota →
      (reconcilePvc controller pvc).Along (StorageOp.execute outside)
        (RespectsQuota outside pvc ns quota) world

/-! ## The condition -/

/-- The key under which a claim is stored. -/
def pvcKey : ObjectKey :=
  pvcResource.key pvc.ns pvc.name

/-- What the stored row of a claim takes of the quota. -/
def storedTakes (pvc : K8sObject) (ns : String) : ℚ :=
  ((store.row? (pvcKey pvc)).map fun row => takes ns (row.object (pvcKey pvc))).getD 0

def otherClaims (key : ObjectKey) : List K8sObject :=
  (store.listAll pvcResource).filter fun pvc => pvc.key ≠ key

/-- The controller reads the sizes of the other bound claims of a namespace as
no less than they stand for. -/
def OthersCounted (pvc : K8sObject) (ns : String) : Prop :=
  ∀ other ∈ otherClaims store (pvcKey pvc), other.ns = some ns → hasBoundPhase other →
    kubeSize other ≤ codeSize other

/-- A claim of a namespace with a quota can be reconciled without exceeding
it. -/
structure FitsQuota
    (controller : StorageController) (pvc : K8sObject) (ns : String) (quota : ℚ)
    (store : ObjectStore)
    (limit : Nat) : Prop where
  /-- The controller reads the quota as this limit, which is no more than it
  stands for. -/
  read : quotaBytes controller (some ns) = some limit ∧ (limit : ℚ) ≤ quota
  /-- The controller reads the sizes of the bound claims and of this one as no
  less than they stand for. -/
  counted : OthersCounted store pvc ns
  countedOwn : kubeSize pvc ≤ codeSize pvc
  /-- A stored row that is bound does not ask for more than the copy. -/
  current : storedTakes store pvc ns ≤ kubeSize pvc
  /-- A claim that names its volume is bound for its size already, or the check
  that is not made for it would pass. -/
  named : (pvc.spec.item "volumeName").truthy → kubeSize pvc ≤ storedTakes store pvc ns ∨
      storageUsage (store.listAll pvcResource) ns pvc.name (pvc.metadata.item "uid") +
        codeSize pvc ≤ limit

def QuotaObserved (world : World) : QuotaAction → Prop
  | .user _ => True
  | .reconcile pvc => ∀ ns quota, HasQuota controller ns quota → pvc.ns = some ns →
      ∃ limit, FitsQuota controller pvc ns quota world.store limit

/-! ## Sums over the stored claims -/

@[simp] theorem key_object (row : ObjectRow) (key : ObjectKey) :
    (row.object key).key = key := rfl

theorem nodup_listAll (gvr : Gvr) : (store.listAll gvr).Nodup := by
  have keys : ((store.listAll gvr).map K8sObject.key).Nodup := by
    have sub : ((store.listAll gvr).map K8sObject.key).Sublist store.rows.keys := by
      rw [← Std.TreeMap.map_fst_toList_eq_keys, ObjectStore.listAll, List.map_map]
      exact List.filter_sublist.map Prod.fst
    exact Std.TreeMap.nodup_keys.sublist sub
  exact List.Nodup.of_map K8sObject.key keys

theorem otherClaims_perm
    {first second : ObjectStore} {key : ObjectKey}
    (same : ∀ other, other.gvr = pvcResource → other ≠ key →
      first.row? other = second.row? other) :
    (otherClaims first key).Perm (otherClaims second key) := by
  refine (List.perm_ext_iff_of_nodup ((nodup_listAll first pvcResource).filter _)
    ((nodup_listAll second pvcResource).filter _)).mpr fun pvc => ?_
  simp only [List.mem_filter, ObjectStore.mem_listAll, decide_eq_true_eq]
  constructor
  · rintro ⟨⟨other, row, stored, kind, rfl⟩, different⟩
    exact ⟨⟨other, row, same other kind different ▸ stored, kind, rfl⟩, different⟩
  · rintro ⟨⟨other, row, stored, kind, rfl⟩, different⟩
    exact ⟨⟨other, row, (same other kind different).symm ▸ stored, kind, rfl⟩, different⟩

/-- The bound claims are the one stored under a key and the others. -/
theorem boundRequests_eq (pvc : K8sObject) (ns : String) :
    boundRequests store ns =
      ((otherClaims store (pvcKey pvc)).map (takes ns)).sum + storedTakes store pvc ns := by
  have own : ((store.listAll pvcResource).filter fun other => other.key = pvcKey pvc).Perm
      ((store.row? (pvcKey pvc)).toList.map fun row => row.object (pvcKey pvc)) := by
    refine (List.perm_ext_iff_of_nodup ((nodup_listAll store pvcResource).filter _)
      ?_).mpr fun other => ?_
    · cases store.row? (pvcKey pvc) <;> simp
    · simp only [List.mem_filter, ObjectStore.mem_listAll, decide_eq_true_eq, List.mem_map,
        Option.mem_toList]
      constructor
      · rintro ⟨⟨key, row, stored, kind, rfl⟩, same⟩
        obtain rfl : key = pvcKey pvc := same
        exact ⟨row, stored, rfl⟩
      · rintro ⟨row, stored, rfl⟩
        exact ⟨⟨_, row, stored, rfl, rfl⟩, rfl⟩
  have split := List.filter_append_perm (fun other : K8sObject => other.key = pvcKey pvc)
    (store.listAll pvcResource)
  have sums := (split.map (takes ns)).sum_eq
  rw [List.map_append, List.sum_append, (own.map (takes ns)).sum_eq] at sums
  rw [boundRequests, ← sums, add_comm, otherClaims]
  congr 1
  · simp
  · unfold storedTakes
    cases store.row? (pvcKey pvc) <;> simp

theorem takes_nonneg (ns : String) (pvc : K8sObject) : 0 ≤ takes ns pvc := by
  unfold takes
  split
  · exact le_max_left ..
  · exact le_rfl

theorem storedTakes_nonneg (pvc : K8sObject) (ns : String) :
    0 ≤ storedTakes store pvc ns := by
  unfold storedTakes
  cases store.row? (pvcKey pvc) with
  | none => exact le_rfl
  | some row => exact takes_nonneg ..

/-- Sums over two selections of one list, compared item by item. -/
theorem sum_filter_le
    {ι : Type} (items : List ι) (first second : ι → Bool) (left right : ι → ℚ)
    (each : ∀ item ∈ items, (if first item then left item else 0) ≤
      if second item then right item else 0) :
    ((items.filter first).map left).sum ≤ ((items.filter second).map right).sum := by
  induction items with
  | nil => simp
  | cons item rest ih =>
      have here := each item List.mem_cons_self
      have below := ih fun other member =>
        each other (List.mem_cons_of_mem item member)
      simp only [List.filter_cons]
      split_ifs at here ⊢ <;> try simp only [List.map_cons, List.sum_cons]
      all_goals linarith

/-- The usage that the controller computes covers what the other claims take. -/
theorem others_le_storageUsage
    {store : ObjectStore} {pvc : K8sObject} {ns : String} (uid : Json)
    (placed : pvc.ns = some ns) (counted : OthersCounted store pvc ns) :
    ((otherClaims store (pvcKey pvc)).map (takes ns)).sum ≤
      (storageUsage (store.listAll pvcResource) ns pvc.name uid : ℚ) := by
  unfold otherClaims storageUsage
  rw [Nat.cast_list_sum, List.map_map]
  refine sum_filter_le _ _ _ _ _ fun other listed => ?_
  obtain ⟨key, row, -, kind, rfl⟩ := (ObjectStore.mem_listAll _ _ _).mp listed
  by_cases member : (row.object key).ns = some ns ∧ hasBoundPhase (row.object key)
  · by_cases own : (row.object key).key = pvcKey pvc
    · simp only [own, ne_eq, not_true_eq_false, decide_false, Bool.false_eq_true, if_false]
      split
      · exact Nat.cast_nonneg _
      · exact le_rfl
    · have elsewhere : (row.object key).name ≠ pvc.name := by
        intro sameName
        apply own
        rw [K8sObject.key, pvcKey, member.1, placed, sameName]
        simp only [ObjectRow.object, kind]
      have covered := counted _ (List.mem_filter.mpr ⟨listed, decide_eq_true own⟩)
        member.1 member.2
      have other : key ≠ pvcKey pvc := own
      simpa [other, takes, member, elsewhere, codeSize] using covered
  · rw [takes, if_neg member, ite_self]
    split
    · exact Nat.cast_nonneg _
    · exact le_rfl

end Storage
end K1s
