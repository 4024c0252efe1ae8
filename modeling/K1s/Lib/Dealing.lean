import Mathlib

/-!
# Dealing items into bins

Items are put into bins one after another.  Nothing is lost and nothing is dealt
twice.  A dealing that always chooses a bin with a least load keeps all loads
within one of each other, and going round the bins in order is such a dealing.
-/

namespace K1s
namespace Dealing

variable {κ ι : Type*} [DecidableEq κ]

/-! ## Contents -/

def put (contents : κ → List ι) (bin : κ) (item : ι) : κ → List ι :=
  Function.update contents bin (contents bin ++ [item])

@[simp] theorem put_self (contents : κ → List ι) (bin : κ) (item : ι) :
    put contents bin item bin = contents bin ++ [item] := by
  simp [put]

theorem put_of_ne
    (contents : κ → List ι) {bin other : κ} (item : ι) (different : other ≠ bin) :
    put contents bin item other = contents other := by
  simp [put, different]

/-- The number of items in a bin. -/
def load (contents : κ → List ι) (bin : κ) : Nat := (contents bin).length

theorem load_put (contents : κ → List ι) (bin : κ) (item : ι) (other : κ) :
    load (put contents bin item) other = load contents other + if other = bin then 1 else 0 := by
  by_cases same : other = bin
  · subst same
    simp [load]
  · simp [load, put_of_ne contents item same, same]

/-- What bins contain after every item of a list has been put into one of them. -/
inductive Dealt (bins : List κ) : (κ → List ι) → List ι → Prop
  | nothing : Dealt bins (fun _ => []) []
  | put
      {contents : κ → List ι}
      {items : List ι}
      {bin : κ}
      {item : ι}
      (earlier : Dealt bins contents items)
      (member : bin ∈ bins) :
      Dealt bins (put contents bin item) (items ++ [item])

theorem flatMap_put_perm
    {bins : List κ} (distinct : bins.Nodup) (contents : κ → List ι) {bin : κ} (item : ι)
    (member : bin ∈ bins) :
    (bins.flatMap (put contents bin item)).Perm (bins.flatMap contents ++ [item]) := by
  induction bins with
  | nil => cases member
  | cons first rest ih =>
      obtain ⟨notLater, restDistinct⟩ := List.nodup_cons.mp distinct
      rw [List.flatMap_cons, List.flatMap_cons]
      by_cases here : first = bin
      · subst here
        have unchanged : rest.flatMap (put contents first item) = rest.flatMap contents := by
          apply List.flatMap_congr
          intro other later
          apply put_of_ne
          exact fun same => notLater (same ▸ later)
        rw [unchanged, put_self, List.append_assoc, List.append_assoc]
        exact List.Perm.append_left _ List.perm_append_comm
      · rw [put_of_ne contents item here, List.append_assoc]
        apply List.Perm.append_left
        apply ih restDistinct
        exact (List.mem_cons.mp member).resolve_left (Ne.symm here)

/-- Every item is in a bin, once for each time that it was dealt. -/
theorem Dealt.perm
    {bins : List κ} {contents : κ → List ι} {items : List ι} (distinct : bins.Nodup)
    (dealt : Dealt bins contents items) : (bins.flatMap contents).Perm items := by
  induction dealt with
  | nothing => simp
  | put earlier member ih =>
      apply (flatMap_put_perm distinct _ _ member).trans
      exact ih.append_right _

/-! ## Least loaded bins -/

/-- No bin of a set has a smaller load. -/
def Least (bins : Set κ) (loads : κ → Nat) (bin : κ) : Prop :=
  ∀ other ∈ bins, loads bin ≤ loads other

omit [DecidableEq κ] in
/-- Loads stay within one of each other when a least loaded bin gets one more. -/
theorem equitableOn_of_least
    {bins : Set κ} {loads raised : κ → Nat} {bin : κ} (even : bins.EquitableOn loads)
    (least : Least bins loads bin) (one : raised bin = loads bin + 1)
    (others : ∀ other, other ≠ bin → raised other = loads other) :
    bins.EquitableOn raised := by
  intro first second firstMember secondMember
  have apart := even firstMember secondMember
  have atLeast := least second secondMember
  by_cases firstHere : first = bin
  · by_cases secondHere : second = bin
    · rw [firstHere, secondHere]
      omega
    · rw [firstHere, one, others second secondHere]
      omega
  · by_cases secondHere : second = bin
    · rw [others first firstHere, secondHere, one]
      rw [secondHere] at apart
      omega
    · rw [others first firstHere, others second secondHere]
      omega

/-! ## Going round -/

/-- The load of a position after so many items have gone round so many bins. -/
def turns (bins items position : Nat) : Nat :=
  items / bins + if position < items % bins then 1 else 0

@[simp] theorem turns_zero (bins position : Nat) : turns bins 0 position = 0 := by
  simp [turns]

theorem turns_succ {bins position : Nat} (items : Nat) (inside : position < bins) :
    turns bins (items + 1) position =
      turns bins items position + if position = items % bins then 1 else 0 := by
  have below : items % bins < bins := Nat.mod_lt _ (by omega)
  have whole := Nat.div_add_mod items bins
  unfold turns
  by_cases last : items % bins + 1 = bins
  · -- The round ends with this item.
    obtain ⟨quotient, remainder⟩ :
        (items + 1) / bins = items / bins + 1 ∧ (items + 1) % bins = 0 := by
      rw [Nat.div_mod_unique (by omega), Nat.mul_add]
      omega
    rw [quotient, remainder]
    split_ifs <;> omega
  · obtain ⟨quotient, remainder⟩ :
        (items + 1) / bins = items / bins ∧ (items + 1) % bins = items % bins + 1 := by
      rw [Nat.div_mod_unique (by omega)]
      omega
    rw [quotient, remainder]
    split_ifs <;> omega

/-- The loads of two positions differ by one at most. -/
theorem turns_le (bins items first second : Nat) :
    turns bins items first ≤ turns bins items second + 1 := by
  unfold turns
  split_ifs <;> omega

/-- All the positions together hold the items. -/
theorem sum_turns {bins : Nat} (some_bin : 0 < bins) (items : Nat) :
    ∑ position ∈ Finset.range bins, turns bins items position = items := by
  induction items with
  | zero => simp
  | succ items ih =>
      have step : ∀ position ∈ Finset.range bins, turns bins (items + 1) position =
          turns bins items position + if position = items % bins then 1 else 0 := by
        intro position inside
        exact turns_succ items (Finset.mem_range.mp inside)
      rw [Finset.sum_congr rfl step, Finset.sum_add_distrib, ih,
        Finset.sum_ite_eq', if_pos]
      exact Finset.mem_range.mpr (Nat.mod_lt items some_bin)

/-- So many items have gone round the bins. -/
def InTurn (bins : List κ) (items : Nat) (contents : κ → List ι) : Prop :=
  ∀ position bin, bins[position]? = some bin → load contents bin = turns bins.length items position

namespace InTurn

variable {bins : List κ} {items : Nat} {contents : κ → List ι}

omit [DecidableEq κ] in
theorem nothing (bins : List κ) : InTurn bins 0 fun _ => ([] : List ι) := by
  intro position bin _
  simp [load]

/-- The next bin gets the next item. -/
theorem put
    (inTurn : InTurn bins items contents) (distinct : bins.Nodup) {bin : κ}
    (turn : bins[items % bins.length]? = some bin) (item : ι) :
    InTurn bins (items + 1) (put contents bin item) := by
  intro position other place
  obtain ⟨inside, rfl⟩ := List.getElem?_eq_some_iff.mp place
  obtain ⟨below, rfl⟩ := List.getElem?_eq_some_iff.mp turn
  rw [load_put, inTurn position _ place, turns_succ items inside]
  simp only [distinct.getElem_inj_iff]

theorem put_other
    (inTurn : InTurn bins items contents) {bin : κ} (elsewhere : bin ∉ bins) (item : ι) :
    InTurn bins items (Dealing.put contents bin item) := by
  intro position other place
  have different : other ≠ bin := by
    rintro rfl
    exact elsewhere (List.mem_of_getElem? place)
  rw [load_put, if_neg different, Nat.add_zero]
  exact inTurn position other place

omit [DecidableEq κ] in
theorem equitableOn (inTurn : InTurn bins items contents) :
    {bin | bin ∈ bins}.EquitableOn (load contents) := by
  intro first second firstMember secondMember
  obtain ⟨_, firstPlace⟩ := List.mem_iff_getElem?.mp firstMember
  obtain ⟨_, secondPlace⟩ := List.mem_iff_getElem?.mp secondMember
  rw [inTurn _ _ firstPlace, inTurn _ _ secondPlace]
  apply turns_le

omit [DecidableEq κ] in
theorem sum_load (inTurn : InTurn bins items contents) (some_bin : bins ≠ []) :
    (bins.map (load contents)).sum = items := by
  have same : bins.map (load contents) =
      (List.range bins.length).map (turns bins.length items) := by
    apply List.ext_getElem
    · simp
    · intro position inside _
      rw [List.length_map] at inside
      simpa using inTurn position _ (List.getElem?_eq_getElem inside)
  calc (bins.map (load contents)).sum
      = ∑ position ∈ Finset.range bins.length, turns bins.length items position := by
        rw [same]
        rfl
    _ = items := sum_turns (List.length_pos_iff.mpr some_bin) items

end InTurn

end Dealing
end K1s
