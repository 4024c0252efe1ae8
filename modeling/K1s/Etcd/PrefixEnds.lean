import K1s.Lib.KeyRange

/-!
# The end of the range of a prefix

`etcd_state.py` and `authority.py` have a `_prefix_end` each.  Both carry through the bytes
from the last one to the first, and both end the range of the keys with the prefix.
-/

namespace K1s
namespace Etcd

open KeyRange

/-- The loop over `idx` from the last of some first bytes. -/
def carry (buf : List UInt8) : Nat → List UInt8
  | 0 => [0]
  | idx + 1 =>
      if buf.getD idx 0 < 0xFF then (buf.set idx (buf.getD idx 0 + 1)).take (idx + 1)
      else carry buf idx

/-- `_prefix_end` of `etcd_state.py`. -/
def prefixEnd (start : List UInt8) : List UInt8 :=
  if start.isEmpty then [0] else carry start start.length

/-- A `str` or `bytes`. -/
inductive KeyPrefix
  | text (chars : List Char)
  | bytes (raw : List UInt8)

/-- `raw` in `_prefix_end` of `authority.py`. -/
def KeyPrefix.raw : KeyPrefix → List UInt8
  | .text chars => utf8 chars
  | .bytes raw => raw

/-- `_prefix_end` of `authority.py`. -/
def KeyPrefix.prefixEnd (start : KeyPrefix) : List UInt8 :=
  if start.raw.isEmpty then [0] else carry start.raw start.raw.length

/-- The carry decides at the last byte. -/
theorem prefixEnd?_append_singleton (start : List UInt8) (byte : UInt8) :
    prefixEnd? (start ++ [byte]) =
      if byte < 255 then some (start ++ [byte + 1]) else prefixEnd? start := by
  induction start with
  | nil => rfl
  | cons first rest ih =>
      rw [List.cons_append, prefixEnd?, ih, prefixEnd?]
      by_cases low : byte < 255 <;> simp only [low, if_true, if_false]
      rw [List.cons_append]

theorem carry_eq (buf : List UInt8) {count : Nat} (within : count ≤ buf.length) :
    carry buf count = KeyRange.prefixEnd (buf.take count) := by
  induction count with
  | zero => rfl
  | succ idx ih =>
      have inside : idx < buf.length := within
      have last : buf.take (idx + 1) = buf.take idx ++ [buf.getD idx 0] := by
        rw [List.take_add_one, List.getElem?_eq_getElem inside, List.getD_eq_getElem _ _ inside]
        rfl
      rw [carry, last, KeyRange.prefixEnd, prefixEnd?_append_singleton]
      split
      · rw [List.take_add_one, List.take_set_of_le le_rfl, List.getElem?_set_self inside]
        rfl
      · exact ih inside.le

/-- A key lies in the range of a prefix exactly when it starts with it, whichever copy has
computed the end. -/
theorem inRange_prefixEnds_iff (start : KeyPrefix) (key : List UInt8) :
    (InRange start.raw (prefixEnd start.raw) key ↔ start.raw <+: key) ∧
      (InRange start.raw start.prefixEnd key ↔ start.raw <+: key) := by
  have ends : prefixEnd start.raw = KeyRange.prefixEnd start.raw := by
    unfold prefixEnd
    split
    · next empty => rw [List.isEmpty_iff.mp empty]; rfl
    · rw [carry_eq start.raw le_rfl, List.take_length]
  have range := inRange_prefixEnd_iff start.raw key
  rw [← ends] at range
  exact ⟨range, range⟩

end Etcd
end K1s
