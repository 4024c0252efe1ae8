import Mathlib

/-!
# Ranges of byte keys

A store that orders its keys by their bytes answers a request for a prefix with
the half-open range from the prefix to the least key after everything that
starts with it.  This module computes that end point, proves that the range is
the set of keys that start with the prefix, and carries the fact from UTF-8
bytes to characters.
-/

namespace K1s
namespace KeyRange

/-! ## Ranges of bytes -/

/-- The least byte string after everything that starts with the given one, or
`none` when there is none: the last byte below `0xFF` is increased by one and
what follows it is cut off. -/
def prefixEnd? : List UInt8 → Option (List UInt8)
  | [] => none
  | byte :: rest =>
      match prefixEnd? rest with
      | some stop => some (byte :: stop)
      | none => if byte < 255 then some [byte + 1] else none

/-- The end of the range of a prefix.  A single zero byte stands for no end. -/
def prefixEnd (bytes : List UInt8) : List UInt8 :=
  (prefixEnd? bytes).getD [0]

/-- A key lies in the range from `start` up to and without `stop`. -/
def InRange (start stop key : List UInt8) : Prop :=
  start ≤ key ∧ (stop = [0] ∨ key < stop)

instance (start stop key : List UInt8) : Decidable (InRange start stop key) :=
  inferInstanceAs (Decidable (start ≤ key ∧ (stop = [0] ∨ key < stop)))

/-- Bytes that are all `0xFF` are at most a key exactly when it starts with
them. -/
theorem le_iff_of_prefixEnd?_eq_none
    {start : List UInt8} (top : prefixEnd? start = none) (key : List UInt8) :
    start ≤ key ↔ start <+: key := by
  induction start generalizing key with
  | nil => simp
  | cons byte rest ih =>
      rw [prefixEnd?] at top
      split at top
      · cases top
      · rename_i restTop
        have full : ¬ byte < 255 := fun below => by simp [below] at top
        cases key with
        | nil => simp
        | cons head tail =>
            rw [List.cons_le_cons_iff, List.cons_prefix_cons, ih restTop]
            have none_above : ¬ byte < head := by grind
            simp [none_above]

/-- Everything from a prefix up to its end starts with it, and nothing else
does. -/
theorem between_iff
    {start stop : List UInt8} (ends : prefixEnd? start = some stop) (key : List UInt8) :
    start ≤ key ∧ key < stop ↔ start <+: key := by
  induction start generalizing stop key with
  | nil => cases ends
  | cons byte rest ih =>
      cases key with
      | nil => simp
      | cons head tail =>
          rw [prefixEnd?] at ends
          rw [List.cons_le_cons_iff, List.cons_prefix_cons]
          split at ends
          · rename_i restStop restEnds
            obtain rfl := Option.some.inj ends
            rw [List.cons_lt_cons_iff, ← ih restEnds tail]
            grind
          · rename_i restTop
            split at ends
            · obtain rfl := Option.some.inj ends
              rw [List.cons_lt_cons_iff, ← le_iff_of_prefixEnd?_eq_none restTop]
              simp only [List.not_lt_nil, and_false, or_false]
              grind
            · cases ends

theorem ne_zero_of_prefixEnd?
    {start stop : List UInt8} (ends : prefixEnd? start = some stop) :
    stop ≠ [] ∧ stop ≠ [0] := by
  cases start with
  | nil => cases ends
  | cons byte rest =>
      rw [prefixEnd?] at ends
      split at ends
      · rename_i restStop restEnds
        obtain rfl := Option.some.inj ends
        have := (ne_zero_of_prefixEnd? restEnds).1
        simp [this]
      · split at ends
        · obtain rfl := Option.some.inj ends
          refine ⟨by simp, fun zero => ?_⟩
          have wrapped : byte + 1 = 0 := List.head_eq_of_cons_eq zero
          grind
        · cases ends

/-- The range of a prefix is what starts with it.  The prefix of `0xFF` bytes
alone has no end, and its range is what starts with it as well. -/
theorem inRange_prefixEnd_iff (start key : List UInt8) :
    InRange start (prefixEnd start) key ↔ start <+: key := by
  unfold InRange prefixEnd
  cases ends : prefixEnd? start with
  | none => simpa using le_iff_of_prefixEnd?_eq_none ends key
  | some stop =>
      simpa [(ne_zero_of_prefixEnd? ends).2] using between_iff ends key

/-! ## Ranges of text -/

/-- `text.encode("utf-8")`. -/
def utf8 (text : List Char) : List UInt8 :=
  text.flatMap String.utf8EncodeChar

@[simp] theorem utf8_cons (char : Char) (rest : List Char) :
    utf8 (char :: rest) = String.utf8EncodeChar char ++ utf8 rest := rfl

/-- The first character can be read off the bytes. -/
theorem eq_of_utf8EncodeChar_append
    {first second : Char} {restFirst restSecond : List UInt8}
    (same : String.utf8EncodeChar first ++ restFirst =
      String.utf8EncodeChar second ++ restSecond) :
    first = second := by
  have decoded := congrArg (fun bytes => bytes.toByteArray.utf8DecodeChar? 0) same
  simp only [List.toByteArray_append, ByteArray.utf8DecodeChar?_utf8EncodeChar_append] at decoded
  exact Option.some.inj decoded

/-- The bytes of one text start with those of another exactly when its
characters do. -/
theorem utf8_isPrefix_iff (start text : List Char) :
    utf8 start <+: utf8 text ↔ start <+: text := by
  constructor
  · intro starts
    induction start generalizing text with
    | nil => exact List.nil_prefix
    | cons char rest ih =>
        obtain ⟨tail, whole⟩ := starts
        rw [utf8_cons, List.append_assoc] at whole
        cases text with
        | nil => simp [utf8, String.utf8EncodeChar_ne_nil] at whole
        | cons head others =>
            rw [utf8_cons] at whole
            obtain rfl := eq_of_utf8EncodeChar_append whole
            rw [List.append_cancel_left_eq] at whole
            rw [List.cons_prefix_cons]
            exact ⟨rfl, ih others ⟨tail, whole⟩⟩
  · rintro ⟨tail, rfl⟩
    exact ⟨utf8 tail, by simp [utf8]⟩

theorem inRange_utf8_iff (start text : List Char) :
    InRange (utf8 start) (prefixEnd (utf8 start)) (utf8 text) ↔ start <+: text := by
  rw [inRange_prefixEnd_iff, utf8_isPrefix_iff]

end KeyRange
end K1s
