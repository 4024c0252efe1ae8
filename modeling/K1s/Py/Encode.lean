import K1s.Lib.KeyRange
import K1s.Py.Decode

/-!
# Texts as bytes

`text.encode()` with what `decode` and `int` make of the bytes again.
-/

namespace K1s
namespace Py

def encodeUtf8 (text : String) : List UInt8 := KeyRange.utf8 text.toList

/-! ## UTF-8 -/

theorem toNat_ofNat_of_lt {number : Nat} (small : number < 256) :
    (UInt8.ofNat number).toNat = number := by
  simpa using Nat.mod_eq_of_lt small

theorem continuation_ofNat {number : Nat} (small : number < 64) :
    continuation (UInt8.ofNat (number + 0x80)) = some number := by
  rw [continuation, toNat_ofNat_of_lt (by omega), if_pos (by omega)]
  exact congrArg some (by omega)

theorem scalarValue_toNat
    (character : Char) {least : Nat} (reached : least ≤ character.toNat) :
    scalarValue least character.toNat = some character := by
  have valid : character.toNat < 0xD800 ∨ 0xDFFF < character.toNat ∧ character.toNat < 0x110000 :=
    character.valid
  rw [scalarValue, if_pos ⟨reached, valid⟩, Char.ofNat_toNat]

/-- The bytes of a character are decoded first. -/
theorem decodeChars_utf8EncodeChar_append (character : Char) (rest : List UInt8) :
    decodeChars (String.utf8EncodeChar character ++ rest) =
      (decodeChars rest).map (character :: ·) := by
  have valid : character.toNat < 0xD800 ∨ 0xDFFF < character.toNat ∧ character.toNat < 0x110000 :=
    character.valid
  have number : character.val.toNat = character.toNat := rfl
  unfold String.utf8EncodeChar
  rw [number]
  dsimp only
  split
  · next one =>
      rw [List.singleton_append, decodeChars.eq_def]
      dsimp only
      rw [toNat_ofNat_of_lt (by omega), if_pos (by omega), Char.ofNat_toNat]
  · split
    · next two =>
        have joined : (character.toNat / 64 % 32 + 0xC0 - 0xC0) * 0x40 + character.toNat % 64 =
            character.toNat := by
          omega
        rw [decodeChars.eq_def]
        simp only [List.cons_append, List.nil_append]
        rw [toNat_ofNat_of_lt (by omega), if_neg (by omega), if_pos (by omega),
          continuation_ofNat (by omega)]
        simp only [Option.bind_eq_bind, Option.bind_some, joined]
        rw [scalarValue_toNat character (by omega)]
        cases decodeChars rest <;> rfl
    · split
      · next three =>
          have joined : (character.toNat / 4096 % 16 + 0xE0 - 0xE0) * 0x1000 +
              character.toNat / 64 % 64 * 0x40 + character.toNat % 64 = character.toNat := by
            omega
          rw [decodeChars.eq_def]
          simp only [List.cons_append, List.nil_append]
          rw [toNat_ofNat_of_lt (by omega), if_neg (by omega), if_neg (by omega),
            if_pos (by omega), continuation_ofNat (by omega), continuation_ofNat (by omega)]
          simp only [Option.bind_eq_bind, Option.bind_some, joined]
          rw [scalarValue_toNat character (by omega)]
          cases decodeChars rest <;> rfl
      · have joined : (character.toNat / 262144 % 8 + 0xF0 - 0xF0) * 0x40000 +
            character.toNat / 4096 % 64 * 0x1000 + character.toNat / 64 % 64 * 0x40 +
              character.toNat % 64 = character.toNat := by
          omega
        rw [decodeChars.eq_def]
        simp only [List.cons_append, List.nil_append]
        rw [toNat_ofNat_of_lt (by omega), if_neg (by omega), if_neg (by omega),
          if_neg (by omega), if_pos (by omega), continuation_ofNat (by omega),
          continuation_ofNat (by omega), continuation_ofNat (by omega)]
        -- `simp` would leave it to the kernel to unfold the binds, and the number with them.
        rw [Option.bind_eq_bind, Option.bind_some, Option.bind_eq_bind, Option.bind_some,
          Option.bind_eq_bind, Option.bind_some, joined,
          scalarValue_toNat character (by omega), Option.bind_some]
        cases decodeChars rest <;> rfl

theorem decodeUtf8_encodeUtf8 (text : String) : decodeUtf8 (encodeUtf8 text) = some text := by
  have chars : ∀ characters : List Char,
      decodeChars (KeyRange.utf8 characters) = some characters := by
    intro characters
    induction characters with
    | nil => rfl
    | cons character rest ih =>
        rw [KeyRange.utf8_cons, decodeChars_utf8EncodeChar_append, ih]
        rfl
  rw [decodeUtf8, encodeUtf8, chars, Option.map_some, String.ofList_toList]

/-- The bytes of a character are its number, or all of them are beyond ASCII. -/
theorem utf8EncodeChar_cases (character : Char) :
    character.toNat < 128 ∧ String.utf8EncodeChar character = [UInt8.ofNat character.toNat] ∨
      128 ≤ character.toNat ∧ ∀ byte ∈ String.utf8EncodeChar character, 128 ≤ byte.toNat := by
  have number : character.val.toNat = character.toNat := rfl
  unfold String.utf8EncodeChar
  rw [number]
  dsimp only
  split
  · next one => exact .inl ⟨by omega, rfl⟩
  · right
    refine ⟨by omega, ?_⟩
    split
    · simp only [List.forall_mem_cons, List.not_mem_nil, false_implies, implies_true, and_true]
      rw [toNat_ofNat_of_lt (by omega), toNat_ofNat_of_lt (by omega)]
      omega
    · split
      · simp only [List.forall_mem_cons, List.not_mem_nil, false_implies, implies_true, and_true]
        rw [toNat_ofNat_of_lt (by omega), toNat_ofNat_of_lt (by omega),
          toNat_ofNat_of_lt (by omega)]
        omega
      · simp only [List.forall_mem_cons, List.not_mem_nil, false_implies, implies_true, and_true]
        rw [toNat_ofNat_of_lt (by omega), toNat_ofNat_of_lt (by omega),
          toNat_ofNat_of_lt (by omega), toNat_ofNat_of_lt (by omega)]
        omega

/-- The bytes have an ASCII character exactly if the text has it. -/
theorem mem_encodeUtf8_iff (text : String) (character : Char) (ascii : character.toNat < 128) :
    UInt8.ofNat character.toNat ∈ encodeUtf8 text ↔ character ∈ text.toList := by
  rw [encodeUtf8, KeyRange.utf8, List.mem_flatMap]
  constructor
  · rintro ⟨other, member, inBytes⟩
    rcases utf8EncodeChar_cases other with ⟨small, one⟩ | ⟨-, beyond⟩
    · rw [one, List.mem_singleton] at inBytes
      have same := congrArg UInt8.toNat inBytes
      rw [toNat_ofNat_of_lt (by omega), toNat_ofNat_of_lt (by omega)] at same
      rwa [Char.toNat_inj.mp same]
    · have reached := beyond _ inBytes
      rw [toNat_ofNat_of_lt (by omega)] at reached
      omega
  · intro member
    refine ⟨character, member, ?_⟩
    rcases utf8EncodeChar_cases character with ⟨-, one⟩ | ⟨beyond, -⟩
    · rw [one]
      exact List.mem_singleton_self _
    · omega

/-! ## Integers -/

theorem strip_of_forall
    {text : String} (visible : ∀ character ∈ text.toList, character.isWhitespace = false) :
    strip text = text := by
  have kept : ∀ characters : List Char,
      (∀ character ∈ characters, character.isWhitespace = false) →
        characters.dropWhile Char.isWhitespace = characters := by
    intro characters visible
    apply List.dropWhile_eq_self_iff.mpr
    intro positive
    rw [visible _ (List.getElem_mem positive)]
    exact Bool.false_ne_true
  rw [strip, kept _ visible, kept _ (by simpa using visible), List.reverse_reverse,
    String.ofList_toList]

theorem plainDigits_of_forall
    {digits : List Char} (nonempty : digits ≠ [])
    (areDigits : ∀ digit ∈ digits, digit.isDigit = true) : plainDigits digits = some digits := by
  fun_induction plainDigits digits with
  | case1 => exact absurd rfl nonempty
  | case2 digit isDigit => rfl
  | case3 digit notDigit => exact absurd (areDigits digit (by simp)) notDigit
  | case4 first rest isDigit ih =>
      exact absurd (areDigits '_' (by simp)) (by decide)
  | case5 first rest notDigit => exact absurd (areDigits first (by simp)) notDigit
  | case6 first rest notEmpty notUnderscore isDigit ih =>
      rw [ih notEmpty fun digit member =>
        areDigits digit (List.mem_cons_of_mem _ member)]
      rfl
  | case7 first rest notEmpty notUnderscore notDigit =>
      exact absurd (areDigits first (by simp)) notDigit

theorem plainDigits_toDigits (number : Nat) :
    plainDigits (Nat.toDigits 10 number) = some (Nat.toDigits 10 number) :=
  plainDigits_of_forall Nat.toDigits_ne_nil fun _ member =>
    Nat.isDigit_of_mem_toDigits (by decide) (by decide) member

theorem digitsValue_toDigits (number : Nat) :
    digitsValue (Nat.toDigits 10 number) = number :=
  Nat.ofDigitChars_ten_toDigits

/-- The text of an integer is made of digits and of a sign. -/
theorem toList_toString_int (number : Int) :
    (toString number).toList =
      (if 0 ≤ number then [] else ['-']) ++ Nat.toDigits 10 number.natAbs := by
  rw [Int.toString_eq_repr, Int.repr_eq_if]
  split
  · rw [Nat.toList_repr, List.nil_append]
    congr 1
    omega
  · rw [String.toList_append, Nat.toList_repr]
    congr 2
    omega

theorem readSign_toDigits (number : Nat) :
    readSign (Nat.toDigits 10 number) = (false, Nat.toDigits 10 number) := by
  have areDigits : ∀ digit ∈ Nat.toDigits 10 number, digit.isDigit = true :=
    fun _ member => Nat.isDigit_of_mem_toDigits (by decide) (by decide) member
  cases digits : Nat.toDigits 10 number with
  | nil => exact absurd digits Nat.toDigits_ne_nil
  | cons first rest =>
      have isDigit := areDigits first (by simp [digits])
      unfold readSign
      split
      · next same =>
          obtain ⟨rfl, -⟩ := List.cons.inj same
          cases isDigit
      · next same =>
          obtain ⟨rfl, -⟩ := List.cons.inj same
          cases isDigit
      · rfl

theorem intOfText_toString (number : Int) : intOfText (toString number) = some number := by
  have visible : ∀ character ∈ (toString number).toList, character.isWhitespace = false := by
    intro character member
    rw [toList_toString_int, List.mem_append] at member
    rcases member with sign | digit
    · split at sign
      · cases sign
      · obtain rfl := List.mem_singleton.mp sign
        decide
    · have isDigit := Nat.isDigit_of_mem_toDigits (by decide) (by decide) digit
      rw [← Bool.not_eq_true]
      intro blank
      simp only [Char.isWhitespace, Bool.or_eq_true, decide_eq_true_eq] at blank
      rcases blank with ((rfl | rfl) | rfl) | rfl <;> cases isDigit
  unfold intOfText
  rw [strip_of_forall visible, toList_toString_int]
  by_cases nonnegative : 0 ≤ number
  · rw [if_pos nonnegative, List.nil_append, readSign_toDigits]
    simp only [plainDigits_toDigits, Option.map_some, digitsValue_toDigits, Bool.false_eq_true,
      if_false]
    exact congrArg some (by omega)
  · rw [if_neg nonnegative, List.singleton_append]
    simp only [readSign, plainDigits_toDigits, Option.map_some, digitsValue_toDigits, if_true]
    exact congrArg some (by omega)

end Py
end K1s
