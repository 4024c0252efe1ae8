import K1s.Py.Text

/-!
# Base64

`base64.urlsafe_b64encode` and `base64.urlsafe_b64decode`.  The decoder is not strict: it
skips every character outside of its alphabet, drops what follows a complete padding, and
ignores the bits of the last character that fill no byte.  `none` stands for an exception.
-/

namespace K1s
namespace Py

/-- The six bits of a character of the standard alphabet. -/
def base64Value (character : Char) : Option Nat :=
  let code := character.toNat
  if 65 ≤ code ∧ code ≤ 90 then some (code - 65)
  else if 97 ≤ code ∧ code ≤ 122 then some (code - 71)
  else if 48 ≤ code ∧ code ≤ 57 then some (code + 4)
  else if code = 43 then some 62
  else if code = 47 then some 63
  else none

/-- `binascii.a2b_base64`, from a position in a group of four characters, with the bits
that are left of the last character and the padding that has been seen. -/
def a2bBase64 (position left pads : Nat) : List Char → Option (List UInt8)
  | [] => if position = 0 then some [] else none
  | '=' :: rest =>
      if position < 2 then a2bBase64 position left pads rest
      else if 4 ≤ position + pads + 1 then some []
      else a2bBase64 position left (pads + 1) rest
  | character :: rest =>
      match base64Value character with
      | none => a2bBase64 position left pads rest
      | some value =>
          match position with
          | 0 => a2bBase64 1 value 0 rest
          | 1 => (a2bBase64 2 (value % 16) 0 rest).map (UInt8.ofNat (left * 4 + value / 16) :: ·)
          | 2 => (a2bBase64 3 (value % 4) 0 rest).map (UInt8.ofNat (left * 16 + value / 4) :: ·)
          | _ => (a2bBase64 0 0 0 rest).map (UInt8.ofNat (left * 64 + value) :: ·)

/-- A character of the alphabet that is safe in a URL, in the standard alphabet. -/
def standardCharacter (character : Char) : Char :=
  if character = '-' then '+' else if character = '_' then '/' else character

/-- `base64.urlsafe_b64decode`. -/
def urlsafeB64decode (text : String) : Option (List UInt8) :=
  if text.toList.all fun character => decide (character.toNat < 128) then
    a2bBase64 0 0 0 (text.toList.map standardCharacter)
  else none

example : urlsafeB64decode "ab-_" = some [105, 191, 191] := by decide +kernel

/-! ## Encoding -/

/-- The character of six bits in the standard alphabet. -/
def base64Char (value : Nat) : Char :=
  if value < 26 then Char.ofNat (value + 65)
  else if value < 52 then Char.ofNat (value + 71)
  else if value < 62 then Char.ofNat (value - 4)
  else if value = 62 then '+'
  else '/'

/-- `binascii.b2a_base64` without the line feed. -/
def b2aBase64 : List UInt8 → List Char
  | [] => []
  | [first] => [base64Char (first.toNat / 4), base64Char (first.toNat % 4 * 16), '=', '=']
  | [first, second] =>
      [base64Char (first.toNat / 4), base64Char (first.toNat % 4 * 16 + second.toNat / 16),
        base64Char (second.toNat % 16 * 4), '=']
  | first :: second :: third :: rest =>
      base64Char (first.toNat / 4) :: base64Char (first.toNat % 4 * 16 + second.toNat / 16) ::
        base64Char (second.toNat % 16 * 4 + third.toNat / 64) ::
          base64Char (third.toNat % 64) :: b2aBase64 rest

/-- A character of the standard alphabet, in the one that is safe in a URL. -/
def urlsafeCharacter (character : Char) : Char :=
  if character = '+' then '-' else if character = '/' then '_' else character

variable (data : List UInt8)

/-- `base64.urlsafe_b64encode`. -/
def urlsafeB64encode : String :=
  String.ofList ((b2aBase64 data).map urlsafeCharacter)

/-- What holds of the character of six bits. -/
structure IsBase64Char (value : Nat) (character : Char) : Prop where
  value : base64Value character = some value
  notPadding : character ≠ '='
  safeNotPadding : urlsafeCharacter character ≠ '='
  safeNotColon : urlsafeCharacter character ≠ ':'
  ascii : (urlsafeCharacter character).toNat < 128
  standard : standardCharacter (urlsafeCharacter character) = character

theorem isBase64Char {value : Nat} (small : value < 64) :
    IsBase64Char value (base64Char value) := by
  have all : ∀ value : Fin 64,
      base64Value (base64Char value) = some value.val ∧ base64Char value ≠ '=' ∧
        urlsafeCharacter (base64Char value) ≠ '=' ∧ urlsafeCharacter (base64Char value) ≠ ':' ∧
        (urlsafeCharacter (base64Char value)).toNat < 128 ∧
        standardCharacter (urlsafeCharacter (base64Char value)) = base64Char value := by
    decide +kernel
  obtain ⟨isValue, notPadding, safeNotPadding, safeNotColon, ascii, standard⟩ :=
    all ⟨value, small⟩
  exact ⟨isValue, notPadding, safeNotPadding, safeNotColon, ascii, standard⟩

section Decoder

variable {value : Nat} (left pads : Nat) (rest : List Char)

theorem a2bBase64_zero (small : value < 64) :
    a2bBase64 0 left pads (base64Char value :: rest) = a2bBase64 1 value 0 rest := by
  rw [a2bBase64.eq_3 _ _ _ _ _ (isBase64Char small).notPadding, (isBase64Char small).value]
  rfl

theorem a2bBase64_one (small : value < 64) :
    a2bBase64 1 left pads (base64Char value :: rest) =
      (a2bBase64 2 (value % 16) 0 rest).map (UInt8.ofNat (left * 4 + value / 16) :: ·) := by
  rw [a2bBase64.eq_3 _ _ _ _ _ (isBase64Char small).notPadding, (isBase64Char small).value]
  rfl

theorem a2bBase64_two (small : value < 64) :
    a2bBase64 2 left pads (base64Char value :: rest) =
      (a2bBase64 3 (value % 4) 0 rest).map (UInt8.ofNat (left * 16 + value / 4) :: ·) := by
  rw [a2bBase64.eq_3 _ _ _ _ _ (isBase64Char small).notPadding, (isBase64Char small).value]
  rfl

theorem a2bBase64_three (small : value < 64) :
    a2bBase64 3 left pads (base64Char value :: rest) =
      (a2bBase64 0 0 0 rest).map (UInt8.ofNat (left * 64 + value) :: ·) := by
  rw [a2bBase64.eq_3 _ _ _ _ _ (isBase64Char small).notPadding, (isBase64Char small).value]
  rfl

end Decoder

theorem ofNat_eq_of_toNat {byte : UInt8} {number : Nat} (same : number = byte.toNat) :
    UInt8.ofNat number = byte := by
  rw [same]
  exact UInt8.ofNat_toNat

/-- The decoder takes the bytes that were encoded. -/
theorem a2bBase64_b2aBase64 : a2bBase64 0 0 0 (b2aBase64 data) = some data := by
  fun_induction b2aBase64 data with
  | case1 => rfl
  | case2 first =>
      have size := first.toNat_lt
      have firstByte : UInt8.ofNat (first.toNat / 4 * 4 + first.toNat % 4 * 16 / 16) = first :=
        ofNat_eq_of_toNat (by omega)
      rw [a2bBase64_zero _ _ _ (by omega), a2bBase64_one _ _ _ (by omega), firstByte]
      rfl
  | case3 first second =>
      have size := first.toNat_lt
      have secondSize := second.toNat_lt
      have firstByte : UInt8.ofNat
          (first.toNat / 4 * 4 + (first.toNat % 4 * 16 + second.toNat / 16) / 16) = first :=
        ofNat_eq_of_toNat (by omega)
      have secondByte : UInt8.ofNat
          ((first.toNat % 4 * 16 + second.toNat / 16) % 16 * 16 + second.toNat % 16 * 4 / 4) =
            second :=
        ofNat_eq_of_toNat (by omega)
      rw [a2bBase64_zero _ _ _ (by omega), a2bBase64_one _ _ _ (by omega),
        a2bBase64_two _ _ _ (by omega), firstByte, secondByte]
      rfl
  | case4 first second third rest ih =>
      have size := first.toNat_lt
      have secondSize := second.toNat_lt
      have thirdSize := third.toNat_lt
      have firstByte : UInt8.ofNat
          (first.toNat / 4 * 4 + (first.toNat % 4 * 16 + second.toNat / 16) / 16) = first :=
        ofNat_eq_of_toNat (by omega)
      have secondByte : UInt8.ofNat ((first.toNat % 4 * 16 + second.toNat / 16) % 16 * 16 +
            (second.toNat % 16 * 4 + third.toNat / 64) / 4) = second :=
        ofNat_eq_of_toNat (by omega)
      have thirdByte : UInt8.ofNat
          ((second.toNat % 16 * 4 + third.toNat / 64) % 4 * 64 + third.toNat % 64) = third :=
        ofNat_eq_of_toNat (by omega)
      rw [a2bBase64_zero _ _ _ (by omega), a2bBase64_one _ _ _ (by omega),
        a2bBase64_two _ _ _ (by omega), a2bBase64_three _ _ _ (by omega), firstByte, secondByte,
        thirdByte, ih]
      rfl

/-- The groups of six bits of bytes. -/
def sextets : List UInt8 → List Nat
  | [] => []
  | [first] => [first.toNat / 4, first.toNat % 4 * 16]
  | [first, second] =>
      [first.toNat / 4, first.toNat % 4 * 16 + second.toNat / 16, second.toNat % 16 * 4]
  | first :: second :: third :: rest =>
      [first.toNat / 4, first.toNat % 4 * 16 + second.toNat / 16,
        second.toNat % 16 * 4 + third.toNat / 64, third.toNat % 64] ++ sextets rest

theorem sextets_lt : ∀ value ∈ sextets data, value < 64 := by
  fun_induction sextets data with
  | case1 => simp
  | case2 first =>
      have size := first.toNat_lt
      simp only [List.forall_mem_cons, List.not_mem_nil, false_implies, implies_true, and_true]
      omega
  | case3 first second =>
      have size := first.toNat_lt
      have secondSize := second.toNat_lt
      simp only [List.forall_mem_cons, List.not_mem_nil, false_implies, implies_true, and_true]
      omega
  | case4 first second third rest ih =>
      have size := first.toNat_lt
      have secondSize := second.toNat_lt
      have thirdSize := third.toNat_lt
      simp only [List.cons_append, List.nil_append, List.forall_mem_cons]
      refine ⟨?_, ?_, ?_, ?_, ih⟩ <;> omega

/-- The padding fills up a group of four characters. -/
theorem b2aBase64_eq :
    b2aBase64 data = (sextets data).map base64Char ++
      List.replicate ((4 - (sextets data).length % 4) % 4) '=' := by
  fun_induction sextets data with
  | case1 => rfl
  | case2 first => rfl
  | case3 first second => rfl
  | case4 first second third rest ih =>
      have groups (chars : List Nat) : chars.length + 4 = chars.length + 1 + 1 + 1 + 1 := rfl
      rw [b2aBase64, ih]
      simp only [List.map_cons, List.cons_append, List.nil_append, List.length_cons, ← groups,
        Nat.add_mod_right]

/-- The characters of an encoding that is safe in a URL. -/
theorem mem_urlsafeB64encode
    {data : List UInt8} {character : Char}
    (member : character ∈ (b2aBase64 data).map urlsafeCharacter) :
    character.toNat < 128 ∧ urlsafeCharacter (standardCharacter character) = character := by
  rw [b2aBase64_eq, List.map_append, List.mem_append] at member
  rcases member with coded | padding
  · rw [List.map_map] at coded
    obtain ⟨value, isSextet, rfl⟩ := List.mem_map.mp coded
    have isChar := isBase64Char (sextets_lt data value isSextet)
    exact ⟨isChar.ascii, congrArg urlsafeCharacter isChar.standard⟩
  · obtain ⟨pad, isPad, rfl⟩ := List.mem_map.mp padding
    obtain rfl := (List.mem_replicate.mp isPad).2
    decide

theorem map_standardCharacter :
    ((b2aBase64 data).map urlsafeCharacter).map standardCharacter = b2aBase64 data := by
  have padding : standardCharacter (urlsafeCharacter '=') = '=' := by decide
  rw [b2aBase64_eq, List.map_map, List.map_append, List.map_map, List.map_replicate,
    Function.comp_apply, padding]
  congr 1
  apply List.map_congr_left
  intro value isSextet
  exact (isBase64Char (sextets_lt data value isSextet)).standard

theorem urlsafeB64decode_urlsafeB64encode :
    urlsafeB64decode (urlsafeB64encode data) = some data := by
  have ascii : (urlsafeB64encode data).toList.all
      (fun character => decide (character.toNat < 128)) = true := by
    rw [List.all_eq_true, urlsafeB64encode, String.toList_ofList]
    intro character member
    exact decide_eq_true (mem_urlsafeB64encode member).1
  rw [urlsafeB64decode, if_pos ascii, urlsafeB64encode, String.toList_ofList,
    map_standardCharacter, a2bBase64_b2aBase64]

/-- The encoding without its padding. -/
theorem rstrip_urlsafeB64encode :
    rstrip '=' (urlsafeB64encode data) =
      String.ofList ((sextets data).map fun value => urlsafeCharacter (base64Char value)) := by
  have notPadding : ∀ character ∈
      ((sextets data).map fun value => urlsafeCharacter (base64Char value)).reverse,
      (character == '=') = false := by
    intro character member
    rw [List.mem_reverse] at member
    obtain ⟨value, isSextet, rfl⟩ := List.mem_map.mp member
    exact beq_false_of_ne (isBase64Char (sextets_lt data value isSextet)).safeNotPadding
  have padding : urlsafeCharacter '=' = '=' := by decide
  rw [rstrip, urlsafeB64encode, String.toList_ofList, b2aBase64_eq, List.map_append,
    List.map_replicate, padding, List.reverse_append, List.reverse_replicate,
    List.dropWhile_append_of_pos (by simp [List.mem_replicate]), List.map_map]
  congr 1
  rw [List.reverse_eq_iff]
  apply List.dropWhile_eq_self_iff.mpr
  intro positive
  rw [notPadding _ (List.getElem_mem positive)]
  exact Bool.false_ne_true

/-- The encoding with its padding put back. -/
theorem urlsafeB64encode_eq :
    urlsafeB64encode data = rstrip '=' (urlsafeB64encode data) ++ String.ofList (List.replicate
        ((4 - (rstrip '=' (urlsafeB64encode data)).length % 4) % 4) '=') := by
  have padding : urlsafeCharacter '=' = '=' := by decide
  rw [rstrip_urlsafeB64encode, ← String.ofList_append, String.length_ofList, List.length_map,
    urlsafeB64encode, b2aBase64_eq, List.map_append, List.map_replicate, padding, List.map_map]
  rfl

end Py
end K1s
