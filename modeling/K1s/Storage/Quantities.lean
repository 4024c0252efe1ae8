import K1s.Controllers.Autoscaler
import K1s.Py.Encode
import K1s.Storage.Objects

/-!
# Quantities

`_parse_quantity_bytes` of the adapter and `_quantity_bytes` of the storage controller
take the digits and points of a text for its number and fold the case of the other
characters to a unit.  This module writes down the texts of the quantity grammar, with
the value of each, and compares it with what the two parsers return in exact arithmetic.
-/

namespace K1s
namespace Storage

open Py

/-! ## The grammar -/

/-- The suffix of a quantity.  An exponent has its mark, its sign and its digits. -/
inductive QuantitySuffix
  | plain
  | milli
  | kilo
  | mega
  | giga
  | tera
  | peta
  | exa
  | kibi
  | mebi
  | gibi
  | tebi
  | pebi
  | exbi
  | exponent (upper : Bool) (sign : Option Bool) (digits : List Char)
  deriving DecidableEq

namespace QuantitySuffix

def unit : QuantitySuffix → List Char
  | .plain => []
  | .milli => ['m']
  | .kilo => ['k']
  | .mega => ['M']
  | .giga => ['G']
  | .tera => ['T']
  | .peta => ['P']
  | .exa => ['E']
  | .kibi => ['K', 'i']
  | .mebi => ['M', 'i']
  | .gibi => ['G', 'i']
  | .tebi => ['T', 'i']
  | .pebi => ['P', 'i']
  | .exbi => ['E', 'i']
  | .exponent upper sign _ =>
      (if upper then 'E' else 'e') ::
        match sign with
        | none => []
        | some negative => [if negative then '-' else '+']

def digits : QuantitySuffix → List Char
  | .exponent _ _ digits => digits
  | _ => []

/-- What a number with the suffix is multiplied by. -/
def factor : QuantitySuffix → Rat
  | .plain => 1
  | .milli => 1 / 1000
  | .kilo => 1000
  | .mega => 1000 ^ 2
  | .giga => 1000 ^ 3
  | .tera => 1000 ^ 4
  | .peta => 1000 ^ 5
  | .exa => 1000 ^ 6
  | .kibi => 1024
  | .mebi => 1024 ^ 2
  | .gibi => 1024 ^ 3
  | .tebi => 1024 ^ 4
  | .pebi => 1024 ^ 5
  | .exbi => 1024 ^ 6
  | .exponent _ sign digits =>
      if sign = some true then 1 / 10 ^ digitsValue digits else 10 ^ digitsValue digits

end QuantitySuffix

/-- A quantity: digits, which may have a point among them, and a suffix. -/
structure Quantity where
  whole : List Char
  fraction : Option (List Char)
  suffix : QuantitySuffix
  wholeDigits : ∀ digit ∈ whole, digit.isDigit = true
  fractionDigits : ∀ digit ∈ fraction.getD [], digit.isDigit = true
  suffixDigits : ∀ digit ∈ suffix.digits, digit.isDigit = true
  hasDigits : whole ++ fraction.getD [] ≠ []
  hasExponent : ∀ upper sign digits, suffix = .exponent upper sign digits → digits ≠ []

namespace Quantity

variable (quantity : Quantity)

/-- The digits and the point of the number. -/
def numberChars : List Char :=
  quantity.whole ++ (quantity.fraction.elim [] fun digits => '.' :: digits)

def text : String :=
  String.ofList (quantity.numberChars ++ (quantity.suffix.unit ++ quantity.suffix.digits))

/-- The number before the suffix. -/
def number : Rat :=
  digitsValue (quantity.whole ++ quantity.fraction.getD []) /
    10 ^ (quantity.fraction.getD []).length

def value : Rat := quantity.number * quantity.suffix.factor

end Quantity

/-! ## The parsers -/

/-- The two parsers, with exact arithmetic: only a number beyond the floats has none. -/
def bytesOf (factorOf : String → Option Nat) (raw : String) : Option Int :=
  let text := strip raw
  if isDigits text then some (digitsValue text.toList)
  else do
    let isNumber (character : Char) : Bool := character.isDigit || character = '.'
    let factor ← factorOf (lower (String.ofList (text.toList.filter (!isNumber ·))))
    match ← floatOfText (String.ofList (text.toList.filter isNumber)) with
    | .finite value => return Adapter.truncated (value * factor)
    | _ => none

theorem parseQuantityBytes_eq_bytesOf (raw : String) :
    Adapter.parseQuantityBytes raw = bytesOf Adapter.unitFactor raw := rfl

/-- `_quantity_bytes` with exact arithmetic, where `quantityBytes` rounds as floats do. -/
def exactQuantityBytes (raw : String) : Option Int := bytesOf Controllers.byteFactor raw

/-- `int(value)` of a number that is not negative. -/
theorem truncated_eq_floor {value : Rat} (nonnegative : 0 ≤ value) :
    Adapter.truncated value = ⌊value⌋ := by
  rw [Adapter.truncated, Rat.floor_def',
    Int.tdiv_eq_ediv_of_nonneg (Rat.num_nonneg.mpr nonnegative)]

/-! ## What the parsers read -/

/-- The range of the digits and the point. -/
theorem toNat_of_isNumber
    {character : Char} (isNumber : (character.isDigit || character = '.') = true) :
    46 ≤ character.toNat ∧ character.toNat ≤ 57 := by
  rw [Bool.or_eq_true, decide_eq_true_eq, Char.isDigit_iff_toNat] at isNumber
  rcases isNumber with ⟨least, greatest⟩ | rfl
  · exact ⟨Nat.le_trans (by decide) least, greatest⟩
  · exact ⟨by decide, by decide⟩

theorem toLower_of_le {character : Char} (small : character.toNat ≤ 57) :
    character.toLower = character := by
  rw [Char.toLower, dif_neg]
  rintro ⟨letter, -⟩
  have reached : 65 ≤ character.toNat := UInt32.le_iff_toNat_le.mp letter
  omega

theorem isWhitespace_of_isNumber
    {character : Char} (isNumber : (character.isDigit || character = '.') = true) :
    character.isWhitespace = false := by
  have least := (toNat_of_isNumber isNumber).1
  rw [← Bool.not_eq_true]
  intro blank
  simp only [Char.isWhitespace, Bool.or_eq_true, decide_eq_true_eq] at blank
  rcases blank with ((rfl | rfl) | rfl) | rfl <;> exact absurd least (by decide)

theorem readSign_of_isNumber
    {characters : List Char}
    (isNumber : ∀ character ∈ characters, (character.isDigit || character = '.') = true) :
    readSign characters = (false, characters) := by
  unfold readSign
  split
  · exact absurd (isNumber '-' (by simp)) (by decide)
  · exact absurd (isNumber '+' (by simp)) (by decide)
  · rfl

namespace QuantitySuffix

/-- The characters that units are made of. -/
def alphabet : List Char :=
  ['m', 'k', 'M', 'G', 'T', 'P', 'E', 'K', 'i', 'e', '+', '-']

variable (suffix : QuantitySuffix)

theorem mem_alphabet : ∀ character ∈ suffix.unit, character ∈ alphabet := by
  cases suffix with
  | exponent upper sign digits =>
      rcases upper with - | - <;> rcases sign with - | - | - <;> simp [unit, alphabet]
  | _ => simp [unit, alphabet]

theorem isNumber_unit :
    ∀ character ∈ suffix.unit, (character.isDigit || character = '.') = false := by
  have all : ∀ character ∈ alphabet, (character.isDigit || character = '.') = false := by
    simp [alphabet]
  exact fun character member => all character (suffix.mem_alphabet character member)

theorem isWhitespace_unit : ∀ character ∈ suffix.unit, character.isWhitespace = false := by
  have all : ∀ character ∈ alphabet, character.isWhitespace = false := by
    simp [alphabet]
  exact fun character member => all character (suffix.mem_alphabet character member)

/-- The factor that the storage controller has for a suffix. -/
def binaryFactor : QuantitySuffix → Option Nat
  | .kilo | .kibi => some 1024
  | .milli | .mega | .mebi => some (1024 ^ 2)
  | .giga | .gibi => some (1024 ^ 3)
  | .tera | .tebi => some (1024 ^ 4)
  | _ => none

theorem byteFactor_unit :
    Controllers.byteFactor (lower (String.ofList suffix.unit)) = suffix.binaryFactor := by
  cases suffix with
  | exponent upper sign digits =>
      rcases upper with - | - <;> rcases sign with - | - | - <;>
        simp only [unit, binaryFactor] <;> decide
  | _ => rfl

def adapterFactor : QuantitySuffix → Option Nat
  | .tera | .tebi => none
  | suffix => suffix.binaryFactor

theorem unitFactor_unit :
    Adapter.unitFactor (lower (String.ofList suffix.unit)) = suffix.adapterFactor := by
  cases suffix with
  | exponent upper sign digits =>
      rcases upper with - | - <;> rcases sign with - | - | - <;>
        simp only [unit, adapterFactor, binaryFactor] <;> decide
  | _ => rfl

theorem binaryFactor_of_adapterFactor
    {suffix : QuantitySuffix} {binary : Nat}
    (known : suffix.adapterFactor = some binary) : suffix.binaryFactor = some binary := by
  cases suffix
  case tera | tebi => cases known
  all_goals exact known

/-- The factor that is taken is at least that of the suffix. -/
theorem factor_le_binaryFactor
    {suffix : QuantitySuffix} {binary : Nat}
    (known : suffix.binaryFactor = some binary) : suffix.factor ≤ binary := by
  cases suffix
  case plain | peta | exa | pebi | exbi | exponent => cases known
  all_goals
    obtain rfl := Option.some.inj known
    norm_num [factor]

theorem unit_eq_nil_iff : suffix.unit = [] ↔ suffix = .plain := by
  cases suffix <;> simp [unit]

end QuantitySuffix

namespace Quantity

variable (quantity : Quantity)

theorem isNumber_numberChars :
    ∀ character ∈ quantity.numberChars, (character.isDigit || character = '.') = true := by
  intro character member
  rcases List.mem_append.mp member with inWhole | inFraction
  · simp [quantity.wholeDigits character inWhole]
  · cases fraction : quantity.fraction with
    | none => simp [fraction] at inFraction
    | some digits =>
        rw [fraction, Option.elim_some, List.mem_cons] at inFraction
        rcases inFraction with rfl | inDigits
        · rfl
        · simp [quantity.fractionDigits character (by simpa [fraction] using inDigits)]

/-- The number and the digits of an exponent are taken together. -/
theorem filter_text (ofNumber : Char → Bool)
    (isNumber : ∀ character, ofNumber character = (character.isDigit || character = '.')) :
    quantity.text.toList.filter ofNumber = quantity.numberChars ++ quantity.suffix.digits ∧
      quantity.text.toList.filter (!ofNumber ·) = quantity.suffix.unit := by
  have number : ∀ character ∈ quantity.numberChars, ofNumber character = true :=
    fun character member => (isNumber character).trans
      (quantity.isNumber_numberChars character member)
  have unit : ∀ character ∈ quantity.suffix.unit, ofNumber character = false :=
    fun character member => (isNumber character).trans
      (quantity.suffix.isNumber_unit character member)
  have exponent : ∀ character ∈ quantity.suffix.digits, ofNumber character = true :=
    fun character member => by
      rw [isNumber, quantity.suffixDigits character member, Bool.true_or]
  rw [text, String.toList_ofList]
  constructor
  · rw [List.filter_append, List.filter_append, List.filter_eq_self.mpr number,
      List.filter_eq_nil_iff.mpr (by simpa using unit), List.filter_eq_self.mpr exponent,
      List.nil_append]
  · rw [List.filter_append, List.filter_append,
      List.filter_eq_nil_iff.mpr (by simpa using number),
      List.filter_eq_self.mpr (by simpa using unit),
      List.filter_eq_nil_iff.mpr (by simpa using exponent), List.nil_append, List.append_nil]

/-- A quantity has no white space. -/
theorem strip_text : strip quantity.text = quantity.text := by
  apply strip_of_forall
  intro character member
  rw [text, String.toList_ofList, List.mem_append, List.mem_append] at member
  rcases member with number | unit | exponent
  · exact isWhitespace_of_isNumber (quantity.isNumber_numberChars character number)
  · exact quantity.suffix.isWhitespace_unit character unit
  · apply isWhitespace_of_isNumber
    rw [quantity.suffixDigits character exponent, Bool.true_or]

/-- `text.isdigit()` holds of the quantities without a point and a suffix. -/
theorem isDigits_text_iff :
    isDigits quantity.text = true ↔ quantity.fraction = none ∧ quantity.suffix = .plain := by
  rw [isDigits, text, String.toList_ofList, Bool.and_eq_true, List.all_append, List.all_append,
    Bool.and_eq_true, Bool.and_eq_true]
  constructor
  · rintro ⟨-, number, unit, -⟩
    constructor
    · cases fraction : quantity.fraction with
      | none => rfl
      | some digits => simp [numberChars, fraction] at number
    · rw [← QuantitySuffix.unit_eq_nil_iff, List.eq_nil_iff_forall_not_mem]
      intro character member
      have isDigit := List.all_eq_true.mp unit character member
      have noNumber := quantity.suffix.isNumber_unit character member
      rw [isDigit, Bool.true_or] at noNumber
      cases noNumber
  · rintro ⟨fraction, suffix⟩
    have hasDigits := quantity.hasDigits
    simp only [fraction, Option.getD_none, List.append_nil] at hasDigits
    simp only [numberChars, fraction, suffix, Option.elim_none, List.append_nil,
      QuantitySuffix.unit, QuantitySuffix.digits, List.all_nil, and_true]
    exact ⟨by simpa using hasDigits, List.all_eq_true.mpr quantity.wholeDigits⟩

theorem readMantissa_numberChars :
    readMantissa quantity.numberChars = some (quantity.whole, quantity.fraction.getD []) := by
  have noPoint : ∀ digit ∈ quantity.whole, decide (digit ≠ '.') = true := by
    intro digit member
    rw [decide_eq_true_eq]
    rintro rfl
    exact absurd (quantity.wholeDigits _ member) (by decide)
  have hasDigits := quantity.hasDigits
  have wholeDigits := quantity.wholeDigits
  have fractionDigits := quantity.fractionDigits
  unfold readMantissa numberChars
  rw [List.takeWhile_append_of_pos noPoint, List.dropWhile_append_of_pos noPoint]
  generalize quantity.whole = whole at hasDigits wholeDigits ⊢
  cases fraction : quantity.fraction with
  | none =>
      rw [fraction, Option.getD_none, List.append_nil] at hasDigits
      simp [plainDigits_of_forall hasDigits wholeDigits]
  | some digits =>
      simp only [fraction, Option.getD_some] at hasDigits fractionDigits
      cases whole with
      | nil => 
        cases digits with
        | nil => simp at hasDigits
        | cons digit rest =>
            simp [plainDigits_of_forall (List.cons_ne_nil digit rest) fractionDigits]
      | cons first others =>
          cases digits with
          | nil => simp [plainDigits_of_forall (List.cons_ne_nil first others) wholeDigits]
          | cons digit rest =>
              simp [plainDigits_of_forall (List.cons_ne_nil first others) wholeDigits,
                plainDigits_of_forall (List.cons_ne_nil digit rest) fractionDigits]

/-- The number reads as it is written, unless it is beyond the floats. -/
theorem floatOfText_numberChars :
    floatOfText (String.ofList quantity.numberChars) =
      some (if floatLimit ≤ quantity.number then .inf false else .finite quantity.number) := by
  have isNumber := quantity.isNumber_numberChars
  have visible : ∀ character ∈ (String.ofList quantity.numberChars).toList,
      character.isWhitespace = false := by
    rw [String.toList_ofList]
    exact fun character member => isWhitespace_of_isNumber (isNumber character member)
  have folded : quantity.numberChars.map Char.toLower = quantity.numberChars :=
    (List.map_congr_left fun character member =>
      toLower_of_le (toNat_of_isNumber (isNumber character member)).2).trans (List.map_id _)
  have noExponent : ∀ character ∈ quantity.numberChars, decide (character ≠ 'e') = true := by
    intro character member
    rw [decide_eq_true_eq]
    rintro rfl
    exact absurd (isNumber _ member) (by decide)
  have noInf : 'i' ∉ quantity.numberChars := fun member =>
    absurd (isNumber _ member) (by decide)
  have noNan : 'n' ∉ quantity.numberChars := fun member =>
    absurd (isNumber _ member) (by decide)
  unfold floatOfText
  rw [strip_of_forall visible, lower, String.toList_ofList, String.toList_ofList, folded,
    readSign_of_isNumber isNumber]
  dsimp only
  rw [if_neg, if_neg]
  rotate_left
  · intro word
    exact noNan (word ▸ by decide)
  · rintro (word | word) <;> exact noInf (word ▸ by decide)
  unfold readDecimal
  rw [List.takeWhile_eq_self_iff.mpr noExponent, List.dropWhile_eq_nil_iff.mpr noExponent]
  dsimp only
  rw [quantity.readMantissa_numberChars]
  rfl

theorem number_nonneg : 0 ≤ quantity.number :=
  div_nonneg (Nat.cast_nonneg _) (pow_nonneg (by norm_num) _)

/-- What the parsers make of a quantity: the number by the factor of the unit. -/
theorem bytesOf_text
    {factorOf : String → Option Nat}
    (noExponent : ∀ upper sign digits, quantity.suffix = .exponent upper sign digits →
      factorOf (lower (String.ofList quantity.suffix.unit)) = none) :
    bytesOf factorOf quantity.text =
      if quantity.fraction = none ∧ quantity.suffix = .plain then
        some ⌊quantity.value⌋
      else
        (factorOf (lower (String.ofList quantity.suffix.unit))).bind fun factor =>
          if floatLimit ≤ quantity.number then none else some ⌊quantity.number * factor⌋ := by
  have isNumber : ∀ character : Char, (character.isDigit || decide (character = '.')) =
        (character.isDigit || character = '.') := fun _ => rfl
  obtain ⟨numbers, units⟩ := quantity.filter_text _ isNumber
  unfold bytesOf
  rw [quantity.strip_text]
  dsimp only
  by_cases bare : quantity.fraction = none ∧ quantity.suffix = .plain
  · rw [if_pos (quantity.isDigits_text_iff.mpr bare), if_pos bare]
    obtain ⟨fraction, suffix⟩ := bare
    simp [text, numberChars, value, number, fraction, suffix, QuantitySuffix.unit,
      QuantitySuffix.digits, QuantitySuffix.factor]
  · rw [if_neg (mt quantity.isDigits_text_iff.mp bare), if_neg bare, units, numbers]
    cases known : factorOf (lower (String.ofList quantity.suffix.unit)) with
    | none => simp only [Option.bind_eq_bind, Option.bind_none]
    | some factor =>
        have noDigits : quantity.suffix.digits = [] := by
          cases suffix : quantity.suffix with
          | exponent upper sign digits =>
              rw [noExponent upper sign digits suffix] at known
              cases known
          | _ => rfl
        simp only [noDigits, List.append_nil, quantity.floatOfText_numberChars,
          Option.bind_eq_bind, Option.bind_some]
        by_cases beyond : floatLimit ≤ quantity.number
        · simp only [beyond, if_true]
        · simp only [beyond, if_false]
          exact congrArg some (truncated_eq_floor
            (mul_nonneg quantity.number_nonneg (Nat.cast_nonneg factor)))

/-! ## The values that are returned -/

/-- A number is rounded up or down to an integer. -/
def Rounded (value : Rat) (result : Int) : Prop := result = ⌊value⌋ ∨ result = ⌈value⌉

/-- Both parsers return the value, rounded, or nothing, and never two different
numbers. -/
structure ReadRight : Prop where
  adapter : ∀ result, Adapter.parseQuantityBytes quantity.text = some result →
    Rounded quantity.value result
  storage : ∀ result, exactQuantityBytes quantity.text = some result →
    Rounded quantity.value result
  same : ∀ first second, Adapter.parseQuantityBytes quantity.text = some first →
    exactQuantityBytes quantity.text = some second → first = second

/-- A factor that is too great makes no difference: the number is beyond the floats, so
that nothing is returned, or it is so small that the product rounds to the same. -/
def Harmless (factor : Nat) : Prop :=
  floatLimit ≤ quantity.number ∨ quantity.number * factor < ⌈quantity.value⌉ + 1

/-- A decimal suffix is read as a power of 1024, and the one for a thousandth as the one
for a million. -/
def KeepsFactor : Prop :=
  match quantity.suffix with
  | .milli | .mega => quantity.Harmless (1024 ^ 2)
  | .kilo => quantity.Harmless 1024
  | .giga => quantity.Harmless (1024 ^ 3)
  | .tera => quantity.Harmless (1024 ^ 4)
  | _ => True

/-- The factor of the storage controller is that of the adapter where it has one. -/
theorem byteFactor_of_unitFactor
    {unit : String} {factor : Nat} (known : Adapter.unitFactor unit = some factor) :
    Controllers.byteFactor unit = some factor := by
  unfold Controllers.byteFactor
  split
  · next tera =>
      simp only [List.contains_cons, List.contains_nil, Bool.or_false, Bool.or_eq_true,
        beq_iff_eq] at tera
      rcases tera with rfl | rfl | rfl <;> cases known
  · exact known

/-- No text is read as two different numbers. -/
theorem eq_of_parsed
    {raw : String} {first second : Int} (adapter : Adapter.parseQuantityBytes raw = some first)
    (storage : exactQuantityBytes raw = some second) : first = second := by
  rw [parseQuantityBytes_eq_bytesOf] at adapter
  unfold exactQuantityBytes at storage
  unfold bytesOf at adapter storage
  dsimp only at adapter storage
  split at adapter
  · next digits =>
      rw [if_pos digits] at storage
      exact Option.some.inj (adapter.symm.trans storage)
  · next noDigits =>
      rw [if_neg noDigits] at storage
      rw [Option.bind_eq_bind] at adapter storage
      obtain ⟨factor, known, read⟩ := Option.bind_eq_some_iff.mp adapter
      rw [byteFactor_of_unitFactor known, Option.bind_some] at storage
      exact Option.some.inj (read.symm.trans storage)

/-- A product by a greater factor rounds to the same exactly if it is small. -/
theorem rounded_floor_iff {binary : Nat} (greater : quantity.suffix.factor ≤ binary) :
    Rounded quantity.value ⌊quantity.number * binary⌋ ↔
      quantity.number * binary < ⌈quantity.value⌉ + 1 := by
  have above : quantity.value ≤ quantity.number * binary :=
    mul_le_mul_of_nonneg_left greater quantity.number_nonneg
  have least : ⌊quantity.value⌋ ≤ ⌊quantity.number * binary⌋ := Int.floor_mono above
  have next : ⌈quantity.value⌉ ≤ ⌊quantity.value⌋ + 1 := Int.ceil_le_floor_add_one _
  have small : quantity.number * binary < ⌈quantity.value⌉ + 1 ↔
      ⌊quantity.number * binary⌋ < ⌈quantity.value⌉ + 1 := by
    rw [Int.floor_lt]
    push_cast
    rfl
  have ordered : ⌊quantity.value⌋ ≤ ⌈quantity.value⌉ := Int.floor_le_ceil _
  rw [small]
  unfold Rounded
  omega

/-- When a parser with this factor returns the value, rounded, or nothing. -/
theorem reads_iff
    {factorOf : String → Option Nat} {known : Option Nat}
    (table : factorOf (lower (String.ofList quantity.suffix.unit)) = known)
    (noExponent : ∀ upper sign digits, quantity.suffix = .exponent upper sign digits →
      known = none)
    (bare : quantity.suffix = .plain → known = none)
    (greater : ∀ binary, known = some binary → quantity.suffix.factor ≤ binary) :
    (∀ result, bytesOf factorOf quantity.text = some result → Rounded quantity.value result) ↔
      ∀ binary, known = some binary → quantity.Harmless binary := by
  rw [quantity.bytesOf_text fun upper sign digits suffix =>
    table.trans (noExponent upper sign digits suffix), table]
  constructor
  · intro reads binary isKnown
    have suffixed : ¬ (quantity.fraction = none ∧ quantity.suffix = .plain) := by
      rintro ⟨-, suffix⟩
      rw [bare suffix] at isKnown
      cases isKnown
    rw [if_neg suffixed, isKnown, Option.bind_some] at reads
    by_cases beyond : floatLimit ≤ quantity.number
    · exact .inl beyond
    · rw [if_neg beyond] at reads
      exact .inr ((quantity.rounded_floor_iff (greater binary isKnown)).mp (reads _ rfl))
  · intro harmless result read
    split at read
    · obtain rfl := Option.some.inj read
      exact .inl rfl
    · obtain ⟨binary, isKnown, read⟩ := Option.bind_eq_some_iff.mp read
      rcases harmless binary isKnown with beyond | small
      · rw [if_pos beyond] at read
        cases read
      · by_cases beyond : floatLimit ≤ quantity.number
        · rw [if_pos beyond] at read
          cases read
        · rw [if_neg beyond] at read
          obtain rfl := Option.some.inj read
          exact (quantity.rounded_floor_iff (greater binary isKnown)).mpr small

/-- The suffixes with an `i` have the factor that is taken. -/
theorem keepsFactor_iff :
    quantity.KeepsFactor ↔
      ∀ binary, quantity.suffix.binaryFactor = some binary → quantity.Harmless binary := by
  have own : ∀ binary : Nat, quantity.suffix.factor = binary → quantity.Harmless binary := by
    intro binary same
    have above := Int.le_ceil quantity.value
    right
    rw [← same]
    exact lt_of_le_of_lt above (lt_add_one _)
  unfold KeepsFactor
  cases suffix : quantity.suffix
  case plain | peta | exa | pebi | exbi | exponent =>
    simp [QuantitySuffix.binaryFactor]
  case kibi | mebi | gibi | tebi =>
    simp only [QuantitySuffix.binaryFactor, Option.some.injEq, forall_eq', true_iff]
    exact own _ (by rw [suffix]; norm_num [QuantitySuffix.factor])
  all_goals simp only [QuantitySuffix.binaryFactor, Option.some.injEq, forall_eq']

/-- The two parsers read a quantity right exactly if the factor of its suffix is kept. -/
theorem readRight_iff : quantity.ReadRight ↔ quantity.KeepsFactor := by
  have storage : (∀ result, exactQuantityBytes quantity.text = some result →
      Rounded quantity.value result) ↔ quantity.KeepsFactor := by
    rw [quantity.keepsFactor_iff]
    apply quantity.reads_iff (QuantitySuffix.byteFactor_unit _)
    · intro upper sign digits suffix
      rw [suffix]
      rfl
    · intro suffix
      rw [suffix]
      rfl
    · intro binary known
      exact QuantitySuffix.factor_le_binaryFactor known
  constructor
  · intro right
    exact storage.mp right.storage
  · intro keeps
    refine ⟨?_, storage.mpr keeps, fun first second => eq_of_parsed⟩
    simp only [parseQuantityBytes_eq_bytesOf]
    apply (quantity.reads_iff (QuantitySuffix.unitFactor_unit _) _ _ _).mpr
    · intro binary known
      exact quantity.keepsFactor_iff.mp keeps binary
        (QuantitySuffix.binaryFactor_of_adapterFactor known)
    · intro upper sign digits suffix
      rw [suffix]
      rfl
    · intro suffix
      rw [suffix]
      rfl
    · intro binary known
      exact QuantitySuffix.factor_le_binaryFactor
        (QuantitySuffix.binaryFactor_of_adapterFactor known)

end Quantity

/-- One thousand bytes. -/
def oneKilo : Quantity where
  whole := ['1']
  fraction := none
  suffix := .kilo
  wholeDigits := by simp
  fractionDigits := by simp
  suffixDigits := by simp [QuantitySuffix.digits]
  hasDigits := by simp
  hasExponent := by simp

/-- `1k` is read as 1024. -/
theorem not_readRight_oneKilo : ¬ oneKilo.ReadRight := by
  intro right
  have value : oneKilo.value = 1000 := by
    have one : digitsValue ['1'] = 1 := by decide
    norm_num [Quantity.value, Quantity.number, oneKilo, one, QuantitySuffix.factor]
  have read : Adapter.parseQuantityBytes oneKilo.text = some 1024 := by decide +kernel
  have rounded := right.adapter 1024 read
  rw [Quantity.Rounded, value] at rounded
  norm_num at rounded

end Storage
end K1s
