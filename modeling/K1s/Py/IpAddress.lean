import K1s.Py.Encode
import K1s.Py.IpNetwork

/-!
# Addresses

`ip_address` of Python's `ipaddress`, `str` of an address, and the hosts of a network.

The main results are that the text of an address reads as that address, and that the
hosts of a network are addresses of it.  For IPv6 the text leaves out its longest run of
zeros, and the reader fills the gap again.
-/

namespace K1s
namespace Py

/-- `IPv4Address` or `IPv6Address`. -/
structure IpAddress where
  version : IpVersion
  value : Nat
  scopeId : Option String
  deriving DecidableEq

def ipAddress (text : String) : Option IpAddress :=
  if text.toList.contains '/' then none
  else
    ((ipv4Int text).map fun value => ⟨.v4, value, none⟩).orElse fun _ =>
      (ipv6Address text).map fun (value, scopeId) => ⟨.v6, value, scopeId⟩

namespace IpAddress

def toText (address : IpAddress) : String :=
  match address.version with
  | .v4 =>
      String.intercalate "." ([24, 16, 8, 0].map fun shift =>
        toString (address.value / 2 ^ shift % 256))
  | .v6 =>
      String.intercalate ":" (compressHextets (hextetsOf address.value)) ++
        (address.scopeId.elim "" fun scopeId => "%" ++ scopeId)

/-- What the values of the class are. -/
structure Valid (address : IpAddress) : Prop where
  inside : address.value < 2 ^ address.version.bits
  scope : ∀ scopeId ∈ address.scopeId,
    address.version = .v6 ∧ scopeId ≠ "" ∧ '%' ∉ scopeId.toList ∧ '/' ∉ scopeId.toList

end IpAddress

variable {host : IpAddress} {network : IpNetwork}

namespace IpNetwork

/-- `hosts()`: all addresses of a network of one or two, else those but the first and, for
IPv4, the last. -/
def hosts (network : IpNetwork) : List IpAddress :=
  if network.prefixlen = network.version.bits then
    [⟨network.version, network.networkAddress, network.scopeId⟩]
  else if network.prefixlen + 1 = network.version.bits then
    (List.range' network.networkAddress network.numAddresses).map (⟨network.version, ·, none⟩)
  else
    let count :=
      match network.version with
      | .v4 => network.numAddresses - 2
      | .v6 => network.numAddresses - 1
    (List.range' (network.networkAddress + 1) count).map (⟨network.version, ·, none⟩)

theorem mem_addresses_of_mem_hosts (member : host ∈ network.hosts) :
    (host.version, host.value) ∈ network.addresses := by
  have positive := network.numAddresses_pos
  unfold hosts at member
  split at member
  · rw [List.mem_singleton] at member
    rw [member]
    exact network.networkAddress_mem
  · split at member
    · obtain ⟨value, inside, rfl⟩ := List.mem_map.1 member
      rw [List.mem_range'_1] at inside
      exact ⟨rfl, inside⟩
    · obtain ⟨value, inside, rfl⟩ := List.mem_map.1 member
      rw [List.mem_range'_1] at inside
      refine ⟨rfl, ?_, ?_⟩
      · dsimp only
        omega
      · dsimp only
        split at inside <;> omega

end IpNetwork

/-! ## Splitting what was joined -/

variable {separator : Char}

theorem splitChars_of_notMem
    {text : List Char}
    (absent : separator ∉ text) : splitChars separator text = [text] := by
  induction text with
  | nil => rfl
  | cons character rest ih =>
      rw [List.mem_cons, not_or] at absent
      rw [splitChars, if_neg (Ne.symm absent.1), ih absent.2]

theorem splitChars_append_cons
    {front : List Char} (absent : separator ∉ front) (rest : List Char) :
    splitChars separator (front ++ separator :: rest) = front :: splitChars separator rest := by
  induction front with
  | nil => rw [List.nil_append, splitChars, if_pos rfl]
  | cons character others ih =>
      rw [List.mem_cons, not_or] at absent
      rw [List.cons_append, splitChars, if_neg (Ne.symm absent.1), ih absent.2]

variable {parts : List String}

/-- Texts without the separator come back from the joined text. -/
theorem split_intercalate
    (nonempty : parts ≠ []) (absent : ∀ part ∈ parts, separator ∉ part.toList) :
    split separator (String.intercalate separator.toString parts) = parts := by
  induction parts with
  | nil => exact absurd rfl nonempty
  | cons part rest ih =>
      cases rest with
      | nil =>
          rw [String.intercalate_singleton, split,
            splitChars_of_notMem (absent part List.mem_cons_self)]
          simp
      | cons next others =>
          have later := ih (List.cons_ne_nil next others) fun part member =>
            absent part (List.mem_cons_of_mem _ member)
          rw [String.intercalate_cons_cons, split, String.toList_append, String.toList_append,
            Char.toString, String.toList_singleton, List.append_assoc, List.singleton_append,
            splitChars_append_cons (absent part List.mem_cons_self), List.map_cons,
            String.ofList_toList]
          exact congrArg (part :: ·) later

variable {character : Char}

/-- What is in the joined text is in the separator or in a part. -/
theorem notMem_intercalate
    {separator : String} (notSeparator : character ∉ separator.toList)
    (absent : ∀ part ∈ parts, character ∉ part.toList) :
    character ∉ (String.intercalate separator parts).toList := by
  induction parts with
  | nil => simp
  | cons part rest ih =>
      rw [List.forall_mem_cons] at absent
      cases rest with
      | nil => simpa using absent.1
      | cons next others =>
          rw [String.intercalate_cons_cons, String.toList_append, String.toList_append]
          simp only [List.mem_append, not_or]
          exact ⟨⟨absent.1, notSeparator⟩, ih absent.2⟩

variable {text : String}

/-- A character other than the separator stays in one of the parts. -/
theorem exists_mem_split
    (member : character ∈ text.toList) (other : character ≠ separator) :
    ∃ part ∈ split separator text, character ∈ part.toList := by
  have onChars : ∀ chars : List Char, character ∈ chars →
      ∃ part ∈ splitChars separator chars, character ∈ part := by
    intro chars
    induction chars with
    | nil => exact fun member => absurd member List.not_mem_nil
    | cons first rest ih =>
        intro member
        rw [splitChars]
        rcases List.mem_cons.1 member with rfl | later
        · rw [if_neg other]
          cases splitChars separator rest with
          | nil => exact ⟨_, List.mem_cons_self, List.mem_cons_self⟩
          | cons part others => exact ⟨_, List.mem_cons_self, List.mem_cons_self⟩
        · obtain ⟨part, isPart, inPart⟩ := ih later
          split
          · exact ⟨part, List.mem_cons_of_mem _ isPart, inPart⟩
          · revert isPart
            cases splitChars separator rest with
            | nil => exact fun isPart => absurd isPart List.not_mem_nil
            | cons head others =>
                intro isPart
                rcases List.mem_cons.1 isPart with rfl | isOther
                · exact ⟨_, List.mem_cons_self, List.mem_cons_of_mem _ inPart⟩
                · exact ⟨part, List.mem_cons_of_mem _ isOther, inPart⟩
  obtain ⟨part, isPart, inPart⟩ := onChars text.toList member
  exact ⟨String.ofList part, List.mem_map_of_mem isPart, by simpa using inPart⟩

/-! ## IPv4 -/

variable {octet : Nat}

theorem parseOctet_toString
    (small : octet < 256) : parseOctet (toString octet) = some octet := by
  have all : ∀ octet < 256, parseOctet (toString octet) = some octet := by decide +kernel
  exact all octet small

theorem digits_of_parseOctet (read : parseOctet text = some octet) :
    octet < 256 ∧ ∀ character ∈ text.toList, character.isDigit = true := by
  unfold parseOctet at read
  split at read
  · cases read
  · next passed =>
      rw [not_or] at passed
      have digits : isDigits text = true := by simpa using passed.1
      rw [isDigits, Bool.and_eq_true] at digits
      split at read
      · cases read
      · next small =>
          rw [← Option.some.inj read]
          exact ⟨by omega, List.all_eq_true.1 digits.2⟩

variable {value : Nat}

theorem octets_of_ipv4Int (read : ipv4Int text = some value) :
    value < 2 ^ 32 ∧ ∀ part ∈ split '.' text, ∀ character ∈ part.toList,
      character.isDigit = true := by
  unfold ipv4Int at read
  split at read
  · next first second third fourth parts =>
      simp only [List.mapM_cons, List.mapM_nil, Option.bind_eq_bind, Option.bind_eq_some_iff,
        Option.pure_def, Option.some.injEq] at read
      obtain ⟨octets, ⟨one, readOne, ⟨_, ⟨two, readTwo, ⟨_, ⟨three, readThree,
        ⟨_, ⟨four, readFour, ⟨_, rfl, rfl⟩⟩, rfl⟩⟩, rfl⟩⟩, rfl⟩⟩, rfl⟩ := read
      have first := digits_of_parseOctet readOne
      have second := digits_of_parseOctet readTwo
      have third := digits_of_parseOctet readThree
      have fourth := digits_of_parseOctet readFour
      refine ⟨?_, ?_⟩
      · simp only [List.foldl_cons, List.foldl_nil]
        omega
      · rw [parts]
        simp only [List.forall_mem_cons]
        exact ⟨first.2, second.2, third.2, fourth.2, by simp⟩
  · cases read

theorem ipv4Int_of_colon (colon : ':' ∈ text.toList) : ipv4Int text = none := by
  cases read : ipv4Int text with
  | none => rfl
  | some value =>
      obtain ⟨part, isPart, inPart⟩ : ∃ part ∈ split '.' text, ':' ∈ part.toList :=
        exists_mem_split colon (by decide)
      exact absurd ((octets_of_ipv4Int read).2 part isPart ':' inPart) (by decide)

/-- The decimal text of a number has digits only. -/
theorem notMem_toString
    (noDigit : separator.isDigit = false)
    (number : Nat) : separator ∉ (toString number).toList := by
  intro member
  rw [Nat.toString_eq_repr, Nat.toList_repr] at member
  have digit := Nat.isDigit_of_mem_toDigits (by decide) (by decide) member
  rw [noDigit] at digit
  cases digit

theorem mapM_parseOctet {octets : List Nat} (small : ∀ octet ∈ octets, octet < 256) :
    (octets.map toString).mapM parseOctet = some octets := by
  induction octets with
  | nil => rfl
  | cons octet rest ih =>
      rw [List.forall_mem_cons] at small
      rw [List.map_cons, List.mapM_cons, parseOctet_toString small.1, ih small.2]
      rfl

def octetsOf (value : Nat) : List Nat :=
  [value / 2 ^ 24 % 256, value / 2 ^ 16 % 256, value / 2 ^ 8 % 256, value / 2 ^ 0 % 256]

theorem octetsOf_lt (value : Nat) : ∀ octet ∈ octetsOf value, octet < 256 := by
  unfold octetsOf
  simp only [List.forall_mem_cons]
  exact ⟨by omega, by omega, by omega, by omega, by simp⟩

theorem foldl_octetsOf (inside : value < 2 ^ 32) :
    (octetsOf value).foldl (fun value octet => 256 * value + octet) 0 = value := by
  simp only [octetsOf, List.foldl_cons, List.foldl_nil]
  omega

theorem ipAddress_toText_v4 (inside : value < 2 ^ 32) :
    ipAddress (IpAddress.toText ⟨.v4, value, none⟩) = some ⟨.v4, value, none⟩ := by
  have text : IpAddress.toText ⟨.v4, value, none⟩ =
      String.intercalate "." ((octetsOf value).map toString) := rfl
  have absent : ∀ character : Char, character.isDigit = false →
      ∀ part ∈ (octetsOf value).map toString, character ∉ part.toList := by
    intro character noDigit part member
    obtain ⟨octet, -, rfl⟩ := List.mem_map.1 member
    exact notMem_toString noDigit octet
  have noSlash : (String.intercalate "." ((octetsOf value).map toString)).toList.contains '/' =
      false := by
    rw [List.contains_eq_mem, decide_eq_false_iff_not]
    exact notMem_intercalate (by decide) (absent '/' (by decide))
  have parts : split '.' (String.intercalate "." ((octetsOf value).map toString)) =
      (octetsOf value).map toString :=
    split_intercalate (by simp [octetsOf]) (absent '.' (by decide))
  have read : ipv4Int (String.intercalate "." ((octetsOf value).map toString)) = some value := by
    rw [ipv4Int, parts]
    show (((octetsOf value).map toString).mapM parseOctet).bind _ = _
    rw [mapM_parseOctet (octetsOf_lt value)]
    exact congrArg some (foldl_octetsOf inside)
  rw [text, ipAddress, noSlash, read]
  rfl

/-! ## Hextets -/

def hextetText (value : Nat) : String := String.ofList (Nat.toDigits 16 value)

variable {digit : Nat}

theorem hexValue_digitChar
    (small : digit < 16) : hexValue digit.digitChar = some digit := by
  have all : ∀ digit < 16, hexValue digit.digitChar = some digit := by decide
  exact all digit small

theorem hexValue_lt (read : hexValue character = some digit) : digit < 16 := by
  unfold hexValue at read
  simp only [Char.isDigit, Char.le_def, UInt32.le_iff_toNat_le, Bool.and_eq_true,
    decide_eq_true_eq] at read
  have value : character.toNat = character.val.toNat := rfl
  have nine : '9'.val.toNat = 57 := rfl
  have six : 'f'.val.toNat = 102 := rfl
  have upperSix : 'F'.val.toNat = 70 := rfl
  have zero : '0'.toNat = 48 := rfl
  have ten : 'a'.toNat = 97 := rfl
  have upperTen : 'A'.toNat = 65 := rfl
  split_ifs at read <;> rw [Option.some.injEq] at read <;> omega

def hexDigitsValue (before : Nat) (digits : List Char) : Option Nat :=
  digits.foldlM (fun value digit => (hexValue digit).map (16 * value + ·)) before

theorem hexDigitsValue_toDigits (value : Nat) :
    hexDigitsValue 0 (Nat.toDigits 16 value) = some value := by
  induction value using Nat.strong_induction_on with
  | _ value ih =>
      by_cases small : value < 16
      · rw [Nat.toDigits_of_lt_base small]
        simp [hexDigitsValue, hexValue_digitChar small]
      · have smaller := ih (value / 16) (by omega)
        unfold hexDigitsValue at smaller ⊢
        rw [Nat.toDigits_of_base_le (by decide) (by omega), List.foldlM_append, smaller]
        simp [hexValue_digitChar (Nat.mod_lt value (by decide : 0 < 16))]
        omega

variable {digits : List Char} {before : Nat}

theorem hexDigitsValue_lt (read : hexDigitsValue before digits = some value) :
    value < (before + 1) * 16 ^ digits.length := by
  induction digits generalizing before with
  | nil =>
      obtain rfl : before = value := Option.some.inj read
      simp
  | cons digit rest ih =>
      unfold hexDigitsValue at read
      rw [List.foldlM_cons, Option.bind_eq_bind, Option.bind_eq_some_iff] at read
      obtain ⟨next, readDigit, readRest⟩ := read
      obtain ⟨found, isHex, rfl⟩ := Option.map_eq_some_iff.1 readDigit
      have small := hexValue_lt isHex
      calc value < (16 * before + found + 1) * 16 ^ rest.length := ih readRest
        _ ≤ ((before + 1) * 16) * 16 ^ rest.length := Nat.mul_le_mul_right _ (by omega)
        _ = (before + 1) * 16 ^ (digit :: rest).length := by
            rw [List.length_cons, Nat.pow_succ', Nat.mul_assoc]

theorem isHex_of_hexDigitsValue (read : hexDigitsValue before digits = some value) :
    ∀ digit ∈ digits, (hexValue digit).isSome := by
  induction digits generalizing before with
  | nil => simp
  | cons digit rest ih =>
      unfold hexDigitsValue at read
      rw [List.foldlM_cons, Option.bind_eq_bind, Option.bind_eq_some_iff] at read
      obtain ⟨next, readDigit, readRest⟩ := read
      obtain ⟨found, isHex, -⟩ := Option.map_eq_some_iff.1 readDigit
      rw [List.forall_mem_cons]
      exact ⟨by rw [isHex]; rfl, ih readRest⟩

theorem parseHextet_hextetText
    (small : value < 65536) : parseHextet (hextetText value) = some value := by
  have short : (Nat.toDigits 16 value).length ≤ 4 :=
    (Nat.length_toDigits_le_iff (by decide) (by decide)).2 small
  rw [parseHextet, hextetText, if_neg, String.toList_ofList]
  · exact hexDigitsValue_toDigits value
  · simpa using short

theorem parseHextet_lt (read : parseHextet text = some value) : value < 65536 := by
  unfold parseHextet at read
  split at read
  · cases read
  · next fits =>
      rw [not_or] at fits
      have bounded := hexDigitsValue_lt read
      have short : text.toList.length ≤ 4 := by
        rw [String.length_toList]
        omega
      calc value < (0 + 1) * 16 ^ text.toList.length := bounded
        _ ≤ 1 * 16 ^ 4 := Nat.mul_le_mul_left _ (Nat.pow_le_pow_right (by decide) short)

theorem notMem_hextetText
    (noHex : hexValue character = none)
    (value : Nat) : character ∉ (hextetText value).toList := by
  rw [hextetText, String.toList_ofList]
  intro member
  have isHex := isHex_of_hexDigitsValue (hexDigitsValue_toDigits value) character member
  rw [noHex] at isHex
  cases isHex

theorem hextetText_ne_empty (value : Nat) : hextetText value ≠ "" := by
  intro empty
  have digits := congrArg String.toList empty
  rw [hextetText, String.toList_ofList] at digits
  exact Nat.toDigits_ne_nil digits

/-! ## Sequences of hextets -/

/-- The value of hextets, after others. -/
theorem foldlM_parseHextet (parts : List String) (before : Nat) :
    parts.foldlM (fun value part => (parseHextet part).map (65536 * value + ·)) before =
      (hextetsValue parts).map fun value => before * 65536 ^ parts.length + value := by
  induction parts generalizing before with
  | nil => simp [hextetsValue]
  | cons part rest ih =>
      rw [hextetsValue, List.foldlM_cons, List.foldlM_cons]
      cases parseHextet part with
      | none => rfl
      | some found =>
          simp only [Option.map_some, Option.bind_eq_bind, Option.bind_some, ih,
            Option.map_map]
          refine congrArg (fun shown => Option.map shown (hextetsValue rest))
            (funext fun value => ?_)
          simp only [Function.comp_apply, List.length_cons, Nat.pow_succ]
          ring

theorem hextetsValue_append (front back : List String) :
    hextetsValue (front ++ back) = (hextetsValue front).bind fun high =>
        (hextetsValue back).map fun low => high * 65536 ^ back.length + low := by
  rw [hextetsValue, List.foldlM_append]
  exact congrArg (Option.bind (hextetsValue front))
    (funext fun high => foldlM_parseHextet back high)

theorem hextetsValue_singleton
    (small : value < 65536) : hextetsValue [hextetText value] = some value := by
  simp [hextetsValue, parseHextet_hextetText small]

theorem hextetsValue_replicate_zero (count : Nat) :
    hextetsValue (List.replicate count "0") = some 0 := by
  induction count with
  | zero => rfl
  | succ count ih =>
      have zero : hextetsValue ["0"] = some 0 := by decide
      rw [List.replicate_succ', hextetsValue_append, ih, zero]
      simp

theorem hextetsValue_lt
    (read : hextetsValue parts = some value) : value < 65536 ^ parts.length := by
  induction parts generalizing value with
  | nil =>
      obtain rfl : 0 = value := Option.some.inj read
      simp
  | cons part rest ih =>
      rw [show part :: rest = [part] ++ rest from rfl, hextetsValue_append,
        Option.bind_eq_some_iff] at read
      obtain ⟨high, readPart, readRest⟩ := read
      obtain ⟨low, isLow, rfl⟩ := Option.map_eq_some_iff.1 readRest
      have small : high < 65536 := by
        simp [hextetsValue] at readPart
        exact parseHextet_lt readPart
      calc high * 65536 ^ rest.length + low
          < high * 65536 ^ rest.length + 65536 ^ rest.length :=
            Nat.add_lt_add_left (ih isLow) _
        _ = (high + 1) * 65536 ^ rest.length := by ring
        _ ≤ 65536 * 65536 ^ rest.length := Nat.mul_le_mul_right _ small
        _ = 65536 ^ (part :: rest).length := by rw [List.length_cons, Nat.pow_succ']

/-- The hextets of a number, of any count, read as its remainder. -/
theorem hextetsValue_hextets (count value : Nat) :
    hextetsValue ((List.range count).map fun index =>
        hextetText (value / 65536 ^ (count - 1 - index) % 65536)) =
      some (value % 65536 ^ count) := by
  induction count generalizing value with
  | zero => simp [hextetsValue, Nat.mod_one]
  | succ count ih =>
      have front : ((List.range count).map fun index =>
          hextetText (value / 65536 ^ (count + 1 - 1 - index) % 65536)) =
            (List.range count).map fun index =>
              hextetText (value / 65536 / 65536 ^ (count - 1 - index) % 65536) := by
        refine List.map_congr_left fun index inside => ?_
        rw [List.mem_range] at inside
        rw [Nat.div_div_eq_div_mul, ← Nat.pow_succ']
        congr 4
        omega
      rw [List.range_succ, List.map_append, front, hextetsValue_append, ih,
        List.map_singleton, hextetsValue_singleton (Nat.mod_lt _ (by decide))]
      simp only [Option.bind_some, Option.map_some, List.length_singleton, Nat.pow_one,
        Nat.add_sub_cancel, Nat.sub_self, Nat.pow_zero, Nat.div_one]
      rw [Nat.pow_succ', Nat.mod_mul]
      congr 1
      ring

/-- The eight hextets of an address read as the address. -/
theorem hextetsValue_hextetsOf
    (inside : value < 2 ^ 128) : hextetsValue (hextetsOf value) = some value := by
  have read := hextetsValue_hextets 8 value
  rw [Nat.mod_eq_of_lt (by simpa using inside)] at read
  exact read

/-- The only gap inside the parts. -/
theorem filter_gap
    {front back : List String} (frontNonempty : front ≠ []) (backNonempty : back ≠ [])
    (frontFilled : ∀ index, 1 ≤ index → front[index]? ≠ some "")
    (backFilled : ∀ index, index + 1 < back.length → back[index]? ≠ some "") :
    (List.range' 1 ((front ++ "" :: back).length - 2)).filter
        (fun index => (front ++ "" :: back)[index]? = some "") = [front.length] := by
  have frontPositive := List.length_pos_iff.2 frontNonempty
  have backPositive := List.length_pos_iff.2 backNonempty
  have indices : List.range' 1 ((front ++ "" :: back).length - 2) =
      List.range' 1 (front.length - 1) ++
        front.length :: List.range' (front.length + 1) (back.length - 1) := by
    have joined := @List.range'_append 1 (front.length - 1) back.length 1
    rw [show 1 + 1 * (front.length - 1) = front.length by omega] at joined
    rw [← List.range'_succ, Nat.sub_add_cancel backPositive, joined, List.length_append,
      List.length_cons]
    congr 1
    omega
  have before : (List.range' 1 (front.length - 1)).filter
      (fun index => (front ++ "" :: back)[index]? = some "") = [] := by
    rw [List.filter_eq_nil_iff]
    intro index inside
    rw [List.mem_range'_1] at inside
    rw [List.getElem?_append_left (by omega)]
    simpa using frontFilled index inside.1
  have after : (List.range' (front.length + 1) (back.length - 1)).filter
      (fun index => (front ++ "" :: back)[index]? = some "") = [] := by
    rw [List.filter_eq_nil_iff]
    intro index inside
    rw [List.mem_range'_1] at inside
    obtain ⟨offset, rfl⟩ := Nat.exists_eq_add_of_le inside.1
    rw [List.getElem?_append_right (by omega),
      show front.length + 1 + offset - front.length = offset + 1 by omega, List.getElem?_cons_succ]
    simpa using backFilled offset (by omega)
  rw [indices, List.filter_append, before, List.filter_cons, if_pos (by simp), after]
  rfl

/-- What the loop of `_compress_hextets` finds is a run of zeros. -/
theorem longestZeros_zeros
    (front rest : List String) (length : Nat) (best : Nat × Nat) (short : length ≤ front.length)
    (zeros : ∀ index, front.length - length ≤ index → index < front.length →
      front[index]? = some "0")
    (bestShort : best.1 + best.2 ≤ front.length)
    (bestZeros : ∀ index, best.1 ≤ index → index < best.1 + best.2 → front[index]? = some "0") :
    let found := longestZeros rest front.length length best
    found.1 + found.2 ≤ (front ++ rest).length ∧
      ∀ index, found.1 ≤ index → index < found.1 + found.2 →
        (front ++ rest)[index]? = some "0" := by
  induction rest generalizing front length best with
  | nil => 
      rw [List.append_nil]
      exact ⟨bestShort, bestZeros⟩
  | cons hextet rest ih =>
      have later := ih (front ++ [hextet])
      rw [List.append_assoc, List.singleton_append, List.length_append,
        List.length_singleton] at later
      have kept : ∀ index, index < front.length → ∀ text, front[index]? = some text →
          (front ++ [hextet])[index]? = some text := by
        intro index inside text found
        rw [List.getElem?_append_left inside, found]
      have bestKept : ∀ index, best.1 ≤ index → index < best.1 + best.2 →
          (front ++ [hextet])[index]? = some "0" := fun index atLeast below =>
        kept index (by omega) _ (bestZeros index atLeast below)
      rw [longestZeros]
      by_cases zero : hextet = "0"
      · have longer : ∀ index, front.length - length ≤ index → index < front.length + 1 →
            (front ++ [hextet])[index]? = some "0" := by
          intro index atLeast below
          by_cases inside : index < front.length
          · exact kept index inside _ (zeros index atLeast inside)
          · obtain rfl : index = front.length := by omega
            simp [zero]
        rw [if_pos zero]
        refine later _ _ (by omega) (fun index atLeast below => longer index (by omega) below) ?_ ?_
        · split
          · dsimp only
            omega
          · omega
        · split
          · exact fun index atLeast below => longer index atLeast (by omega)
          · exact bestKept
      · rw [if_neg zero]
        exact later _ _ (by omega) (fun index atLeast below => by omega) (by omega) bestKept

/-- The hextets on one side of the gap, with an empty text in place of none. -/
def sideOfGap (side : List String) : List String := if side = [] then [""] else side

/-- An address with a gap reads as what stands before it and after it. -/
theorem ipv6PartsInt_gap
    {high low : List String} (highFilled : "" ∉ high) (lowFilled : "" ∉ low)
    (short : high.length + low.length ≤ 6) :
    ipv6PartsInt (sideOfGap high ++ "" :: sideOfGap low) =
      (hextetsValue high).bind fun highValue =>
        (hextetsValue low).map fun lowValue =>
          highValue * 2 ^ (16 * (8 - high.length)) + lowValue := by
  have frontFilled : ∀ index, 1 ≤ index → (sideOfGap high)[index]? ≠ some "" := by
    intro index positive found
    unfold sideOfGap at found
    split at found
    · simp [show index ≠ 0 by omega] at found
    · exact highFilled (List.mem_of_getElem? found)
  have backFilled : ∀ index, index + 1 < (sideOfGap low).length →
      (sideOfGap low)[index]? ≠ some "" := by
    intro index inside found
    unfold sideOfGap at found inside
    split at found
    · next empty => simp [empty] at inside
    · exact lowFilled (List.mem_of_getElem? found)
  have frontNonempty : sideOfGap high ≠ [] := by
    unfold sideOfGap
    split <;> simp_all
  have backNonempty : sideOfGap low ≠ [] := by
    unfold sideOfGap
    split <;> simp_all
  have oneGap := filter_gap frontNonempty backNonempty frontFilled backFilled
  have fewParts : ¬ 9 < (sideOfGap high ++ "" :: sideOfGap low).length := by
    unfold sideOfGap
    split <;> split <;> simp <;> omega
  have isHead : (sideOfGap high ++ "" :: sideOfGap low).head? = some "" ↔ high = [] := by
    unfold sideOfGap
    cases high with
    | nil => simp
    | cons first rest =>
        have filled : first ≠ "" := fun empty => highFilled (by simp [empty])
        simp [filled]
  have isLast : (sideOfGap high ++ "" :: sideOfGap low).getLast? = some "" ↔ low = [] := by
    rw [List.getLast?_append_cons, List.getLast?_cons_of_ne_nil backNonempty]
    unfold sideOfGap
    split
    · next noLow => simp [noLow]
    · next someLow =>
        simp only [someLow, iff_false]
        exact fun last => lowFilled (List.mem_of_getLast? last)
  have partsHi : (if high = [] then (sideOfGap high).length - 1 else (sideOfGap high).length) =
      high.length := by
    unfold sideOfGap
    split <;> simp_all
  have partsLo : (if low = [] then
        (sideOfGap high ++ "" :: sideOfGap low).length - (sideOfGap high).length - 2
      else (sideOfGap high ++ "" :: sideOfGap low).length - (sideOfGap high).length - 1) =
        low.length := by
    rw [List.length_append, List.length_cons, Nat.add_sub_cancel_left]
    unfold sideOfGap
    split <;> simp_all
  have taken : (sideOfGap high ++ "" :: sideOfGap low).take high.length = high := by
    unfold sideOfGap
    split
    · next noHigh => rw [noHigh, List.length_nil, List.take_zero]
    · exact List.take_left
  have dropped : ∀ front : List String, (front ++ "" :: sideOfGap low).drop
      ((front ++ "" :: sideOfGap low).length - low.length) = low := by
    intro front
    unfold sideOfGap
    split
    · next noLow => rw [noLow, List.length_nil, Nat.sub_zero, List.drop_length]
    · rw [List.append_cons, List.length_append, Nat.add_sub_cancel, List.drop_left]
  rw [ipv6PartsInt, if_neg fewParts, oneGap]
  simp only [isHead, isLast, partsHi, partsLo, taken, dropped]
  rw [if_neg]
  · cases hextetsValue high <;> cases hextetsValue low <;> rfl
  · rintro (⟨rfl, notZero⟩ | ⟨rfl, notZero⟩ | tooMany)
    · exact notZero rfl
    · exact notZero rfl
    · omega

/-! ## IPv6 -/

@[simp] theorem length_hextetsOf (value : Nat) : (hextetsOf value).length = 8 := by
  simp [hextetsOf]

variable {part : String}

theorem hextet_of_mem
    (member : part ∈ hextetsOf value) : ∃ hextet, part = hextetText hextet := by
  obtain ⟨index, -, rfl⟩ := List.mem_map.1 member
  exact ⟨_, rfl⟩

/-- The address is shown as it is, or with a gap of at least two zeros. -/
theorem compressHextets_cases (hextets : List String) :
    compressHextets hextets = hextets ∨
      ∃ high count low, 2 ≤ count ∧ hextets = high ++ (List.replicate count "0" ++ low) ∧
        compressHextets hextets = sideOfGap high ++ "" :: sideOfGap low := by
  have zeros := longestZeros_zeros [] hextets 0 (0, 0) le_rfl (by simp) (by simp) (by simp)
  rw [List.nil_append, List.length_nil] at zeros
  dsimp only at zeros
  unfold compressHextets
  generalize longestZeros hextets 0 0 (0, 0) = run at zeros ⊢
  obtain ⟨start, count⟩ := run
  obtain ⟨fits, areZeros⟩ := zeros
  dsimp only at fits areZeros ⊢
  by_cases short : count ≤ 1
  · exact Or.inl (if_pos short)
  · refine Or.inr ⟨hextets.take start, count, hextets.drop (start + count), by omega, ?_, ?_⟩
    · have run : (hextets.drop start).take count = List.replicate count "0" := by
        apply List.ext_getElem?
        intro index
        by_cases inside : index < count
        · rw [List.getElem?_take_of_lt inside, List.getElem?_drop,
            areZeros (start + index) (by omega) (by omega), List.getElem?_replicate,
            if_pos inside]
        · rw [List.getElem?_eq_none (by simp; omega), List.getElem?_eq_none (by simp; omega)]
      rw [← run, ← List.drop_drop, List.take_append_drop, List.take_append_drop]
    · have high : (if start = 0 then [""] else hextets.take start) =
          sideOfGap (hextets.take start) := by
        have empty : hextets.take start = [] ↔ start = 0 := by
          rw [List.take_eq_nil_iff]
          refine or_iff_left_of_imp fun none => ?_
          rw [none, List.length_nil] at fits
          omega
        simp only [sideOfGap, empty]
      have low : (if start + count = hextets.length then [""] else hextets.drop (start + count)) =
          sideOfGap (hextets.drop (start + count)) := by
        have empty : hextets.drop (start + count) = [] ↔ start + count = hextets.length := by
          rw [List.drop_eq_nil_iff]
          omega
        simp only [sideOfGap, empty]
      rw [if_neg short, high, low, List.append_assoc, List.singleton_append]

/-- Every part that is shown is empty or a hextet. -/
theorem part_of_mem_compressHextets (member : part ∈ compressHextets (hextetsOf value)) :
    part = "" ∨ ∃ hextet, part = hextetText hextet := by
  rcases compressHextets_cases (hextetsOf value) with same | ⟨high, count, low, -, parts, shown⟩
  · rw [same] at member
    exact Or.inr (hextet_of_mem member)
  · rw [shown] at member
    have ofSide : ∀ side : List String, (∀ text ∈ side, text ∈ hextetsOf value) →
        part ∈ sideOfGap side → part = "" ∨ ∃ hextet, part = hextetText hextet := by
      intro side within isPart
      unfold sideOfGap at isPart
      split at isPart
      · exact Or.inl (List.mem_singleton.1 isPart)
      · exact Or.inr (hextet_of_mem (within part isPart))
    rcases List.mem_append.1 member with isHigh | isLow
    · exact ofSide high (fun text isText => by rw [parts]; simp [isText]) isHigh
    · rcases List.mem_cons.1 isLow with isGap | isLow
      · exact Or.inl isGap
      · exact ofSide low (fun text isText => by rw [parts]; simp [isText]) isLow

theorem notMem_compressHextets (noHex : hexValue character = none) (value : Nat) :
    ∀ part ∈ compressHextets (hextetsOf value), character ∉ part.toList := by
  intro part member
  rcases part_of_mem_compressHextets member with rfl | ⟨hextet, rfl⟩
  · simp
  · exact notMem_hextetText noHex hextet

theorem three_le_length_compressHextets (value : Nat) :
    3 ≤ (compressHextets (hextetsOf value)).length := by
  have positive : ∀ side : List String, 1 ≤ (sideOfGap side).length := by
    intro side
    unfold sideOfGap
    split
    · rfl
    · next filled => exact List.length_pos_iff.2 filled
  rcases compressHextets_cases (hextetsOf value) with same | ⟨high, count, low, -, -, shown⟩
  · rw [same, length_hextetsOf]
    decide
  · have one := positive high
    have other := positive low
    rw [shown, List.length_append, List.length_cons]
    omega

/-- The shown hextets read as the address. -/
theorem ipv6PartsInt_compressHextets (inside : value < 2 ^ 128) :
    ipv6PartsInt (compressHextets (hextetsOf value)) = some value := by
  have whole := hextetsValue_hextetsOf inside
  have filled : "" ∉ hextetsOf value := fun member => by
    obtain ⟨hextet, empty⟩ := hextet_of_mem member
    exact hextetText_ne_empty hextet empty.symm
  rcases compressHextets_cases (hextetsOf value) with same | ⟨high, count, low, two, parts, shown⟩
  · have noGap : (List.range' 1 ((hextetsOf value).length - 2)).filter
        (fun index => (hextetsOf value)[index]? = some "") = [] := by
      rw [List.filter_eq_nil_iff]
      intro index _ empty
      exact filled (List.mem_of_getElem? (by simpa using empty))
    rw [same, ipv6PartsInt, noGap, length_hextetsOf]
    exact whole
  · have lengths := congrArg List.length parts
    rw [length_hextetsOf, List.length_append, List.length_append, List.length_replicate] at lengths
    rw [parts] at filled
    simp only [List.mem_append, not_or] at filled
    rw [shown, ipv6PartsInt_gap filled.1 filled.2.2 (by omega)]
    rw [parts, hextetsValue_append, hextetsValue_append, hextetsValue_replicate_zero,
      Option.bind_some] at whole
    simp only [Option.map_map] at whole
    rw [← whole]
    refine congrArg (Option.bind (hextetsValue high)) (funext fun highValue => ?_)
    refine congrArg (fun shown => Option.map shown (hextetsValue low)) (funext fun lowValue => ?_)
    have exponent : (65536 : Nat) ^ (count + low.length) = 2 ^ (16 * (8 - high.length)) := by
      rw [show (65536 : Nat) = 2 ^ 16 by decide, ← Nat.pow_mul]
      congr 2
      omega
    simp only [Function.comp_apply, List.length_append, List.length_replicate, exponent, zero_mul,
      zero_add]

/-- The text of the hextets alone. -/
def shownHextets (value : Nat) : String :=
  String.intercalate ":" (compressHextets (hextetsOf value))

theorem notMem_shownHextets
    (noHex : hexValue character = none) (noColon : character ≠ ':')
    (value : Nat) : character ∉ (shownHextets value).toList :=
  notMem_intercalate (by simpa using noColon) (notMem_compressHextets noHex value)

theorem split_shownHextets (value : Nat) :
    split ':' (shownHextets value) = compressHextets (hextetsOf value) := by
  have some : compressHextets (hextetsOf value) ≠ [] := by
    apply List.ne_nil_of_length_pos
    have three := three_le_length_compressHextets value
    omega
  exact split_intercalate some (notMem_compressHextets (by decide) value)

theorem ipv6Parts_shownHextets (value : Nat) :
    ipv6Parts (shownHextets value) = some (compressHextets (hextetsOf value)) := by
  have three := three_le_length_compressHextets value
  have noDot : ((compressHextets (hextetsOf value)).getLast?.getD "").toList.contains '.' =
      false := by
    rw [List.contains_eq_mem, decide_eq_false_iff_not]
    cases last : (compressHextets (hextetsOf value)).getLast? with
    | none => simp
    | some part =>
        exact notMem_compressHextets (by decide) value part (List.mem_of_getLast? last)
  rw [ipv6Parts, split_shownHextets]
  simp only [noDot]
  rw [if_neg (by omega)]
  rfl

variable {scopeId : Option String}

theorem ipv6Address_toText
    (inside : value < 2 ^ 128) (scope : ∀ scope ∈ scopeId, scope ≠ "" ∧ '%' ∉ scope.toList) :
    ipv6Address (IpAddress.toText ⟨.v6, value, scopeId⟩) = some (value, scopeId) := by
  have noPercent : '%' ∉ (shownHextets value).toList :=
    notMem_shownHextets (by decide) (by decide) value
  have read : ipv6Parts (shownHextets value) = some (compressHextets (hextetsOf value)) :=
    ipv6Parts_shownHextets value
  cases scopeId with
  | none =>
      have text : IpAddress.toText ⟨.v6, value, none⟩ = shownHextets value :=
        String.append_empty
      have parts : split '%' (shownHextets value) = [shownHextets value] := by
        rw [split, splitChars_of_notMem noPercent, List.map_singleton, String.ofList_toList]
      rw [text, ipv6Address, parts]
      simp [read, ipv6PartsInt_compressHextets inside]
  | some scopeId =>
      obtain ⟨nonempty, noPercentAfter⟩ := scope scopeId rfl
      have text : IpAddress.toText ⟨.v6, value, some scopeId⟩ =
          shownHextets value ++ ("%" ++ scopeId) := rfl
      have parts : split '%' (shownHextets value ++ ("%" ++ scopeId)) =
          [shownHextets value, scopeId] := by
        have joined : (shownHextets value ++ ("%" ++ scopeId)).toList =
            (shownHextets value).toList ++ '%' :: scopeId.toList := by
          rw [String.toList_append, String.toList_append]
          rfl
        rw [split, joined, splitChars_append_cons noPercent, splitChars_of_notMem noPercentAfter]
        simp
      rw [text, ipv6Address, parts]
      simp [nonempty, read, ipv6PartsInt_compressHextets inside]

/-! ## The round trip -/

theorem ipv4Int_toText_v6 (value : Nat) (scopeId : Option String) :
    ipv4Int (IpAddress.toText ⟨.v6, value, scopeId⟩) = none := by
  apply ipv4Int_of_colon
  have three := three_le_length_compressHextets value
  have colon : ':' ∈ (shownHextets value).toList := by
    by_contra absent
    have alone : split ':' (shownHextets value) = [shownHextets value] := by
      rw [split, splitChars_of_notMem absent, List.map_singleton, String.ofList_toList]
    rw [← split_shownHextets, alone] at three
    rw [List.length_singleton] at three
    omega
  have text : IpAddress.toText ⟨.v6, value, scopeId⟩ =
      shownHextets value ++ (scopeId.elim "" fun scopeId => "%" ++ scopeId) := rfl
  rw [text, String.toList_append]
  exact List.mem_append_left _ colon

theorem ipAddress_toText
    {address : IpAddress}
    (valid : address.Valid) : ipAddress address.toText = some address := by
  obtain ⟨version, value, scopeId⟩ := address
  obtain ⟨inside, scope⟩ := valid
  dsimp only at inside scope
  cases version with
  | v4 =>
      have noScope : scopeId = none :=
        Option.eq_none_iff_forall_not_mem.2 fun scopeId member => by
          have v6 := (scope scopeId member).1
          cases v6
      rw [noScope]
      exact ipAddress_toText_v4 inside
  | v6 =>
      have noSlash : (IpAddress.toText ⟨.v6, value, scopeId⟩).toList.contains '/' = false := by
        have text : IpAddress.toText ⟨.v6, value, scopeId⟩ =
            shownHextets value ++ (scopeId.elim "" fun scopeId => "%" ++ scopeId) := rfl
        rw [List.contains_eq_mem, decide_eq_false_iff_not, text, String.toList_append,
          List.mem_append, not_or]
        refine ⟨notMem_shownHextets (by decide) (by decide) value, ?_⟩
        cases scopeId with
        | none => simp
        | some scopeId => simpa using (scope scopeId rfl).2.2.2
      rw [ipAddress, noSlash, ipv4Int_toText_v6, ipv6Address_toText inside fun found member =>
        ⟨(scope found member).2.1, (scope found member).2.2.1⟩]
      rfl

/-! ## What is read is an address -/

theorem of_mem_splitChars
    {text part : List Char} (member : part ∈ splitChars separator text) :
    separator ∉ part ∧ ∀ character ∈ part, character ∈ text := by
  induction text generalizing part with
  | nil =>
      rw [splitChars, List.mem_singleton] at member
      simp [member]
  | cons first rest ih =>
      have later : ∀ part ∈ splitChars separator rest,
          separator ∉ part ∧ ∀ character ∈ part, character ∈ first :: rest :=
        fun part isPart => ⟨(ih isPart).1, fun character inPart =>
          List.mem_cons_of_mem _ ((ih isPart).2 character inPart)⟩
      rw [splitChars] at member
      split at member
      · rcases List.mem_cons.1 member with rfl | isPart
        · simp
        · exact later part isPart
      · next other =>
          cases parts : splitChars separator rest with
          | nil =>
              rw [parts, List.mem_singleton] at member
              simp [member, Ne.symm other]
          | cons head others =>
              rw [parts] at later member
              rcases List.mem_cons.1 member with rfl | isPart
              · obtain ⟨absent, within⟩ := later head List.mem_cons_self
                refine ⟨?_, ?_⟩
                · rw [List.mem_cons, not_or]
                  exact ⟨Ne.symm other, absent⟩
                · rw [List.forall_mem_cons]
                  exact ⟨List.mem_cons_self, within⟩
              · exact later part (List.mem_cons_of_mem _ isPart)

theorem of_mem_split (member : part ∈ split separator text) :
    separator ∉ part.toList ∧ ∀ character ∈ part.toList, character ∈ text.toList := by
  obtain ⟨chars, isPart, rfl⟩ := List.mem_map.1 member
  rw [String.toList_ofList]
  exact of_mem_splitChars isPart

theorem ipv6PartsInt_lt (read : ipv6PartsInt parts = some value) : value < 2 ^ 128 := by
  have hextets : (2 : Nat) ^ 128 = 65536 ^ 8 := by decide
  rw [hextets]
  unfold ipv6PartsInt at read
  split at read
  · cases read
  · split at read
    · split at read
      · next eight => exact eight ▸ hextetsValue_lt read
      · cases read
    · next skipIndex _ =>
        dsimp only at read
        generalize (if parts.head? = some "" then skipIndex - 1 else skipIndex) = partsHi at read
        generalize (if parts.getLast? = some "" then parts.length - skipIndex - 2
          else parts.length - skipIndex - 1) = partsLo at read
        split at read
        · cases read
        · next fits =>
            simp only [not_or] at fits
            simp only [Option.bind_eq_bind, Option.bind_eq_some_iff, Option.pure_def,
              Option.some.injEq] at read
            obtain ⟨high, readHigh, low, readLow, rfl⟩ := read
            have highBound : high < 65536 ^ partsHi :=
              (hextetsValue_lt readHigh).trans_le
                (Nat.pow_le_pow_right (by decide) (List.length_take_le _ _))
            have lowBound : low < 65536 ^ (8 - partsHi) :=
              (hextetsValue_lt readLow).trans_le
                (Nat.pow_le_pow_right (by decide) (by rw [List.length_drop]; omega))
            calc high * 2 ^ (16 * (8 - partsHi)) + low
                = high * 65536 ^ (8 - partsHi) + low := by
                  rw [show (65536 : Nat) = 2 ^ 16 by decide, ← Nat.pow_mul]
              _ < high * 65536 ^ (8 - partsHi) + 65536 ^ (8 - partsHi) :=
                  Nat.add_lt_add_left lowBound _
              _ = (high + 1) * 65536 ^ (8 - partsHi) := by ring
              _ ≤ 65536 ^ partsHi * 65536 ^ (8 - partsHi) := Nat.mul_le_mul_right _ highBound
              _ = 65536 ^ 8 := by
                  rw [← Nat.pow_add]
                  congr 1
                  omega
    · cases read

theorem of_ipv6Address (read : ipv6Address text = some (value, scopeId)) :
    value < 2 ^ 128 ∧ ∀ scope ∈ scopeId, scope ≠ "" ∧ '%' ∉ scope.toList ∧
      ∀ character ∈ scope.toList, character ∈ text.toList := by
  have ofParts : ∀ {address : String} {found : Option String},
      ((ipv6Parts address).bind fun parts => (ipv6PartsInt parts).bind fun value =>
        some (value, found)) = some (value, scopeId) →
      value < 2 ^ 128 ∧ scopeId = found := by
    intro address found parsed
    obtain ⟨parts, -, parsed⟩ := Option.bind_eq_some_iff.1 parsed
    obtain ⟨number, isNumber, same⟩ := Option.bind_eq_some_iff.1 parsed
    obtain ⟨rfl, rfl⟩ := Prod.mk.inj (Option.some.inj same)
    exact ⟨ipv6PartsInt_lt isNumber, rfl⟩
  unfold ipv6Address at read
  simp only [Option.bind_eq_bind, Option.pure_def] at read
  split at read
  · obtain ⟨inside, rfl⟩ := ofParts read
    exact ⟨inside, by simp⟩
  · next first second parts =>
      split at read
      · cases read
      · next nonempty =>
          obtain ⟨inside, rfl⟩ := ofParts read
          have isPart : second ∈ split '%' text := by simp [parts]
          have ofSplit := of_mem_split isPart
          refine ⟨inside, fun scope isScope => ?_⟩
          obtain rfl : second = scope := Option.some.inj isScope
          exact ⟨nonempty, ofSplit⟩
  · cases read

/-! ## Hosts are addresses -/

/-- What the networks of the classes are. -/
def IpNetwork.Valid (network : IpNetwork) : Prop :=
  IpAddress.Valid ⟨network.version, network.networkAddress, network.scopeId⟩

/-- A network ends within the addresses of its version. -/
theorem IpNetwork.Valid.ends (valid : network.Valid) :
    network.networkAddress + network.numAddresses ≤ 2 ^ network.version.bits := by
  obtain ⟨count, aligned⟩ := network.aligned
  have inside : network.networkAddress < 2 ^ network.version.bits := valid.inside
  have whole : (2 : Nat) ^ network.version.bits =
      2 ^ (network.version.bits - network.prefixlen) * 2 ^ network.prefixlen := by
    rw [← Nat.pow_add, Nat.sub_add_cancel network.fits]
  rw [aligned, whole] at inside
  have less := Nat.lt_of_mul_lt_mul_left inside
  rw [IpNetwork.numAddresses, aligned, whole]
  calc 2 ^ (network.version.bits - network.prefixlen) * count +
        2 ^ (network.version.bits - network.prefixlen)
      = 2 ^ (network.version.bits - network.prefixlen) * (count + 1) := by ring
    _ ≤ _ := Nat.mul_le_mul_left _ less

theorem valid_of_mem_hosts
    (valid : network.Valid)
    (member : host ∈ network.hosts) : host.Valid := by
  have ends := valid.ends
  obtain ⟨sameVersion, -, below⟩ := IpNetwork.mem_addresses_of_mem_hosts member
  have unscoped : host = ⟨network.version, network.networkAddress, network.scopeId⟩ ∨
      host.scopeId = none := by
    unfold IpNetwork.hosts at member
    split at member
    · exact Or.inl (List.mem_singleton.1 member)
    · split at member
      · obtain ⟨value, -, rfl⟩ := List.mem_map.1 member
        exact Or.inr rfl
      · obtain ⟨value, -, rfl⟩ := List.mem_map.1 member
        exact Or.inr rfl
  rcases unscoped with rfl | noScope
  · exact valid
  · refine ⟨?_, by simp [noScope]⟩
    dsimp only at sameVersion below
    rw [sameVersion]
    omega

theorem valid_of_networkOf
    {version : IpVersion} {address : Option (Nat × Option String)} {mask : Option Nat}
    (found : networkOf version address mask = some network)
    (valid : ∀ value scopeId, address = some (value, scopeId) →
      IpAddress.Valid ⟨version, value, scopeId⟩) : network.Valid := by
  unfold networkOf at found
  simp only [Option.bind_eq_bind, Option.bind_eq_some_iff] at found
  obtain ⟨⟨value, scopeId⟩, read, prefixlen, -, made⟩ := found
  split at made
  · obtain rfl := Option.some.inj made
    obtain ⟨inside, scope⟩ := valid value scopeId read
    refine ⟨(Nat.div_mul_le_self _ _).trans_lt inside, fun found member => scope found ?_⟩
    dsimp only [IpNetwork.ofAddress] at member
    split at member
    · exact member
    · cases member
  · cases made

theorem valid_of_ipNetwork (read : ipNetwork text = some network) : network.Valid := by
  have ofV4 : ∀ {address : String} {mask : Option Nat},
      networkOf .v4 ((ipv4Int address).map (·, none)) mask = some network → network.Valid := by
    intro address mask found
    refine valid_of_networkOf found fun value scopeId isValue => ?_
    obtain ⟨number, readNumber, same⟩ := Option.map_eq_some_iff.1 isValue
    obtain ⟨rfl, rfl⟩ := Prod.mk.inj same
    exact ⟨(octets_of_ipv4Int readNumber).1, by simp⟩
  have ofV6 : ∀ {address : String} {mask : Option Nat}, '/' ∉ address.toList →
      networkOf .v6 (ipv6Address address) mask = some network → network.Valid := by
    intro address mask noSlash found
    refine valid_of_networkOf found fun value scopeId isValue => ?_
    obtain ⟨inside, scope⟩ := of_ipv6Address isValue
    refine ⟨inside, fun scopeId member => ?_⟩
    obtain ⟨nonempty, noPercent, within⟩ := scope scopeId member
    exact ⟨rfl, nonempty, noPercent, fun slash => noSlash (within _ slash)⟩
  unfold ipNetwork at read
  cases readV4 : ipv4Network text with
  | some found =>
      rw [readV4] at read
      obtain rfl := Option.some.inj read
      unfold ipv4Network at readV4
      split at readV4
      · exact ofV4 readV4
      · exact ofV4 readV4
      · cases readV4
  | none =>
      rw [readV4] at read
      change ipv6Network text = some network at read
      unfold ipv6Network at read
      have noSlash : ∀ part ∈ split '/' text, '/' ∉ part.toList := fun part member =>
        (of_mem_split member).1
      split at read
      · next address parts => exact ofV6 (noSlash address (by simp [parts])) read
      · next address mask parts => exact ofV6 (noSlash address (by simp [parts])) read
      · cases read

end Py
end K1s
