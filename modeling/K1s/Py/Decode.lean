import K1s.Py.Float

/-!
# Reading documents from bytes

`bytes.decode("utf-8")` and `json.loads`.  `none` stands for the exceptions
`UnicodeDecodeError` and `JSONDecodeError`.  The limits of the interpreter on the
depth of a document and on the digits of a number are left out, and a surrogate
that has no partner, which a text here cannot hold, reads as U+FFFD.
-/

namespace K1s
namespace Py

/-! ## UTF-8 -/

/-- The six low bits of a continuation byte. -/
def continuation (byte : UInt8) : Option Nat :=
  if 0x80 ≤ byte.toNat ∧ byte.toNat < 0xC0 then some (byte.toNat - 0x80) else none

/-- A character, unless the number is too small for its encoding or is no scalar
value. -/
def scalarValue (least value : Nat) : Option Char :=
  if least ≤ value ∧ (value < 0xD800 ∨ 0xDFFF < value ∧ value < 0x110000) then
    some (Char.ofNat value)
  else none

/-- `body.decode("utf-8")`, on the characters. -/
def decodeChars : List UInt8 → Option (List Char)
  | [] => some []
  | first :: rest =>
      let lead := first.toNat
      if lead < 0x80 then (decodeChars rest).map (Char.ofNat lead :: ·)
      else
        match rest with
        | second :: rest =>
            if 0xC0 ≤ lead ∧ lead < 0xE0 then do
              let char ← scalarValue 0x80 ((lead - 0xC0) * 0x40 + (← continuation second))
              return char :: (← decodeChars rest)
            else
              match rest with
              | third :: rest =>
                  if 0xE0 ≤ lead ∧ lead < 0xF0 then do
                    let char ← scalarValue 0x800 ((lead - 0xE0) * 0x1000 +
                      (← continuation second) * 0x40 + (← continuation third))
                    return char :: (← decodeChars rest)
                  else
                    match rest with
                    | fourth :: rest =>
                        if 0xF0 ≤ lead ∧ lead < 0xF8 then do
                          let char ← scalarValue 0x10000 ((lead - 0xF0) * 0x40000 +
                            (← continuation second) * 0x1000 +
                            (← continuation third) * 0x40 + (← continuation fourth))
                          return char :: (← decodeChars rest)
                        else none
                    | [] => none
              | [] => none
        | [] => none

def decodeUtf8 (body : List UInt8) : Option String :=
  (decodeChars body).map String.ofList

/-! ## Floats and their `repr` -/

/-- The float next to a positive quotient, ties to even. -/
def nearestFloat (numerator denominator : Nat) : Rat :=
  let estimate : Int := (numerator.log2 : Int) - denominator.log2
  let leading : Int :=
    if denominator * 2 ^ estimate.toNat ≤ numerator * 2 ^ (-estimate).toNat
    then estimate else estimate - 1
  let last : Int := max (leading - 52) (-1074)
  let mantissa :=
    divRound (numerator * 2 ^ (-last).toNat) (denominator * 2 ^ last.toNat)
  (mantissa * 2 ^ last.toNat : Nat) / (2 ^ (-last).toNat : Nat)

/-- The exponent of the first digit of a positive number. -/
def decimalExponent (value : Rat) : Int :=
  if 1 ≤ value then ((toString value.floor.toNat).length : Int) - 1
  else -(((List.range 400).find? fun shift => decide (1 ≤ value * 10 ^ shift)).getD 0 : Int)

/-- The shortest digits, at least `count` of them, that read back as the float,
the nearest first.  The digits stand for a number below ten. -/
def shortestDigits (value : Rat) (exponent : Int) (count fuel : Nat) : Nat × Nat :=
  let scale : Int := count - 1 - exponent
  let scaled : Rat := value * 10 ^ scale.toNat / 10 ^ (-scale).toNat
  let below := scaled.floor.toNat
  let readsBack (digits : Nat) : Bool :=
    decide (nearestFloat (digits * 10 ^ (-scale).toNat) (10 ^ scale.toNat) = value)
  let candidates :=
    if scaled - below ≤ below + 1 - scaled then [below, below + 1] else [below + 1, below]
  match candidates.find? readsBack, fuel with
  | some digits, _ => (digits, count)
  | none, 0 => (below, count)
  | none, fuel + 1 => shortestDigits value exponent (count + 1) fuel

/-- The digits on both sides of the point, or with an exponent where the number
is very great or very small. -/
def layoutDigits (digits : List Char) (exponent : Int) : List Char :=
  let zeros (count : Int) := List.replicate count.toNat '0'
  let point (whole fraction : List Char) :=
    (if whole.isEmpty then ['0'] else whole) ++ '.' ::
      (if fraction.isEmpty then ['0'] else fraction)
  if exponent < -4 ∨ 16 ≤ exponent then
    let power := (toString exponent.natAbs).toList
    digits.take 1 ++ (if digits.length = 1 then [] else '.' :: digits.drop 1) ++
      'e' :: (if exponent < 0 then '-' else '+') ::
      zeros (2 - power.length) ++ power
  else if exponent < 0 then point [] (zeros (-exponent - 1) ++ digits)
  else
    let padded := digits ++ zeros (exponent + 1 - digits.length)
    point (padded.take (exponent.toNat + 1)) (padded.drop (exponent.toNat + 1))

/-- The `repr` of the float that a decimal reads as. -/
def floatRepr (negative : Bool) (value : Rat) : String :=
  let text :=
    if value = 0 then "0.0".toList
    else if floatLimit ≤ value then "inf".toList
    else
      let float := nearestFloat value.num.toNat value.den
      if float = 0 then "0.0".toList
      else
        let exponent := decimalExponent float
        let (digits, count) := shortestDigits float exponent 1 16
        -- Rounding up can reach the next power of ten.
        let exponent := if 10 ^ count ≤ digits then exponent + 1 else exponent
        let shown := ((toString digits).toList.reverse.dropWhile (· == '0')).reverse
        layoutDigits shown exponent
  String.ofList (if negative then '-' :: text else text)

/-! ## Tokens -/

/-- White space of JSON. -/
def skipBlank (text : List Char) : List Char :=
  text.dropWhile fun char => char == ' ' || char == '\t' || char == '\n' || char == '\r'

def hexValue (digit : Char) : Option Nat :=
  if digit.isDigit then some (digit.toNat - '0'.toNat)
  else if 'a' ≤ digit ∧ digit ≤ 'f' then some (digit.toNat - 'a'.toNat + 10)
  else if 'A' ≤ digit ∧ digit ≤ 'F' then some (digit.toNat - 'A'.toNat + 10)
  else none

/-- The value of four hexadecimal digits. -/
def hexQuad (a b c d : Char) : Option Nat := do
  return (← hexValue a) * 0x1000 + (← hexValue b) * 0x100 + (← hexValue c) * 0x10 + (← hexValue d)

/-- The partner of two surrogates. -/
def surrogatePair (high low : Nat) : Option Char :=
  if 0xD800 ≤ high ∧ high < 0xDC00 ∧ 0xDC00 ≤ low ∧ low < 0xE000 then
    some (Char.ofNat (0x10000 + (high - 0xD800) * 0x400 + (low - 0xDC00)))
  else none

/-- The characters of code units, in which only escapes give surrogates. -/
def joinSurrogates : List Nat → List Char
  | [] => []
  | [unit] => [(scalarValue 0 unit).getD (Char.ofNat 0xFFFD)]
  | first :: second :: rest =>
      match surrogatePair first second with
      | some char => char :: joinSurrogates rest
      | none =>
          (scalarValue 0 first).getD (Char.ofNat 0xFFFD) :: joinSurrogates (second :: rest)

/-- The code units inside a string and what follows its closing quote. -/
def scanUnits : List Char → Option (List Nat × List Char)
  | [] => none
  | '"' :: rest => some ([], rest)
  | '\\' :: 'u' :: a :: b :: c :: d :: rest =>
      (hexQuad a b c d).bind fun unit =>
      (scanUnits rest).map fun found => (unit :: found.1, found.2)
  | '\\' :: escape :: rest =>
      ([('"', '"'), ('\\', '\\'), ('/', '/'), ('b', '\x08'), ('f', '\x0c'), ('n', '\n'),
        ('r', '\r'), ('t', '\t')].lookup escape).bind fun char =>
      (scanUnits rest).map fun found => (char.toNat :: found.1, found.2)
  | char :: rest =>
      if char.toNat < 0x20 ∨ char = '\\' then none
      else (scanUnits rest).map fun found => (char.toNat :: found.1, found.2)

/-- The inside of a string and what follows its closing quote. -/
def scanString (text : List Char) : Option (String × List Char) :=
  (scanUnits text).map fun found => (String.ofList (joinSurrogates found.1), found.2)

def takeDigits (text : List Char) : List Char × List Char :=
  (text.takeWhile Char.isDigit, text.dropWhile Char.isDigit)

/-- A number, as long as the text allows. -/
def scanNumber (text : List Char) : Option (Json × List Char) :=
  let (negative, unsigned) :=
    match text with
    | '-' :: rest => (true, rest)
    | rest => (false, rest)
  let (whole, rest) :=
    match unsigned with
    | '0' :: rest => (['0'], rest)
    | rest => takeDigits rest
  if whole.isEmpty then none
  else
    let (fraction, rest) :=
      match rest with
      | '.' :: after =>
          if (takeDigits after).1.isEmpty then ([], rest) else takeDigits after
      | rest => ([], rest)
    let (power, rest) : Option (Bool × Nat) × List Char :=
      match rest with
      | mark :: after =>
          if mark = 'e' ∨ mark = 'E' then
            let (sign, digits) := readSign after
            if (takeDigits digits).1.isEmpty then (none, rest)
            else (some (sign, digitsValue (takeDigits digits).1), (takeDigits digits).2)
          else (none, rest)
      | rest => (none, rest)
    if fraction.isEmpty ∧ power = none then
      let value : Int := digitsValue whole
      some (.int (if negative then -value else value), rest)
    else
      let value : Rat := digitsValue (whole ++ fraction) / 10 ^ fraction.length
      let value :=
        match power with
        | none => value
        | some (true, power) => value / 10 ^ power
        | some (false, power) => value * 10 ^ power
      some (.float (floatRepr negative value), rest)

/-- What follows a word at the start of a text. -/
def afterWord (word : String) (text : List Char) : Option (List Char) :=
  if word.toList.isPrefixOf text then some (text.drop word.length) else none

/-- The words that stand for values. -/
def scanWord (text : List Char) : Option (Json × List Char) :=
  [("null", Json.null), ("true", .bool true), ("false", .bool false),
    ("NaN", .float "nan"), ("Infinity", .float "inf"),
    ("-Infinity", .float "-inf")].findSome? fun word =>
      (afterWord word.1 text).map (word.2, ·)

/-! ## Documents -/

mutual

/-- One value at the start of a text, and what follows it. -/
def scanOnce : Nat → List Char → Option (Json × List Char)
  | 0, _ => none
  | fuel + 1, text =>
      match text with
      | '"' :: rest => (scanString rest).map fun found => (.str found.1, found.2)
      | '[' :: rest =>
          match skipBlank rest with
          | ']' :: after => some (.list [], after)
          | rest => (scanItems fuel rest).map fun found => (.list found.1, found.2)
      | '\x7b' :: rest =>
          match skipBlank rest with
          | '\x7d' :: after => some (.dict [], after)
          | rest => (scanEntries fuel [] rest).map fun found => (.dict found.1, found.2)
      | text => (scanWord text).or (scanNumber text)

/-- The items of a list up to its closing bracket. -/
def scanItems : Nat → List Char → Option (List Json × List Char)
  | 0, _ => none
  | fuel + 1, text =>
      (scanOnce fuel text).bind fun (item, rest) =>
        match skipBlank rest with
        | ',' :: rest => (scanItems fuel (skipBlank rest)).map fun found =>
            (item :: found.1, found.2)
        | ']' :: rest => some ([item], rest)
        | _ => none

/-- The entries of a dictionary up to its closing brace.  A later entry of a key
replaces an earlier one. -/
def scanEntries : Nat → Dict → List Char → Option (Dict × List Char)
  | 0, _, _ => none
  | fuel + 1, entries, text =>
      match text with
      | '"' :: rest =>
          (scanString rest).bind fun (key, rest) =>
            match skipBlank rest with
            | ':' :: rest =>
                (scanOnce fuel (skipBlank rest)).bind fun (value, rest) =>
                  let entries := Dict.set entries key value
                  match skipBlank rest with
                  | ',' :: rest => scanEntries fuel entries (skipBlank rest)
                  | '\x7d' :: rest => some (entries, rest)
                  | _ => none
            | _ => none
      | _ => none

end

def jsonLoads (text : String) : Option Json :=
  let chars := text.toList
  (scanOnce (chars.length + 1) (skipBlank chars)).bind fun (value, rest) =>
    if (skipBlank rest).isEmpty then some value else none

end Py
end K1s
