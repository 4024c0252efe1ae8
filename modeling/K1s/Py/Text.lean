import K1s.Py.Json

/-!
# Text methods and numbers read from text

The text methods are those of `str` on ASCII text.  `int(float(text))` and its
multiples by a power of two are computed exactly: a float is the quotient of
two naturals rounded to 53 significant bits, ties to even.
-/

namespace K1s
namespace Py

def strip (text : String) : String :=
  String.ofList ((text.toList.dropWhile Char.isWhitespace).reverse.dropWhile
      Char.isWhitespace).reverse

def rstrip (character : Char) (text : String) : String :=
  String.ofList (text.toList.reverse.dropWhile (· == character)).reverse

def lower (text : String) : String :=
  String.ofList (text.toList.map Char.toLower)

def startsWith (start text : String) : Bool :=
  start.toList.isPrefixOf text.toList

/-- `text.split(separator)` for one character, on the characters. -/
def splitChars (separator : Char) : List Char → List (List Char)
  | [] => [[]]
  | character :: rest =>
      if character = separator then [] :: splitChars separator rest
      else
        match splitChars separator rest with
        | [] => [[character]]
        | first :: others => (character :: first) :: others

def split (separator : Char) (text : String) : List String :=
  (splitChars separator text.toList).map String.ofList

/-- `text.isdigit()`. -/
def isDigits (text : String) : Bool :=
  !text.toList.isEmpty && text.toList.all Char.isDigit

def digitsValue (digits : List Char) : Nat :=
  digits.foldl (fun value digit => 10 * value + (digit.toNat - '0'.toNat)) 0

/-- Divide, rounding to the nearest natural and ties to even. -/
def divRound (numerator denominator : Nat) : Nat :=
  let quotient := numerator / denominator
  let twice := 2 * (numerator % denominator)
  if twice < denominator then quotient
  else if denominator < twice then quotient + 1
  else quotient + quotient % 2

/-- `int(float(n / d) * 2 ** shift)` for a decimal `n / d`, or `none` where the
float is infinite. -/
def floatScaled (numerator denominator shift : Nat) : Option Nat :=
  if numerator = 0 then some 0
  else
    -- The binary exponent of the quotient, then that of its last kept bit.
    let estimate : Int := (numerator.log2 : Int) - denominator.log2
    let leading : Int :=
      if denominator * 2 ^ estimate.toNat ≤ numerator * 2 ^ (-estimate).toNat
      then estimate else estimate - 1
    let last : Int := max (leading - 52) (-1074)
    let mantissa :=
      divRound (numerator * 2 ^ (-last).toNat) (denominator * 2 ^ last.toNat)
    if 1024 ≤ (mantissa * 2 ^ (last + shift).toNat).log2 then none
    else some (mantissa * 2 ^ (last + shift).toNat / 2 ^ (-(last + shift)).toNat)

/-- `float(text)` for a text of digits and points, as a quotient. -/
def decimalOf (text : List Char) : Option (Nat × Nat) :=
  let whole := text.takeWhile (· ≠ '.')
  let rest := text.dropWhile (· ≠ '.')
  let fraction := rest.drop 1
  if (whole ++ fraction).isEmpty || fraction.contains '.' then none
  else some (digitsValue (whole ++ fraction), 10 ^ fraction.length)

end Py
end K1s
