import K1s.Py.Text

/-!
# Numbers read from text and from values

`int` and `float` as the handlers use them.  A float is an exact rational, an
infinity or `nan`; the rounding to 53 bits is left out, except that a number too
great for a float reads as infinite.
-/

namespace K1s
namespace Py

inductive PyFloat
  | finite (value : Rat)
  | inf (negative : Bool)
  | nan
  deriving DecidableEq

namespace PyFloat

/-- `first < second`. -/
def lt : PyFloat → PyFloat → Bool
  | .finite first, .finite second => decide (first < second)
  | .finite _, .inf negative => !negative
  | .inf negative, .finite _ => negative
  | .inf first, .inf second => first && !second
  | .nan, _ | _, .nan => false

/-- `first <= second`. -/
def le : PyFloat → PyFloat → Bool
  | .finite first, .finite second => decide (first ≤ second)
  | .finite _, .inf negative => !negative
  | .inf negative, .finite _ => negative
  | .inf first, .inf second => first || !second
  | .nan, _ | _, .nan => false

end PyFloat

/-- Digits in which single underscores may stand between two digits, without
the underscores. -/
def plainDigits : List Char → Option (List Char)
  | [] => none
  | [digit] => if digit.isDigit then some [digit] else none
  | first :: '_' :: rest =>
      if first.isDigit then (plainDigits rest).map (first :: ·) else none
  | first :: rest =>
      if first.isDigit then (plainDigits rest).map (first :: ·) else none

def readSign : List Char → Bool × List Char
  | '-' :: rest => (true, rest)
  | '+' :: rest => (false, rest)
  | rest => (false, rest)

def intOfText (text : String) : Option Int :=
  let (negative, digits) := readSign (strip text).toList
  (plainDigits digits).map fun digits =>
    if negative then -(digitsValue digits : Int) else digitsValue digits

/-- The digits before and after the point of an unsigned decimal. -/
def readMantissa (text : List Char) : Option (List Char × List Char) :=
  let whole := text.takeWhile (· ≠ '.')
  match text.dropWhile (· ≠ '.') with
  | [] => (plainDigits whole).map (·, [])
  | _ :: fraction =>
      match whole, fraction with
      | [], [] => none
      | [], fraction => (plainDigits fraction).map ([], ·)
      | whole, [] => (plainDigits whole).map (·, [])
      | whole, fraction =>
          (plainDigits whole).bind fun whole =>
            (plainDigits fraction).map (whole, ·)

/-- An unsigned decimal with an exponent. -/
def readDecimal (text : List Char) : Option Rat :=
  let mantissa := text.takeWhile (· ≠ 'e')
  (readMantissa mantissa).bind fun (whole, fraction) =>
    let value : Rat := digitsValue (whole ++ fraction)
    match text.dropWhile (· ≠ 'e') with
    | [] => some (value / 10 ^ fraction.length)
    | _ :: exponent =>
        let (negative, digits) := readSign exponent
        (plainDigits digits).map fun digits =>
          let power := digitsValue digits
          if negative then value / 10 ^ (fraction.length + power)
          else value * 10 ^ power / 10 ^ fraction.length

/-- The least value that is rounded to infinity. -/
def floatLimit : Rat := 2 ^ 1024 - 2 ^ 970

def floatOfText (text : String) : Option PyFloat :=
  let (negative, rest) := readSign (lower (strip text)).toList
  if rest = "inf".toList ∨ rest = "infinity".toList then some (.inf negative)
  else if rest = "nan".toList then some .nan
  else (readDecimal rest).map fun value =>
    if floatLimit ≤ value then .inf negative
    else .finite (if negative then -value else value)

namespace Json

/-- `float(value)`. -/
def toFloat : Json → Option PyFloat
  | .bool value => some (.finite (if value then 1 else 0))
  | .int value => some (.finite value)
  | .float text => floatOfText text
  | .str text => floatOfText text
  | _ => none

/-- `int(value)`, which drops the fraction of a float. -/
def toInt : Json → Option Int
  | .bool value => some (if value then 1 else 0)
  | .int value => some value
  | .float text =>
      match floatOfText text with
      | some (.finite value) => some (value.num.tdiv value.den)
      | _ => none
  | .str text => intOfText text
  | _ => none

end Json

end Py
end K1s
