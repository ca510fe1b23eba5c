/-! # Numerals

A numeral is a number as people write it: a sign, digits with or without a point, and perhaps a
power of ten. Its value is the double nearest to the number written, ties going to the even
neighbour, and a numeral too large for a double has no finite value.
-/

namespace CarbonSurvey.Decimal

/-- The number `± significand · 10 ^ exponent`. -/
structure Numeral where
  negative : Bool
  significand : Nat
  exponent : Int
  deriving Repr, DecidableEq

namespace Numeral

def digitsValue (digits : List Char) : Nat :=
  Nat.ofDigitChars 10 digits 0

/-- Whether a text starts with a minus sign, and what follows its sign if it has one. -/
def readSign : List Char → Bool × List Char
  | '-' :: rest => (true, rest)
  | '+' :: rest => (false, rest)
  | text => (false, text)

/-- The power of ten that ends a numeral: nothing at all, or `e`, a sign if wanted, and digits. -/
def readExponent? : List Char → Option Int
  | [] => some 0
  | mark :: rest =>
    let (negative, digits) := readSign rest
    if (mark = 'e' ∨ mark = 'E') ∧ digits ≠ [] ∧ digits.all Char.isDigit then
      some (if negative then -(digitsValue digits : Int) else digitsValue digits)
    else
      none

/-- The digits after a point, if a point comes first, and the text after them. -/
def readFraction : List Char → List Char × List Char
  | '.' :: rest => (rest.takeWhile Char.isDigit, rest.dropWhile Char.isDigit)
  | text => ([], text)

/-- Reads a text that is a numeral from end to end. A digit may be missing on one side of the
    point, but not on both. -/
def read? (text : List Char) : Option Numeral :=
  let (negative, unsigned) := readSign text
  let whole := unsigned.takeWhile Char.isDigit
  let (fraction, tail) := readFraction (unsigned.dropWhile Char.isDigit)
  if whole ++ fraction = [] then
    none
  else
    (readExponent? tail).map fun exponent =>
      ⟨negative, digitsValue (whole ++ fraction), exponent - fraction.length⟩

/-- The double nearest to the absolute value. A number from `10 ^ 309` on is infinite and one below
    `10 ^ -330` is zero, which is decided first because the powers may be astronomical. -/
def magnitude (n : Numeral) : Float :=
  let top : Int := (Nat.toDigits 10 n.significand).length + n.exponent
  if n.significand = 0 ∨ top < -330 then 0.0
  else if 309 < top then 1.0 / 0.0
  else Float.ofScientific n.significand (n.exponent < 0) n.exponent.natAbs

def toFloat (n : Numeral) : Float :=
  if n.negative then -n.magnitude else n.magnitude

end Numeral

/-- The finite double that a text denotes, when the text is a numeral and its value is finite. -/
def finite? (text : List Char) : Option Float :=
  match Numeral.read? text with
  | none => none
  | some numeral => if numeral.toFloat.isFinite then some numeral.toFloat else none

end CarbonSurvey.Decimal
