import CarbonSurvey.Decimal.Shortest

/-! # Layout of numbers

Where the point goes, when a power of ten is written instead of zeros, and what a whole number
looks like. Both formats of the program, the plain one of its reports and the one of its JSON
documents, are values of `Layout`.
-/

namespace CarbonSurvey.Decimal

/-- How the digits of a number become text. -/
structure Layout where
  /-- Which of two equally near decimals is taken. -/
  tie : Tie
  /-- The powers of ten of a first digit for which the number is written without an exponent. -/
  positional : Int → Bool
  /-- What follows a whole number that is written without an exponent. -/
  wholeMark : List Char

namespace Layout

/-- Reports never write an exponent, and whole numbers carry no point. -/
def plain : Layout where
  tie := .up
  positional _ := true
  wholeMark := []

/-- Documents write numbers from `10 ^ -5` up to, but not including, `10 ^ 16` without an
    exponent, and whole numbers keep a zero after the point. -/
def document : Layout where
  tie := .even
  positional power := -5 ≤ power && power < 16
  wholeMark := ['.', '0']

/-- The digits with a point after the first `places` of them; zeros fill up either side. -/
def placePoint (wholeMark digits : List Char) (places : Int) : List Char :=
  if places ≤ 0 then
    '0' :: '.' :: List.replicate (-places).toNat '0' ++ digits
  else if digits.length ≤ places then
    digits ++ List.replicate (places.toNat - digits.length) '0' ++ wholeMark
  else
    digits.take places.toNat ++ '.' :: digits.drop places.toNat

/-- One digit, a point if more follow, and the power of ten with its sign. -/
def withExponent (digits : List Char) (power : Int) : List Char :=
  let sign := if power < 0 then '-' else '+'
  let fraction := if digits.length ≤ 1 then [] else '.' :: digits.drop 1
  digits.take 1 ++ fraction ++ 'e' :: sign :: Nat.toDigits 10 power.natAbs

def writeDigits (layout : Layout) (d : Digits) : List Char :=
  let digits := Nat.toDigits 10 d.significand
  let power : Int := digits.length + d.exponent - 1
  if layout.positional power then
    placePoint layout.wholeMark digits (power + 1)
  else
    withExponent digits power

def isNegative (x : Float) : Bool :=
  x.toBits.toNat / Nat.pow 2 63 == 1

/-- The text of a finite double. Zero keeps its sign. -/
def writeFinite (layout : Layout) (x : Float) : List Char :=
  let text := layout.writeDigits (shortest layout.tie x)
  if isNegative x then '-' :: text else text

end Layout

/-- A number as reports show it: the shortest decimal that reads back, without an exponent. -/
def plain (x : Float) : String :=
  if x.isNaN then "NaN"
  else if x.isInf then (if Layout.isNegative x then "-inf" else "inf")
  else .ofList (Layout.plain.writeFinite x)

end CarbonSurvey.Decimal
