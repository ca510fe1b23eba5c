import CarbonSurvey.Json.Reader

/-! # Reading numbers

The digits of a number are gathered in a 64-bit significand. Once a digit would not fit, further
digits before the point only count as powers of ten and further digits after it are dropped. The
value is the significand as a double, multiplied or divided once by a power of ten, so it is not
always the double nearest to what is written.
-/

namespace CarbonSurvey.Json

def digitValue (c : Char) : Nat :=
  c.toNat - '0'.toNat

def maxSignificand : Nat := Nat.pow 2 64 - 1

def maxExponent : Nat := Nat.pow 2 31 - 1

/-- Takes digits into a significand while they fit, and gives back those that are left. -/
def absorb (significand : Nat) : List Char → Nat × List Char
  | [] => (significand, [])
  | digit :: digits =>
    if 10 * significand + digitValue digit ≤ maxSignificand then
      absorb (10 * significand + digitValue digit) digits
    else
      (significand, digit :: digits)

def powerOfTen (k : Nat) : Float :=
  Float.ofScientific 1 false k

/-- Divides by `10 ^ k`, in steps that a double can hold. -/
def divideByPower (value : Float) (k : Nat) : Float :=
  if k ≤ 308 then value / powerOfTen k
  else if value == 0.0 then value
  else divideByPower (value / powerOfTen 308) (k - 308)
termination_by k

/-- The value times `10 ^ power`, unless that is too large. -/
def scale? (value : Float) (power : Int) : Option Float :=
  if power < 0 then
    some (divideByPower value power.natAbs)
  else if power ≤ 308 then
    let product := value * powerOfTen power.natAbs
    if product.isInf then none else some product
  else if value == 0.0 then
    some value
  else
    none

def signed (negative : Bool) (value : Float) : Float :=
  if negative then -value else value

/-- A number without point or exponent whose digits all fit. It stays whole if 64 bits hold it. -/
def ofWhole (negative : Bool) (significand : Nat) : Number :=
  if !negative then .whole significand
  else if 0 < significand ∧ significand ≤ Nat.pow 2 63 then .whole (-significand)
  else .decimal (-Float.ofNat significand)

namespace Reader

def minus : Reader Bool :=
  fun rest =>
    match rest with
    | '-' :: rest => .ok (true, rest)
    | rest => .ok (false, rest)

/-- The digits at the front. -/
def digits : Reader (List Char) :=
  fun rest => .ok (rest.takeWhile Char.isDigit, rest.dropWhile Char.isDigit)

/-- The digits before the point. A zero stands alone. -/
def wholeDigits : Reader (List Char) :=
  fun rest =>
    match rest with
    | [] => failNext .endInValue []
    | '0' :: rest =>
      if rest.head?.any Char.isDigit then failNext .invalidNumber rest else .ok (['0'], rest)
    | c :: _ => if c.isDigit then digits rest else failNext .invalidNumber rest

/-- The digits after a point, at least one; none at all where there is no point. -/
def fractionDigits : Reader (List Char) :=
  fun rest =>
    match rest with
    | '.' :: [] => failNext .endInValue []
    | '.' :: c :: rest =>
      if c.isDigit then digits (c :: rest) else failNext .invalidNumber (c :: rest)
    | rest => .ok ([], rest)

/-- The digits of an exponent. Nothing comes back once they exceed 32 bits; the text is then left
    after the digit that did it. -/
def exponentDigits (value : Nat) : List Char → Option Nat × List Char
  | [] => (some value, [])
  | c :: rest =>
    if c.isDigit then
      if 10 * value + digitValue c ≤ maxExponent then
        exponentDigits (10 * value + digitValue c) rest
      else
        (none, rest)
    else
      (some value, c :: rest)

def exponentSign : Reader Bool :=
  fun rest =>
    match rest with
    | '+' :: rest => .ok (false, rest)
    | '-' :: rest => .ok (true, rest)
    | rest => .ok (false, rest)

/-- The exponent after its `e`. One beyond 32 bits is a fault if it would make a number infinite;
    otherwise the number is zero, and any exponent far below zero does. -/
def exponent (significand : Nat) : Reader Int := do
  let negative ← exponentSign
  fun rest =>
    match rest with
    | [] => failNext .endInValue []
    | c :: rest =>
      if c.isDigit then
        match exponentDigits (digitValue c) rest with
        | (some value, rest) => .ok (if negative then -(value : Int) else value, rest)
        | (none, rest) =>
          if significand ≠ 0 ∧ !negative then failHere .numberOutOfRange rest
          else .ok (-(maxExponent : Int), rest.dropWhile Char.isDigit)
      else
        failNext .invalidNumber (c :: rest)

def exponent? (significand : Nat) : Reader (Option Int) :=
  fun rest =>
    match rest with
    | c :: rest =>
      if c = 'e' ∨ c = 'E' then (some <$> exponent significand) rest else .ok (none, c :: rest)
    | [] => .ok (none, [])

/-- A number, whose first character has been looked at. -/
def number : Reader Number := do
  let negative ← minus
  let whole ← wholeDigits
  let fraction ← fractionDigits
  let (gathered, unread) := absorb 0 whole
  let (significand, dropped) := absorb gathered fraction
  let power : Int := unread.length - (fraction.length - dropped.length : Nat)
  let exponent ← exponent? significand
  if unread = [] ∧ fraction = [] ∧ exponent = none then
    return ofWhole negative significand
  else
    match scale? (Float.ofNat significand) (power + exponent.getD 0) with
    | some value => return .decimal (signed negative value)
    | none => failHere .numberOutOfRange

end Reader

end CarbonSurvey.Json
