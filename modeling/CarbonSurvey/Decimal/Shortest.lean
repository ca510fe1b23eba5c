/-! # Shortest decimals

Every finite double is the nearest double to all reals of a small interval around it. The decimal
chosen for it is the one in that interval with the fewest digits, and the nearest of those. The
search walks the decimal grids from coarse to fine in exact arithmetic; on each grid only the two
points beside the value need a look.
-/

namespace CarbonSurvey.Decimal

/-- The positive number `significand · 2 ^ exponent`, as a double stores it. -/
structure Binary where
  significand : Nat
  exponent : Int
  deriving Repr, DecidableEq

/-- The number `significand · 10 ^ exponent`. -/
structure Digits where
  significand : Nat
  exponent : Int
  deriving Repr, DecidableEq

/-- Which of two equally near decimals is taken. -/
inductive Tie where
  | up
  | even
  deriving Repr, DecidableEq

namespace Binary

/-- The absolute value of a finite double. -/
def ofFloat (x : Float) : Binary :=
  let bits : Nat := x.toBits.toNat
  let fraction : Nat := bits % Nat.pow 2 52
  let power : Nat := bits / Nat.pow 2 52 % Nat.pow 2 11
  if power = 0 then ⟨fraction, -1074⟩ else ⟨Nat.pow 2 52 + fraction, (power : Int) - 1075⟩

/-- Below a power of two the doubles lie twice as close, except at the very bottom. -/
def closerBelow (b : Binary) : Bool :=
  b.significand == Nat.pow 2 52 && b.exponent != -1074

/-- Whether both ends of the interval still round to the double. -/
def closed (b : Binary) : Bool :=
  b.significand % 2 == 0

/-- The numerator and denominator of one quarter of the last binary place, counted in steps of
    `10 ^ k`. -/
def quarter (b : Binary) (k : Int) : Nat × Nat :=
  (Nat.pow 2 (b.exponent - 2).toNat * Nat.pow 10 (-k).toNat,
    Nat.pow 2 (2 - b.exponent).toNat * Nat.pow 10 k.toNat)

/-- The power of ten of the first decimal digit. The value is scaled up first so that its whole
    part shows that digit even for the smallest double. -/
def leadingPower (b : Binary) : Int :=
  let (num, den) := b.quarter (-340)
  ((Nat.toDigits 10 (4 * b.significand * num / den)).length : Int) - 341

/-- The point of the grid `10 ^ k` that stands for the value, when one of the two points beside
    it rounds back to the same double. -/
def onGrid? (b : Binary) (tie : Tie) (k : Int) : Option Nat :=
  let (num, den) := b.quarter k
  let value := 4 * b.significand * num
  let low := (4 * b.significand - if b.closerBelow then 1 else 2) * num
  let high := (4 * b.significand + 2) * num
  let below := value / den
  let fitsBelow := if b.closed then low ≤ below * den else low < below * den
  let fitsAbove := if b.closed then (below + 1) * den ≤ high else (below + 1) * den < high
  if fitsBelow ∧ fitsAbove then
    if 2 * value < (2 * below + 1) * den then some below
    else if (2 * below + 1) * den < 2 * value then some (below + 1)
    else if tie = .even ∧ below % 2 = 0 then some below
    else some (below + 1)
  else if fitsBelow then some below
  else if fitsAbove then some (below + 1)
  else none

/-- The first grid that has a point for the value, going finer at most `steps` times. -/
def search (b : Binary) (tie : Tie) : Nat → Int → Digits
  | 0, k => ⟨0, k⟩
  | steps + 1, k =>
    match b.onGrid? tie k with
    | some point => ⟨point, k⟩
    | none => search b tie steps (k - 1)

/-- Seventeen digits always tell a double from its neighbours, so eighteen grids are enough,
    starting one step above the first digit. -/
def shortest (b : Binary) (tie : Tie) : Digits :=
  if b.significand = 0 then ⟨0, 0⟩ else b.search tie 18 (b.leadingPower + 1)

end Binary

/-- The shortest decimal of the absolute value of a finite double. -/
def shortest (tie : Tie) (x : Float) : Digits :=
  (Binary.ofFloat x).shortest tie

end CarbonSurvey.Decimal
