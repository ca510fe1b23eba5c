/-! # JSON values

A number that is written without a point or an exponent and fits 64 bits stays whole; every other
number is a double. An object keeps all its members in the order they were written, and the last
one of a name is the one that counts.
-/

namespace CarbonSurvey

namespace Json

inductive Number where
  | whole (value : Int)
  | decimal (value : Float)
  deriving Repr, DecidableEq

def Number.toFloat : Number → Float
  | .whole value => Float.ofInt value
  | .decimal value => value

end Json

inductive Json where
  | null
  | bool (value : Bool)
  | number (value : Json.Number)
  | text (value : String)
  | list (items : List Json)
  | object (members : List (String × Json))
  deriving Repr

namespace Json

/-- The last member of a name. -/
def lookup? (name : String) : List (String × Json) → Option Json
  | [] => none
  | (key, value) :: rest =>
    match lookup? name rest with
    | some found => some found
    | none => if key = name then some value else none

end Json

end CarbonSurvey
