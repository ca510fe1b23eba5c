import CarbonSurvey.Evaluation.Query

/-! # Statistics

A catalogue says which names are of interest in a poll and how their values are put together over
all participants.
-/

namespace CarbonSurvey

inductive Aggregation where
  | mean
  | sum
  /-- The part of the participants whose value is not zero. -/
  | share
  deriving Repr, DecidableEq

structure Fact where
  key : String
  dottedName : String
  aggregation : Aggregation
  deriving Repr, DecidableEq

abbrev Catalogue := List Fact

/-- What a catalogue makes of a poll. -/
structure Statistics where
  participants : Nat
  values : NameTable Float

namespace Aggregation

def name : Aggregation → String
  | .mean => "mean"
  | .sum => "sum"
  | .share => "share"

def all : List Aggregation := [.mean, .sum, .share]

def ofName? (name : String) : Option Aggregation :=
  all.find? fun aggregation => aggregation.name = name

/-- Sums from the first value to the last. An empty sum is negative zero, which adds nothing even to
    negative zero. -/
def sumOf (values : List Float) : Float :=
  values.foldl (· + ·) (-0.0)

/-- One number for the values of all participants, zero if there are none. -/
def apply (aggregation : Aggregation) (values : List Float) : Float :=
  if values = [] then
    0.0
  else
    match aggregation with
    | .sum => sumOf values
    | .mean => sumOf values / Float.ofNat values.length
    | .share => Float.ofNat (values.countP (· != 0.0)) / Float.ofNat values.length

end Aggregation

namespace Statistics

/-- What one participant contributes, with a value in the column of each fact. -/
def row (model : Model) (maxDepth : Nat) (catalogue : Catalogue) (situation : Situation) :
    Vector Float catalogue.length :=
  .ofFn fun column => Setting.evaluate ⟨model, situation, maxDepth⟩ (catalogue.get column).dottedName

/-- The value of the fact in a column. -/
def columnValue (catalogue : Catalogue) (rows : List (Vector Float catalogue.length))
    (column : Fin catalogue.length) : Float :=
  (catalogue.get column).aggregation.apply (rows.map (·.get column))

/-- Each participant gives a row and each fact takes a column. Where facts share a key, the last one
    counts. -/
def compute (model : Model) (maxDepth : Nat) (catalogue : Catalogue) (situations : List Situation) :
    Statistics :=
  let rows := situations.map (row model maxDepth catalogue)
  { participants := situations.length
    values := .ofRows <| (List.finRange catalogue.length).map fun column =>
      ((catalogue.get column).key, columnValue catalogue rows column) }

def toJson (statistics : Statistics) : Json :=
  .object
    [("participants", .number (.whole statistics.participants)),
     ("values", .object (statistics.values.toList.map fun (key, value) =>
        (key, .number (.decimal value))))]

end Statistics

end CarbonSurvey
