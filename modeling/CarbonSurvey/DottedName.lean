import CarbonSurvey.Text.Blank

/-! # Dotted names

A name is a row of segments joined by `" . "`, such as `transport . voiture . km`. A reference
inside a rule may leave out the segments it shares with the rule, and `merge` puts them back.
-/

namespace CarbonSurvey.DottedName

open Text

/-- What stands between two segments of a name. -/
def separator : List Char := [' ', '.', ' ']

/-- Puts a character in front of the first segment. -/
def consFirst (c : Char) : List (List Char) → List (List Char)
  | [] => [[c]]
  | segment :: segments => (c :: segment) :: segments

/-- The segments of a text, cut at each separator from the left. Separators do not overlap, and
    there is always at least one segment. -/
def split : List Char → List (List Char)
  | [] => [[]]
  | ' ' :: '.' :: ' ' :: rest => [] :: split rest
  | c :: rest => consFirst c (split rest)

def join (segments : List (List Char)) : List Char :=
  separator.intercalate segments

def segments (name : String) : List (List Char) :=
  split name.toList

/-- A reference made absolute: the segments that enclose `root`, then those of `suffix`, each
    kept only where it stands first. -/
def merge (root suffix : String) : String :=
  .ofList (join ((segments root).dropLast ++ segments suffix).eraseDups)

/-- A name that is blank throughout refers to nothing. -/
def isValid (name : String) : Bool :=
  trim name.toList != []

theorem split_ne_nil (text : List Char) : split text ≠ [] := by
  fun_cases split text with
  | case1 => simp
  | case2 => simp
  | case3 c rest => cases split rest <;> simp [consFirst]

end CarbonSurvey.DottedName
