import CarbonSurvey.Error
import CarbonSurvey.Text.Blank
import CarbonSurvey.Text.Cells

/-! # Error reports

An error in a document is reported with the line it stands in and an arrow to its place. Colours are
terminal escapes, one pair for each coloured piece.
-/

namespace CarbonSurvey.Report

/-- A text in a colour of the terminal. -/
def coloured (colour : String) (text : String) : String :=
  "\x1b[" ++ colour ++ "m" ++ text ++ "\x1b[0m"

def red (text : String) : String := coloured "31" text
def frame (text : String) : String := coloured "38;5;246" text
def margin (text : String) : String := coloured "38;5;240" text
def source (text : String) : String := coloured "38;5;249" text

def repeated (c : Char) (count : Nat) : String :=
  .ofList (List.replicate count c)

/-- The characters that end a line of an excerpt. A carriage return and a newline end it together. -/
def endsLine (c : Char) : Bool :=
  c ∈ ['\n', '\r', '\x0b', '\x0c', '\u0085', '\u2028', '\u2029']

/-- The lines of a text, each with what ends it. An empty text has none. -/
def sourceLines : List Char → List (List Char)
  | [] => []
  | '\r' :: '\n' :: rest => ['\r', '\n'] :: sourceLines rest
  | c :: rest => if endsLine c then [c] :: sourceLines rest else Text.consLine c (sourceLines rest)

/-- A place in a text: the number of its line from one, that line, and the characters before the
    place in the line. The place may be past the end of the last line. -/
structure Spot where
  number : Nat
  line : List Char
  column : Nat
  deriving Repr, DecidableEq

/-- The last line that starts at or before a place. -/
def spot? (number : Nat) : List (List Char) → Nat → Option Spot
  | [], _ => none
  | [line], offset => some ⟨number, line, offset⟩
  | line :: next :: rest, offset =>
    if offset < line.length then some ⟨number, line, offset⟩
    else spot? (number + 1) (next :: rest) (offset - line.length)

/-- What a character looks like in a column. A tab goes on to the next multiple of four, and any
    other blank is a space. -/
def cell (column : Nat) (c : Char) : List Char :=
  if c = '\t' then List.replicate (4 - column % 4) ' '
  else if Text.isBlank c then [' ']
  else [c]

/-- The display width of a character in a column. -/
def cellWidth (column : Nat) (c : Char) : Nat :=
  if c = '\t' then 4 - column % 4
  else if Text.isBlank c then 1
  else Text.cells .fifteenth c

namespace Spot

/-- The line as it is shown. -/
def shownLine (spot : Spot) : List Char :=
  Text.trimEnd spot.line

/-- The widths of the columns from the first to one past the end of the mark. -/
def widths (spot : Spot) (marked : Nat) : List Nat :=
  (List.range (spot.column + marked + 2)).map fun column =>
    match spot.shownLine[column]? with
    | some c => cellWidth column c
    | none => 1

/-- The characters of the line, the marked one in red. -/
def sourceRow (spot : Spot) (marked : Nat) : String :=
  String.join <| spot.shownLine.zipIdx.map fun (c, column) =>
    let colour := if column = spot.column ∧ marked ≠ 0 then red else source
    String.join ((cell column c).map fun shown => colour (.ofList [shown]))

/-- A row below the line: blanks up to the mark, and from there what `draw` gives for each column
    and each cell of it. -/
def arrowRow (spot : Spot) (marked : Nat) (draw : Bool → Nat → String) : String :=
  String.join <| (spot.widths marked).zipIdx.map fun (width, column) =>
    if column < spot.column then repeated ' ' width
    else String.join ((List.range width).map (draw (column = spot.column)))

/-- The row that underlines the marked character, or only points at a place without one. -/
def underline (marked : Nat) (atMark : Bool) (index : Nat) : String :=
  if !atMark then " "
  else if marked = 0 then red (if index = 0 then "│" else " ")
  else red (if index = 0 then "┬" else "─")

/-- The row that leads from the mark to the message. -/
def lead (atMark : Bool) (index : Nat) : String :=
  red (if atMark && index = 0 then "╰" else "─")

end Spot

/-- The first line of a report. -/
def headline (kind : DocumentKind) (details : Details) : String :=
  red "Error:" ++ " " ++ kind.name ++ " error: " ++ details.message ++ " (file " ++
    Error.place details ++ ")"

/-- The characters that an error marks, from the first up to one past the last: the one it means, or
    none at the end of the text. -/
def label (details : Details) : Nat × Nat :=
  let text := details.document.text.toList
  let start := Text.charsBefore text details.offset
  (start, min (start + 1) text.length)

/-- The lines below the headline. -/
def excerpt (details : Details) (spot : Spot) (marked : Nat) : List String :=
  let number := toString spot.number
  let edge := repeated ' ' (number.length + 2)
  let gutter := " " ++ margin (repeated ' ' (number.length + 1) ++ "│") ++ " "
  [ edge ++ frame "╭" ++ frame "─" ++ frame "[" ++ details.document.source ++ ":" ++ number ++ ":" ++
      toString (spot.column + 1) ++ frame "]",
    edge ++ frame "│",
    " " ++ frame (number ++ " │") ++ " " ++ spot.sourceRow marked,
    gutter ++ spot.arrowRow marked (Spot.underline marked),
    gutter ++ spot.arrowRow marked Spot.lead ++ " " ++ details.message,
    frame (repeated '─' (number.length + 2) ++ "╯") ]

def documentError (kind : DocumentKind) (details : Details) : String :=
  let (start, stop) := label details
  let below :=
    match spot? 1 (sourceLines details.document.text.toList) start with
    | some spot => excerpt details spot (stop - start)
    | none => []
  String.join ((headline kind details :: below).map (· ++ "\n"))

/-- The full report of an error. -/
def error : Error → String
  | .document kind details => documentError kind details
  | .circularReference path => "Circular reference: " ++ path
  | .limitExceeded limit allowed actual suggestion =>
    "Resource limit exceeded: " ++ limit ++ "\n  Limit: " ++ allowed ++ "\n  Actual: " ++ actual ++
      "\n  " ++ suggestion

end CarbonSurvey.Report
