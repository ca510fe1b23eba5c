import CarbonSurvey.Text.Width

/-! # Tables

Tables with borders. A cell may have several lines, a column is as wide as its widest line, and a
row is as high as its highest cell.
-/

namespace CarbonSurvey.Report

inductive Alignment where
  | left
  | right
  deriving Repr, DecidableEq

/-- A column: how its cells are aligned, and what stands above them. -/
structure Column where
  alignment : Alignment
  title : String
  deriving Repr, DecidableEq

/-- The lines of a cell. -/
abbrev Cell := List (List Char)

/-- The pieces of a text between newlines. -/
def pieces : List Char → Cell
  | [] => [[]]
  | c :: rest =>
    if c = '\n' then
      [] :: pieces rest
    else
      match pieces rest with
      | [] => [[c]]
      | line :: lines => (c :: line) :: lines

def Cell.ofText (text : String) : Cell :=
  pieces text.toList

def Cell.width (cell : Cell) : Nat :=
  (cell.map Text.width).foldl max 0

/-- A line between blanks, filled up to a width. -/
def fill (alignment : Alignment) (width : Nat) (line : List Char) : List Char :=
  let blanks := List.replicate (width - Text.width line) ' '
  match alignment with
  | .left => ' ' :: line ++ blanks ++ [' ']
  | .right => ' ' :: blanks ++ line ++ [' ']

/-- The characters of a horizontal line: its left end, its stroke, its crossing and its right
    end. -/
structure Line where
  left : Char
  stroke : Char
  crossing : Char
  right : Char
  deriving Repr, DecidableEq

namespace Line

def top : Line := ⟨'┌', '─', '┬', '┐'⟩
def underTitles : Line := ⟨'╞', '═', '╪', '╡'⟩
def betweenRows : Line := ⟨'├', '╌', '┼', '┤'⟩
def bottom : Line := ⟨'└', '─', '┴', '┘'⟩

/-- A line over columns of some widths, each with a blank on either side. -/
def draw (line : Line) (widths : List Nat) : List Char :=
  line.left ::
    [line.crossing].intercalate (widths.map fun width => List.replicate (width + 2) line.stroke) ++
      [line.right]

end Line

/-- One line of a row. A cell that has no such line is blank there. -/
def drawLine (shape : List (Alignment × Nat)) (row : List Cell) (index : Nat) : List Char :=
  let parts := List.zipWith
    (fun column (cell : Cell) => fill column.1 column.2 (cell.getD index [])) shape row
  '│' :: ['┆'].intercalate parts ++ ['│']

def height (row : List Cell) : Nat :=
  (row.map List.length).foldl max 0

def drawRow (shape : List (Alignment × Nat)) (row : List Cell) : List (List Char) :=
  (List.range (height row)).map (drawLine shape row)

/-- The widths of so many columns. A column in which nothing can be seen is still one cell wide. -/
def columnWidths (count : Nat) (rows : List (List Cell)) : List Nat :=
  (List.range count).map fun index =>
    (rows.map fun row => Cell.width (row.getD index [])).foldl max 1

def terminate (lines : List (List Char)) : String :=
  .ofList (lines.flatMap fun line => line ++ ['\n'])

/-- A table with titles above its columns. -/
def titled (columns : List Column) (rows : List (List String)) : String :=
  let titles := columns.map fun column => Cell.ofText column.title
  let cells := rows.map fun row => row.map Cell.ofText
  let widths := columnWidths columns.length (titles :: cells)
  let shape := List.zip (columns.map Column.alignment) widths
  terminate <|
    Line.top.draw widths :: drawRow shape titles ++ [Line.underTitles.draw widths] ++
      [Line.betweenRows.draw widths].intercalate (cells.map (drawRow shape)) ++
      [Line.bottom.draw widths]

/-- A single column of rows without a title. -/
def untitled (rows : List String) : String :=
  let cells := rows.map fun row => [Cell.ofText row]
  let widths := columnWidths 1 cells
  let shape := widths.map fun width => (Alignment.left, width)
  terminate <|
    Line.top.draw widths ::
      [Line.betweenRows.draw widths].intercalate (cells.map (drawRow shape)) ++
      [Line.bottom.draw widths]

end CarbonSurvey.Report
