/-! # Positions in a text

A place in a text is a byte index, or a line and a column in bytes. Lines are counted from one and
end with their newline.
-/

namespace CarbonSurvey.Text

/-- The number of bytes a text takes. -/
def byteLength : List Char → Nat
  | [] => 0
  | c :: rest => c.utf8Size + byteLength rest

@[simp]
theorem byteLength_nil : byteLength [] = 0 := rfl

@[simp]
theorem byteLength_cons (c : Char) (text : List Char) :
    byteLength (c :: text) = c.utf8Size + byteLength text := rfl

@[simp]
theorem byteLength_append (left right : List Char) :
    byteLength (left ++ right) = byteLength left + byteLength right := by
  induction left with
  | nil => simp
  | cons c rest ih => simp only [List.cons_append, byteLength_cons, ih, Nat.add_assoc]

/-- A line from one and the number of bytes between its start and the place. -/
structure Position where
  line : Nat
  column : Nat
  deriving Repr, DecidableEq

namespace Position

/-- The position that lies `index` bytes further on. -/
def advance : Position → List Char → Nat → Position
  | p, [], _ => p
  | p, c :: rest, index =>
    if index < c.utf8Size then
      ⟨p.line, p.column + index⟩
    else if c = '\n' then
      advance ⟨p.line + 1, 0⟩ rest (index - c.utf8Size)
    else
      advance ⟨p.line, p.column + c.utf8Size⟩ rest (index - c.utf8Size)

/-- The position of a byte of a text. -/
def ofIndex (text : List Char) (index : Nat) : Position :=
  advance ⟨1, 0⟩ text index

end Position

/-- Puts a character in front of the first line. -/
def consLine (c : Char) : List (List Char) → List (List Char)
  | [] => [[c]]
  | line :: lines => (c :: line) :: lines

/-- The lines of a text, each with its newline. An empty text has none. -/
def lines : List Char → List (List Char)
  | [] => []
  | c :: rest => if c = '\n' then [c] :: lines rest else consLine c (lines rest)

/-- The byte index of a column counted from one, in one of some lines. A column past the line's end
    gives that end, and a line that is not there gives the end of the text. -/
def indexIn : List (List Char) → Nat → Nat → Nat
  | [], _, _ => 0
  | line :: rest, number, column =>
    if number = 1 then min (column - 1) (byteLength line)
    else byteLength line + indexIn rest (number - 1) column

/-- The characters of a text that start before a byte index. -/
def charsBefore : List Char → Nat → Nat
  | [], _ => 0
  | c :: rest, index => if index = 0 then 0 else 1 + charsBefore rest (index - c.utf8Size)

end CarbonSurvey.Text
