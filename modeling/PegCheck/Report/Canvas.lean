/-!
# A canvas of styled characters

A report is drawn on rows of cells. A cell holds a character and its ink; writing past the end of a
row fills the gap with blanks. In print, a run of cells of one ink stands between its escape
sequences.

Headlines:
* **`Canvas.write`**: writes a text from a column on, over what was there.
* **`Canvas.print`**: the rows as text. Without escape sequences it is the characters of the cells.
-/

namespace PegCheck.Report

/-- The inks: none, the bold one of a headline, that of the severity, and that of the margin, which
also marks the further places of a finding. -/
inductive Ink where
  | plain
  | bold
  | severity
  | margin
  deriving DecidableEq, Repr, Inhabited

/-- A character with its ink. -/
structure Cell where
  char : Char
  ink : Ink
  deriving DecidableEq, Repr, Inhabited

/-- An empty cell. -/
def Cell.blank : Cell := ⟨' ', .plain⟩

/-- Rows of cells. -/
abbrev Canvas := List (List Cell)

/-- The cells of a text. -/
def cellsOf (text : List Char) (ink : Ink) : List Cell := text.map (⟨·, ink⟩)

/-- Writes cells over a row from a column on. -/
def writeRow (row : List Cell) (column : Nat) (cells : List Cell) : List Cell :=
  match cells with
  | [] => row
  | _ =>
    let padded := row ++ List.replicate (column - row.length) Cell.blank
    padded.take column ++ cells ++ row.drop (column + cells.length)

namespace Canvas

/-- Writes a text over a row from a column on. Nothing is done for an empty text. -/
def write (canvas : Canvas) (row column : Nat) (text : List Char) (ink : Ink) : Canvas :=
  if text.isEmpty then canvas
  else
    let padded := canvas ++ List.replicate (row + 1 - canvas.length) []
    padded.modify row fun cells => writeRow cells column (cellsOf text ink)

/-- Writes one character. -/
def put (canvas : Canvas) (row column : Nat) (c : Char) (ink : Ink) : Canvas :=
  canvas.write row column [c] ink

/-- Writes one character below itself in the rows from `first` up to `last`, the latter excluded. -/
def putDown (canvas : Canvas) (first last column : Nat) (c : Char) (ink : Ink) : Canvas :=
  (List.range' first (last - first)).foldl (fun canvas row => canvas.put row column c ink) canvas

/-- Writes one character in the columns from `first` up to `last`, the latter excluded. -/
def putAcross (canvas : Canvas) (row first last : Nat) (c : Char) (ink : Ink) : Canvas :=
  canvas.write row first (List.replicate (last - first) c) ink

/-- Replaces the cells of a row between two columns by a text, unless one of the columns lies past
the end of the row. -/
def replace (canvas : Canvas) (row first last : Nat) (text : List Char) : Canvas :=
  canvas.modify row fun cells =>
    if first = last ∨ first > cells.length ∨ last > cells.length then cells
    else
      let shortened := cells.take first ++ cells.drop (last - text.length)
      shortened.take first ++ cellsOf text .margin ++ shortened.drop (first + text.length)

/-- The text of a row; `escape` gives the escape sequence that turns an ink on, and nothing for no
ink. -/
def printRow (escape : Ink → String) (cells : List Cell) : String :=
  let reset (current : String) := if current.isEmpty then "" else "\x1b[0m"
  let (text, current) := cells.foldl (fun (text, current) cell =>
    let next := escape cell.ink
    let turn := if next == current then "" else reset current ++ next
    (text ++ turn ++ String.singleton cell.char, next)) ("", "")
  text ++ reset current

/-- The text of a canvas. -/
def print (escape : Ink → String) (canvas : Canvas) : String :=
  "\n".intercalate (canvas.map (printRow escape))

end Canvas

end PegCheck.Report
