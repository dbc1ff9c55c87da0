import PegCheck.Text.Offset
import PegCheck.Text.Width

/-!
# The lines of a source and the points in them

A source is cut into lines at its newlines; a carriage return before a newline belongs to the line
end. A byte of the source lies at a point of a line, with the number of characters and of columns
before it.

Headlines:
* **`linesOf`**: the lines of a source, with the bytes that each takes.
* **`pointAt?`**: the point of a byte, if a character begins there.
-/

namespace PegCheck.Report

/-- A line of source: its number from one on, its text without the line end, its first byte, the
byte after its line end, and the bytes of its line end. -/
structure Line where
  number : Nat
  text : List Char
  first : Nat
  last : Nat
  ending : Nat
  deriving DecidableEq, Repr, Inhabited

/-- The text of a line and the bytes of its line end, where `text` is what stands before a newline.
-/
def chopLine (text : List Char) : List Char × Nat :=
  if text.getLast? = some '\r' then (text.dropLast, 2) else (text, 1)

/-- The lines of a text whose first line has the given number and begins at byte `first`; `text` is
what has been read of the line, last character first. -/
def linesFrom (number first : Nat) (text : List Char) : List Char → List Line
  | [] => if text.isEmpty then [] else
      let text := text.reverse
      [⟨number, text, first, first + byteLength text, 0⟩]
  | '\n' :: rest =>
    let (text, ending) := chopLine text.reverse
    let last := first + byteLength text + ending
    ⟨number, text, first, last, ending⟩ :: linesFrom (number + 1) last [] rest
  | c :: rest => linesFrom number first (c :: text) rest

/-- The lines of a source. The empty source has one empty line, and no line follows a newline at the
end. -/
def linesOf (source : List Char) : List Line :=
  if source.isEmpty then [⟨1, [], 0, 1, 0⟩] else linesFrom 1 0 [] source

/-- A point in a source: its line, the characters and the columns before it in the line, and its
byte. -/
structure Point where
  line : Nat
  char : Nat
  column : Nat
  byte : Nat
  deriving DecidableEq, Repr, Inhabited

/-- The line in which a byte lies, the last one for a byte past the end. -/
def lineAt (lines : List Line) (byte : Nat) : Line :=
  (lines.find? fun l => l.first ≤ byte && byte < l.last).getD (lines.getLast?.getD default)

/-- The point of a byte. Nothing if the byte is inside a character. A byte in the line end counts as
the end of the line. -/
def pointAt? (lines : List Line) (byte : Nat) : Option Point :=
  let line := lineAt lines byte
  (beforeByte? line.text (byte - line.first)).map fun before =>
    ⟨line.number, before.length, Text.textWidth before, byte⟩

/-- The point at which a range begins. Inside a line end it has one more character before it. -/
def firstPoint? (lines : List Line) (byte : Nat) : Option Point :=
  let line := lineAt lines byte
  (pointAt? lines byte).map fun point =>
    if byte - line.first > byteLength line.text then { point with char := point.char + 1 }
    else point

/-- The point at which a range ends that begins at `first`. On a later line, and inside the line
end, it counts as one further to the right. -/
def lastPoint? (lines : List Line) (first : Point) (byte : Nat) : Option Point :=
  let line := lineAt lines byte
  (pointAt? lines byte).map fun point =>
    if point.line != first.line && byte > line.last - line.ending then
      { point with char := point.char + 1, column := point.column + 1 }
    else point

/-- The points of a range of bytes. An empty range, and one that takes no columns, is shown as one
column wide. -/
def pointsOf? (lines : List Line) (range : Nat × Nat) : Option (Point × Point) := do
  let first ← firstPoint? lines range.1
  let last ← if range.1 = range.2 then some first else lastPoint? lines first range.2
  if first.line = last.line ∧ first.column = last.column then
    return (first, { last with column := last.column + 1 })
  return (first, last)

/-- The number of digits with which the lines down to byte `last` are numbered. -/
def numberWidth (source : List Char) (last : Nat) : Nat :=
  let before := (beforeByte? source last).getD source
  (toString ((linesOf before).length)).length

end PegCheck.Report
