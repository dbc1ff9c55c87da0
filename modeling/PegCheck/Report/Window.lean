import PegCheck.Report.Mark
import PegCheck.Text.Blank

/-!
# The visible part of long lines

A report is at most 140 columns wide. When a line is longer, a window is chosen that shows the marks
and, if there is room, their labels; the same window is used for all lines of a report. Space at the
beginning of all lines is cut when there is a lot of it.

Headlines:
* **`Window.ofLines`**: the window of the marked lines of a report.
* **`Window.cut`**: the part of a line that is visible, and how much of it is missing on either
  side.
-/

namespace PegCheck.Report

/-- The columns of a report. -/
def reportWidth : Nat := 140

/-- The columns kept free around what has to be visible. -/
def spare : Nat := 6

/-- The columns from `left` up to `right`, the latter excluded, of `width` columns that are there.
-/
structure Window where
  left : Nat
  right : Nat
  width : Nat
  deriving DecidableEq, Repr

namespace Window

/-- The columns that the blanks at the beginning of a line take, a tab counting as four; nothing for
a line of blanks. -/
def indentation? (text : List Char) : Option Nat :=
  let blanks := text.takeWhile Text.isBlank
  if blanks.length = text.length then none
  else some (blanks.foldr (fun c n => (if c = '\t' then 4 else 1) + n) 0)

/-- The window for marks that reach from column `first` to column `last` and with their labels to
column `labelled`, on lines of at most `longest` columns that are indented by at least `indent`. -/
def choose (indent first last labelled longest width : Nat) : Window :=
  let indent := indent - spare
  let first := first - spare
  let last := last + spare
  let labelled := labelled + spare
  let left := if indent > 20 then indent - 16 else 0
  let right := max longest left
  if right - left ≤ width then ⟨left, right, width⟩
  else if indent ≤ labelled ∧ labelled - indent ≤ width then ⟨indent, indent + width, width⟩
  else if labelled - first ≤ width then
    let left := first - (width - (labelled - first)) / 2
    ⟨left, left + width, width⟩
  else if last - first ≤ width then
    let left := first - (width - (last - first)) / 5 * 2
    ⟨left, left + width, width⟩
  else ⟨first, last, width⟩

/-- The window for the marked lines of a report in which `width` columns are left for the source. -/
def ofLines (lines : List MarkedLine) (width : Nat) : Window :=
  let marks := lines.flatMap (·.marks)
  let ends := marks.flatMap fun m => [m.first, m.last]
  let labelEnd (m : Mark) := if m.label.isEmpty then m.last else m.last + Text.textWidth m.label + 1
  let longest := (lines.map fun l => Text.textWidth l.line.text).foldl max 0
  let indent := (lines.filterMap fun l => indentation? l.line.text).min?.getD 0
  let labelled := (marks.map labelEnd).foldl max 0
  choose indent (ends.min?.getD 0) (ends.foldl max 0) labelled longest width

/-- The text that is left when characters of at least `columns` columns are dropped, and how many
columns were dropped. -/
def dropColumns (columns : Nat) : List Char → List Char × Nat
  | [] => ([], 0)
  | c :: cs =>
    if columns = 0 then (c :: cs, 0)
    else
      let (rest, dropped) := dropColumns (columns - Text.charWidth c) cs
      (rest, Text.charWidth c + dropped)

/-- The characters of a text that fit into `columns` columns. -/
def takeColumns (columns : Nat) : List Char → List Char
  | [] => []
  | c :: cs =>
    if Text.charWidth c ≤ columns then c :: takeColumns (columns - Text.charWidth c) cs else []

/-- The fewest characters at the beginning of a text that take at least `columns` columns, counted,
and the columns they take. -/
def coverColumns (columns : Nat) : List Char → Nat × Nat
  | [] => (0, 0)
  | c :: cs =>
    let width := Text.charWidth c
    if width ≥ columns then (1, width)
    else
      let (n, more) := coverColumns (columns - width) cs
      (n + 1, width + more)

/-- The visible part of a line: its characters, the characters and columns at its beginning that
dots stand for, the characters at its end that dots stand for, and the column of the line at which
the visible part begins. -/
structure Cut where
  text : List Char
  hiddenChars : Nat
  hiddenColumns : Nat
  trailingChars : Nat
  left : Nat
  deriving DecidableEq, Repr

/-- The dots that stand for what is cut off. -/
def dots : List Char := ['.', '.', '.']

/-- The visible part of a line. -/
def cut (w : Window) (line : List Char) : Cut :=
  let length := Text.textWidth line
  let left := min w.left length
  let right := if length - w.left ≤ w.width then length else min length w.right
  let (rest, skipped) := dropColumns left line
  let text := takeColumns (right - left) rest
  let left := left + (skipped - left)
  let (hiddenChars, hiddenColumns) := if w.left > 0 then coverColumns dots.length text else (0, 0)
  let trailingChars := if length > right then (coverColumns dots.length text.reverse).1 else 0
  ⟨text, hiddenChars, hiddenColumns, trailingChars, left - (hiddenColumns - dots.length)⟩

end Window

end PegCheck.Report
