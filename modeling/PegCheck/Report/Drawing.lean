import PegCheck.Report.Canvas
import PegCheck.Report.Window
import PegCheck.Text.Picture

/-!
# Drawing marked lines

A line of source is drawn with its number in the margin and its marks below it. The label of the
rightmost mark stands behind its carets if there is room; the others hang below their marks, one row
each. A range over a line end goes down along a vertical line at the left, at its depth.

Headlines:
* **`hang`**: in which row below the marks each label hangs.
* **`Frame.drawLine`**: draws a line with its marks.
-/

namespace PegCheck.Report

/-! ## Where labels hang -/

/-- The rows in which labels hang for marks in order from right to left, 0 being the row of the
marks themselves, and the number of rows that are needed below it. `row` is the row of the next
label. -/
def hangFrom (row : Nat) : List Mark → List (Nat × Mark) × Nat
  | [] => ([], 0)
  | m :: later =>
    let collides (next : Mark) : Bool :=
      next.overlaps m 0 && !(next.sameExtent m && !next.hasLabel)
    let own := if row = 0 && m.hasLabel && later.any collides then 1 else row
    let crowds (next : Mark) : Bool :=
      let reach := if next.label.isEmpty then 0 else byteLength next.label + 2
      (next.overlaps m reach && m.hasLabel && next.hasLabel)
        || (m.isJoined && next.hasLabel) || (m.hasLabel && next.isJoined)
        || (m.isJoined && next.isJoined)
        || (next.overlaps m reach && ended next m && next.hasLabel && own == 0)
    let row := if later.any crowds then own + 1 else own
    let (rest, rows) := hangFrom row later
    ((own, m) :: rest, max row rows)
where
  /-- Does the first mark end no further to the right than the second? -/
  ended (a b : Mark) : Bool := a.last < b.last || (a.last == b.last && a.lastChar ≤ b.lastChar)

/-- The marks of a line from right to left with the rows in which their labels hang, and the number
of rows below the row of the marks. When all marks open a range, the leftmost hangs highest. -/
def hang (marks : List Mark) : List (Nat × Mark) × Nat :=
  let sorted := marks.mergeSort fun a b =>
    a.first > b.first || (a.first == b.first && a.firstChar ≥ b.firstChar)
  let (hung, rows) := hangFrom 0 sorted
  let rows := if rows = 0 then 0 else rows + 1
  let opens (m : Mark) : Bool := match m.stretch with
    | .opening _ => true
    | _ => false
  if hung.all fun (_, m) => opens m then
    let lowest := (hung.map (·.1)).foldl max 0
    (hung.map fun (row, m) => (lowest - row, m), rows - 1)
  else (hung, rows)

/-! ## Drawing -/

/-- What is common to all lines of a drawing: the digits of a line number, the first column of the
source, and the window. -/
structure Frame where
  digits : Nat
  code : Nat
  window : Window
  deriving Repr

/-- The ink of a mark. -/
def Mark.ink (m : Mark) : Ink := if m.isPrimary then .severity else .margin

/-- The character under what is marked. -/
def Mark.underline (m : Mark) : Char := if m.isPrimary then '^' else '-'

namespace Frame

/-- The column of the vertical line at a depth. -/
def lane (f : Frame) (depth : Nat) : Nat := f.digits + 2 + depth

/-- Draws the margin of a row that has no line number. -/
def drawMargin (f : Frame) (canvas : Canvas) (row : Nat) : Canvas :=
  canvas.put row (f.digits + 1) '|' .margin

/-- Draws the text of a line with its number in a row; answers the column of the line at which the
visible part begins. -/
def drawText (f : Frame) (canvas : Canvas) (row : Nat) (line : Line) : Canvas × Nat :=
  let cut := f.window.cut (Text.pictures line.text)
  let shown := cut.text.drop cut.hiddenChars
  let canvas := canvas.write row f.code cut.text .plain
  let canvas := if f.window.left > 0 then canvas.write row f.code Window.dots .margin else canvas
  let shownColumn := f.code + cut.hiddenColumns
  let canvas := canvas.write row shownColumn shown .plain
  let canvas :=
    if cut.trailingChars > 0 then
      canvas.write row (shownColumn + shown.length - cut.trailingChars) Window.dots .margin
    else canvas
  let number := (toString line.number).toList
  let canvas := canvas.write row 0 (List.replicate (f.digits - number.length) ' ' ++ number) .margin
  (f.drawMargin canvas row, cut.left)

/-- Do all marks of a line open ranges before which the line has only blanks? -/
def opensWhole (line : Line) (marks : List Mark) : Bool :=
  marks.all fun m => match m.stretch with
    | .opening _ => (line.text.take m.first).all Text.isBlank
    | _ => false

/-- Draws the horizontal line and the vertical one of a mark that is an end of a range, and the
vertical line from a mark to a label that hangs below it. `top` is the row of the source, `x` gives
the column of a column of the line, and `rows` are the rows below that of the marks. -/
def drawJoints (f : Frame) (top rows : Nat) (x : Nat → Nat) (canvas : Canvas) (hung : Nat × Mark) :
    Canvas :=
  let (row, m) := hung
  let bottom := top + row + 1
  let canvas :=
    if row > 0 && (m.hasLabel || m.isJoined) then
      canvas.putDown (top + 1) (bottom + 1) (x m.first) '|' m.ink
    else canvas
  match m.stretch with
  | .within => canvas
  | .opening depth =>
    let canvas := canvas.put bottom (f.lane depth) ' ' m.ink
    canvas.putDown (bottom + 1) (top + rows + 2) (f.lane depth) '|' m.ink
  | .closing depth => canvas.putDown top (bottom + 1) (f.lane depth) '|' m.ink

/-- Draws the label of a mark. -/
def drawLabel (f : Frame) (top left : Nat) (canvas : Canvas) (hung : Nat × Mark) : Canvas :=
  let (row, m) := hung
  if row = 0 then
    let gap := if m.last = 0 then 2 else 1
    canvas.write (top + 1) (f.code + (m.last + gap - left)) m.label m.ink
  else canvas.write (top + row + 2) (f.code + (m.first - left)) m.label m.ink

/-- Draws the carets or dashes of a mark. The end of a joined range and the beginning of a mark
whose label hangs below it are always drawn. -/
def drawUnderline (top : Nat) (x : Nat → Nat) (canvas : Canvas) (hung : Nat × Mark) : Canvas :=
  let (row, m) := hung
  let columns := List.range' m.first (m.last - m.first)
  let canvas := columns.foldl (fun canvas p => canvas.put (top + 1) (x p) m.underline m.ink) canvas
  if m.isJoined || (row > 0 && m.hasLabel) then
    canvas.put (top + 1) (x m.first) m.underline m.ink
  else canvas

/-- Replaces the middle of a mark that is more than twice as wide as the window by dots, in the
source and below it. `isOverlapped` says whether the mark shares columns with others. -/
def shorten (f : Frame) (top : Nat) (canvas : Canvas) (isOverlapped : Bool) (m : Mark) : Canvas :=
  if isOverlapped || m.isJoined || m.last - m.first ≤ max (f.window.width * 2) 10 then canvas
  else
    let kept := max (f.window.width / 3) 5
    let canvas := canvas.replace top (m.first + kept) (m.last - kept) Window.dots
    canvas.replace (top + 1) (m.first + kept) (m.last - kept) Window.dots

/-- Draws the marks of a line below the row `top` of its text. The visible part of the line begins
at its column `left`. -/
def drawMarks (f : Frame) (canvas : Canvas) (top left : Nat) (marks : List Mark) : Canvas :=
  let (hung, rows) := hang marks
  let x (column : Nat) : Nat := f.code + column - left
  let canvas := (List.range (rows + 1)).foldl
    (fun canvas i => f.drawMargin canvas (top + i + 1)) canvas
  let canvas := hung.foldl (fun canvas (row, m) =>
    match m.stretch.depth? with
    | some depth => canvas.putAcross (top + row + 1) (f.lane depth + 1) (x m.first) '_' m.ink
    | none => canvas) canvas
  let canvas := hung.foldl (f.drawJoints top rows x) canvas
  let canvas := hung.foldl (f.drawLabel top left) canvas
  let widest := hung.mergeSort fun (_, a) (_, b) =>
    a.width > b.width || (a.width == b.width && (!a.isPrimary || b.isPrimary))
  let canvas := widest.foldl (drawUnderline top x) canvas
  let isOverlapped (i : Nat) (m : Mark) : Bool :=
    hung.zipIdx.any fun ((_, other), j) => i != j && other.overlaps m 0
  let overlapped := hung.zipIdx.map fun ((_, m), i) => isOverlapped i m
  (overlapped.zip widest).foldl (fun canvas (o, _, m) => f.shorten top canvas o m) canvas

/-- Draws a line with its marks below what has been drawn; answers the depths, with the inks, of the
ranges that open or close on it. -/
def drawLine (f : Frame) (canvas : Canvas) (l : MarkedLine) : Canvas × List (Nat × Ink) :=
  let top := canvas.length
  let (canvas, left) := f.drawText canvas top l.line
  let lanes (marks : List Mark) : List (Nat × Ink) :=
    marks.filterMap fun m => m.stretch.depth?.map (·, m.ink)
  if opensWhole l.line l.marks then
    let drawn := lanes l.marks
    (drawn.foldl (fun canvas (depth, ink) => canvas.put top (f.lane depth) '/' ink) canvas, drawn)
  else
    (f.drawMarks canvas top left l.marks, lanes ((hang l.marks).1.map (·.2)))

/-- Draws the vertical lines of the ranges that are open in a row. -/
def drawLanes (f : Frame) (lanes : List (Nat × Ink)) (canvas : Canvas) (row : Nat) : Canvas :=
  lanes.foldl (fun canvas (depth, ink) => canvas.put row (f.lane depth) '|' ink) canvas

/-- The ranges that are still open after a line on which some open and others close. A depth that is
open already is closed. -/
def nextLanes (lanes drawn : List (Nat × Ink)) : List (Nat × Ink) × List (Nat × Ink) :=
  drawn.foldl (fun (lanes, opened) lane =>
    if lanes.any (·.1 == lane.1) then (lanes.filter (·.1 != lane.1), opened)
    else (lanes, opened.filter (·.1 != lane.1) ++ [lane])) (lanes, [])

/-- Draws what stands between two marked lines: nothing if they follow each other, a single line
between them as it is, and dots for more lines. -/
def drawBetween (f : Frame) (lines : List Line) (canvas : Canvas) (l next : MarkedLine) : Canvas :=
  let row := canvas.length
  if next.line.number > l.line.number + 2 then canvas.write row 0 Window.dots .margin
  else if next.line.number = l.line.number + 2 then
    match lines.find? (·.number == l.line.number + 1) with
    | some line => (f.drawText canvas row line).1
    | none => canvas
  else canvas

/-- The depths of the ranges that open on a line. -/
def openings (l : MarkedLine) : List (Nat × Ink) :=
  l.marks.filterMap fun m => match m.stretch with
    | .opening depth => some (depth, m.ink)
    | _ => none

/-- Draws the marked lines of a source below what has been drawn. `lanes` are the ranges that are
open before them. -/
def drawLines (f : Frame) (lines : List Line) (canvas : Canvas) (lanes : List (Nat × Ink)) :
    List MarkedLine → Canvas
  | [] => canvas
  | l :: rest =>
    let top := canvas.length
    let (canvas, drawn) := f.drawLine canvas l
    let (lanes, opened) := nextLanes lanes drawn
    let canvas := (List.range' top (canvas.length - top)).foldl (f.drawLanes lanes) canvas
    match rest with
    | [] => canvas
    | next :: _ =>
      let row := canvas.length
      let canvas := f.drawBetween lines canvas l next
      let canvas :=
        if canvas.length > row then f.drawLanes (lanes ++ openings l) canvas row else canvas
      f.drawLines lines canvas (lanes ++ opened) rest

end Frame

end PegCheck.Report
