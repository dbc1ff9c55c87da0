import PegCheck.Report.Source

/-!
# Marks on lines

A range of a source is marked with a label. A range within one line is one mark of that line; a
range that runs over a line end opens on one line and closes on the next, and is joined by a
vertical line at the left. Ranges that meet on a line have their vertical lines at different depths.

Headlines:
* **`markLines?`**: the lines that carry marks, in order, and the greatest depth.
-/

namespace PegCheck.Report

/-- A range of bytes to mark with its label. The primary one is marked by carets. -/
structure Annotation where
  range : Nat × Nat
  label : List Char
  isPrimary : Bool
  deriving DecidableEq, Repr

/-- How a mark lies on its line: within it, or as an end of a range that is joined at a depth. -/
inductive Stretch where
  | within
  | opening (depth : Nat)
  | closing (depth : Nat)
  deriving DecidableEq, Repr, Inhabited

/-- The depth at which a mark is joined to one on another line. -/
def Stretch.depth? : Stretch → Option Nat
  | within => none
  | opening depth => some depth
  | closing depth => some depth

/-- A mark on one line, from a character and column up to others, the latter excluded. -/
structure Mark where
  firstChar : Nat
  lastChar : Nat
  first : Nat
  last : Nat
  label : List Char
  isPrimary : Bool
  stretch : Stretch
  deriving DecidableEq, Repr, Inhabited

namespace Mark

/-- Is there a label to write? -/
def hasLabel (m : Mark) : Bool := !m.label.isEmpty

/-- Is the mark joined to one on another line? -/
def isJoined (m : Mark) : Bool := m.stretch != .within

/-- The number of columns between the ends of a mark. -/
def width (m : Mark) : Nat := max (m.last - m.first) (m.first - m.last)

/-- Do two marks share a column when the left one is `padding` columns wider? -/
def overlaps (left right : Mark) (padding : Nat) : Bool :=
  let last := left.last + padding
  (right.first ≤ left.first && left.first < right.last)
    || (left.first ≤ right.first && right.first < last)

/-- Do two marks lie between the same ends? -/
def sameExtent (a b : Mark) : Bool :=
  a.first == b.first && a.firstChar == b.firstChar && a.last == b.last && a.lastChar == b.lastChar

end Mark

/-- A range over a line end. It repeats one that lies between the same ends when another is drawn
for both. -/
structure Span where
  depth : Nat
  first : Point
  last : Point
  label : List Char
  isPrimary : Bool
  isRepeated : Bool
  deriving DecidableEq, Repr

namespace Span

/-- The mark of a range within a line. -/
def within (first last : Point) (a : Annotation) : Mark :=
  ⟨first.char, last.char, first.column, last.column, a.label, a.isPrimary, .within⟩

/-- The mark on the line on which a range opens. -/
def opening (s : Span) : Mark :=
  ⟨s.first.char, s.first.char + 1, s.first.column, s.first.column + 1, [], s.isPrimary,
    .opening s.depth⟩

/-- The mark on the line on which a range closes. -/
def closing (s : Span) : Mark :=
  ⟨s.last.char - 1, s.last.char, s.last.column - 1, s.last.column, s.label, s.isPrimary,
    if s.isRepeated then .within else .closing s.depth⟩

/-- Do two ranges lie between the same points? -/
def samePoints (a b : Span) : Bool := a.first == b.first && a.last == b.last

/-- Do two ranges have a line in common? -/
def meets (a b : Span) : Bool :=
  (b.first.line ≤ a.first.line && a.first.line ≤ b.last.line)
    || (a.first.line ≤ b.first.line && b.first.line ≤ a.last.line)

/-- Compares one range with all in order, up to the first that neither meets it nor differs from it:
the ranges that meet it go one deeper, and one between the same points is drawn once. A range
between the same points as a primary one is primary as well. -/
def compareWith (s : Span) (primaries : List (Point × Point)) : List Span → List Span
  | [] => []
  | other :: rest =>
    if !s.samePoints other && s.meets other then
      { other with depth := other.depth + 1 } :: s.compareWith primaries rest
    else if s.samePoints other && s != other then
      { other with isRepeated := true } :: s.compareWith primaries rest
    else
      { other with isPrimary := other.isPrimary || primaries.contains (other.first, other.last) }
        :: rest

/-- Compares every range with all of them, in order. -/
def settle (spans : List Span) : List Span :=
  (spans.foldl (fun (settled, primaries) s =>
    let primaries := if s.isPrimary then primaries ++ [(s.first, s.last)] else primaries
    (s.compareWith primaries settled, primaries)) (spans, [])).1

/-- The ranges in the order of their lines, each at the depth at which its vertical line is drawn.
-/
def arrange (spans : List Span) : List Span :=
  let sorted := spans.mergeSort fun a b =>
    a.first.line < b.first.line || (a.first.line == b.first.line && a.last.line ≥ b.last.line)
  let settled := settle sorted
  let greatest := (settled.map (·.depth)).foldl max 0
  settled.map fun s => { s with depth := greatest - s.depth + 1 }

end Span

/-- A line with the marks it carries. -/
structure MarkedLine where
  line : Line
  marks : List Mark
  deriving Repr

/-- The marks of ranges with the numbers of their lines, and the greatest depth. -/
def marksOf (points : List ((Point × Point) × Annotation)) : List (Nat × Mark) × Nat :=
  let single := points.filterMap fun ((first, last), a) =>
    if first.line = last.line then some (first.line, Span.within first last a) else none
  let spans := Span.arrange <| points.filterMap fun ((first, last), a) =>
    if first.line = last.line then none
    else some ⟨1, first, last, a.label, a.isPrimary, false⟩
  let joined := spans.flatMap fun s =>
    (if s.isRepeated then [] else [(s.first.line, s.opening)]) ++ [(s.last.line, s.closing)]
  (single ++ joined, (spans.map (·.depth)).foldl max 0)

/-- The lines that carry marks, in order, and the greatest depth; nothing if a range begins or ends
inside a character. -/
def markLines? (lines : List Line) (annotations : List Annotation) :
    Option (List MarkedLine × Nat) := do
  let points ← annotations.mapM fun a => do return (← pointsOf? lines a.range, a)
  let (marks, depth) := marksOf points
  let marked := lines.map fun line => ⟨line, (marks.filter (·.1 == line.number)).map (·.2)⟩
  return (marked.filter (!·.marks.isEmpty), depth)

end PegCheck.Report
