import PegCheck.Finding
import PegCheck.Report.Drawing

/-!
# Reports

Findings are printed one below the other. Without a source each takes one line. With a source, a
report has a title, the path and position if a path is given, and the marked lines of the source:
the place of the finding is marked with its message, and its further places as references.

Headlines:
* **`Report.print`**: the text of findings.
* **`Report.sheet?`**: the drawing of one finding; nothing if it would have to cut a character in
  two.
-/

namespace PegCheck.Report

/-- What is known for a report: the source that positions refer to, its path, and whether escape
sequences may be used. -/
structure Settings where
  source : Option String := none
  path : Option String := none
  colored : Bool := false
  deriving DecidableEq, Repr

/-- The escape sequence of an ink in a report of a severity. -/
def Ink.escape (colored : Bool) (severity : Severity) (ink : Ink) : String :=
  if !colored then ""
  else
    match ink, severity with
    | .plain, _ => ""
    | .bold, _ => "\x1b[1m"
    | .severity, .error => "\x1b[1m\x1b[91m"
    | .severity, .warning => "\x1b[1m\x1b[33m"
    | .margin, _ => "\x1b[1m\x1b[94m"

/-- The label of a further place. -/
def referenceLabel : String := "also referenced here"

/-- The ranges that a finding marks in a source. -/
def annotationsOf (source : List Char) (cause : Cause) : List Annotation :=
  let range (p : Position) := spanRange source p cause.spanWidth
  ⟨range cause.location, cause.message.toList, true⟩ ::
    cause.otherLocations.map fun p => ⟨range p, referenceLabel.toList, false⟩

/-- The pieces of a text between its newlines; `piece` is what has been read of the first, last
character first. -/
def splitLines (piece : List Char) : List Char → List (List Char)
  | [] => [piece.reverse]
  | '\n' :: rest => piece.reverse :: splitLines [] rest
  | c :: rest => splitLines (c :: piece) rest

/-- The title of a report: the severity and the message. Further lines of the message are indented
by the width of the severity. -/
def title (f : Finding) : Canvas :=
  let name := f.severity.name.toList
  let indent := cellsOf (List.replicate (name.length + 2) ' ') .plain
  match splitLines [] (Text.pictures f.cause.message.toList) with
  | [] => []
  | first :: rest =>
    (cellsOf name .severity ++ cellsOf ([':', ' '] ++ first) .bold) ::
      rest.map fun line => indent ++ cellsOf line .bold

/-- Where the primary mark begins: the number of its line and the character in it, counted from one.
-/
def origin? (lines : List MarkedLine) : Option (Nat × Nat) := do
  let l ← lines.find? fun l => l.marks.any (·.isPrimary)
  let first ← ((l.marks.filter (·.isPrimary)).map (·.firstChar)).min?
  return (l.line.number, first + 1)

/-- The row with the path and the place of the primary mark. -/
def originRow (digits : Nat) (path : String) (lines : List MarkedLine) : List Cell :=
  let place := match origin? lines with
    | some (line, char) => ":" ++ toString line ++ ":" ++ toString char
    | none => ""
  cellsOf (List.replicate digits ' ') .plain ++ cellsOf "--> ".toList .margin
    ++ cellsOf (path ++ place).toList .plain

/-- The drawing of a finding; nothing if a range begins or ends inside a character. -/
def sheet? (source : List Char) (path : Option String) (f : Finding) : Option Canvas := do
  let lines := linesOf source
  let annotations := annotationsOf source f.cause
  let (marked, depth) ← markLines? lines annotations
  let digits := numberWidth source ((annotations.map (·.range.2)).foldl max 0)
  let code := digits + 3 + if depth = 0 then 0 else depth + 1
  let frame : Frame := ⟨digits, code, Window.ofLines marked (reportWidth - code)⟩
  let head := title f ++ (path.map fun path => originRow digits path marked).toList
  return frame.drawLines lines (frame.drawMargin head head.length) [] marked

/-- The text of findings; nothing if one of them would have to cut a character of the source in two.
-/
def print (s : Settings) (fs : Findings) : Option String :=
  match s.source with
  | none => some fs.render
  | some source => do
    let sheets ← fs.mapM fun f => do
      let canvas ← sheet? source.toList s.path f
      return canvas.print (Ink.escape s.colored f.severity)
    return "\n".intercalate sheets

end PegCheck.Report
