import PegCheck.Host.Phrase.Basic

/-!
# Paths and bounds

A path is made of segments, which may have arguments in angle brackets; in an expression such
arguments follow a double colon. A qualified path begins with a type in angle brackets. Traits, in
the bounds of a type, are paths that may also have arguments in parentheses.

Headlines:
* **`Phrase.path`**, **`Phrase.qualifiedPath`**: a path, and a path that may be qualified.
* **`Phrase.bound`**: one bound of a type.
-/

namespace PegCheck.Host.Phrase

open Reader

/-! ## Generic arguments -/

/-- A constant in the place of a generic argument: a literal, a name or a block. -/
def constantArgument (p : Phrases) : Reader Unit := do
  if ← accept .literal then return
  if ← accept .ident then return
  if ← sees (.group .brace) then body p
  else fail (.alternatives [])

/-- A generic argument: a lifetime, a constant, a type, a name with the type or constant that it
equals, or a name with bounds. Answers whether it is a lifetime. -/
def genericArgument (p : Phrases) : Reader Bool := do
  if (← sees .lifetime) && !(← seesSecond (mark "+")) then
    expect .lifetime
    return true
  if ← seesAny [.literal, .group .brace] then constantArgument p
  else
    match ← p.type true with
    | .name =>
      if ← accept (mark "=") then
        if ← seesAny [.literal, .group .brace] then constantArgument p
        else discard (p.type true)
      else if ← accept (mark ":") then
        separatedWhile (seesAny [mark ",", mark ">"]) (mark "+") (discard (p.bound false true))
    | _ => pure ()
  return false

/-- Generic arguments in angle brackets; answers whether there are any. -/
def genericArguments (p : Phrases) : Reader Bool := do
  expect (mark "<")
  let read ← arguments (genericArgument p) (expect (mark ","))
  write (Argument.arrange read)
  expect (mark ">")
  return !read.isEmpty

/-- The result type of a function, if there is one. -/
def resultType (p : Phrases) (allowSum : Bool) : Reader Unit := do
  if ← accept (mark "->") then discard (p.type allowSum)

/-- Are argument types in parentheses ahead, perhaps after a double colon? -/
def seesParenthesizedArguments : Reader Bool := do
  if ← sees (.group .parenthesis) then return true
  return (← sees (mark "::")) && (← seesThird (.group .parenthesis))

/-- Argument types in parentheses with a result type, if they are ahead. A double colon before them
is left out in print. Answers whether there is no result type or one in parentheses. -/
def parenthesizedArguments (p : Phrases) : Reader (Option Bool) := do
  unless ← seesParenthesizedArguments do return none
  discard (drop (mark "::"))
  inside .parenthesis (commaSeparated (discard (p.type true)))
  unless ← accept (mark "->") do return some true
  return some ((← p.type false) == .parenthesized)

/-! ## Segments and paths -/

/-- The arguments that a segment of a path has in angle brackets. -/
inductive SegmentArguments where
  | absent
  | empty
  | present
  deriving DecidableEq, Repr, Inhabited

/-- What is said of a path: whether it is one segment without leading colons or arguments in
parentheses, whether no segment has angle brackets or parentheses, and whether there is an argument
in those of the last one. -/
structure PathShape where
  isName : Bool
  isPlain : Bool
  lastHasArguments : Bool
  deriving DecidableEq, Repr

/-- A segment of a path and its arguments in angle brackets. In an expression these need a double
colon. In a type empty brackets are left out in print if argument types in parentheses follow. -/
def segment (p : Phrases) (inExpression : Bool) : Reader SegmentArguments := do
  if ← seesAny [word "super", word "self", word "crate", word "try"] then
    expect .anyWord
    return .absent
  unless ← accept (word "Self") do expect .ident
  let trees ← ahead
  let less := (mark "<").stands trees && !(mark "<=").stands trees && !(mark "<<=").stands trees
  let colons := (mark "::").stands trees && (← seesThird (mark "<"))
  unless (!inExpression && less) || colons do return .absent
  let (hasArguments, brackets) ← captured do
    allow (mark "::")
    genericArguments p
  let replaced := !inExpression && !hasArguments && (← seesParenthesizedArguments)
  unless replaced do write brackets
  return if hasArguments then .present else .empty

/-- The shape of a path that goes on with a segment. -/
def PathShape.extend (shape : PathShape) (last : SegmentArguments) : PathShape where
  isName := false
  isPlain := shape.isPlain && last == .absent
  lastHasArguments := last == .present

/-- The segments of a path after `shape`, each after a double colon. Parentheses after a double
colon do not belong to the path. -/
def moreSegments (p : Phrases) (inExpression : Bool) (shape : PathShape) : Reader PathShape :=
  iterate (fun shape => do
    if ← seesThird (.group .parenthesis) then return none
    unless ← accept (mark "::") do return none
    return some (shape.extend (← segment p inExpression))) shape

/-- A path. -/
def path (p : Phrases) (inExpression : Bool) : Reader PathShape := do
  let rooted ← accept (mark "::")
  let first ← segment p inExpression
  moreSegments p inExpression ⟨!rooted, first == .absent, first == .present⟩

/-- The segments after the angle brackets of a qualified path; each double colon is followed by a
segment. -/
def qualifiedSegments (p : Phrases) (inExpression : Bool) : Reader PathShape := do
  let first ← segment p inExpression
  iterate (fun shape => do
    unless ← accept (mark "::") do return none
    return some (shape.extend (← segment p inExpression))) ⟨false, false, first == .present⟩

/-- A path that may be qualified by a type in angle brackets; answers whether it is. -/
def qualifiedPath (p : Phrases) (inExpression : Bool) : Reader (Bool × PathShape) := do
  unless ← accept (mark "<") do return (false, ← path p inExpression)
  discard (p.type true)
  if ← accept (word "as") then discard (path p false)
  expect (mark ">")
  expect (mark "::")
  return (true, ← qualifiedSegments p inExpression)

/-! ## Bounds -/

/-- Lifetimes that a bound is for all of, if there are any. -/
def boundLifetimes (p : Phrases) : Reader Bool := do
  unless ← accept (word "for") do return false
  expect (mark "<")
  separatedUntil (sees (mark ">")) (mark ",") do
    outerAttributes p
    expect .lifetime
  expect (mark ">")
  return true

/-- A captured name; answers whether it is a lifetime. -/
def capturedName : Reader Bool := do
  if ← accept .lifetime then return true
  unless ← acceptAny [.ident, word "Self"] do refuse [.lifetime, .ident, mark ">"]
  return false

/-- The names that a type captures. -/
def captures : Reader Unit := do
  expect (word "use")
  expect (mark "<")
  let names ← arguments capturedName do
    unless ← accept (mark ",") do refuse [mark ",", mark ">"]
  write (Argument.arrange names)
  expect (mark ">")

/-- The word that makes a bound constant, perhaps in brackets; answers whether it is there. -/
def constantMark (allowConst : Bool) : Reader Bool := do
  let start ← place
  if ← sees (.group .bracket) then
    inside .bracket (expect (word "const"))
    unless allowConst do failAt start .maybeConstBound
    return true
  unless ← accept (word "const") do return false
  unless allowConst do failAt start .constBound
  return true

/-- A trait in a bound; answers whether it is a constant one, which is printed as it stands. One
with a question mark is for no lifetimes. -/
def traitBound (p : Phrases) (allowConst : Bool) : Reader Bool := do
  let before ← boundLifetimes p
  let isConst ← constantMark allowConst
  let question ← place
  let optional ← accept (mark "?")
  let after ← if optional && !before then boundLifetimes p else pure false
  let shape ← path p false
  unless shape.lastHasArguments do discard (parenthesizedArguments p)
  if optional && (before || after) then failAt question .optionalBinder
  return isConst

/-- One bound of a type: a lifetime, captured names, or a trait that may be in parentheses. -/
def bound (p : Phrases) (allowCapture allowConst : Bool) : Reader BoundClass := do
  if ← accept .lifetime then return .lifetime
  if ← sees (word "use") then
    let start ← place
    captures
    unless allowCapture do failAt start .capture
    return .capture
  keeping do
    let kept ←
      if ← sees (.group .parenthesis) then inside .parenthesis (traitBound p allowConst)
      else traitBound p allowConst
    return (.trait, kept)

/-- Can a bound follow a plus sign here? -/
def beginsBound (allowConst : Bool) : Reader Bool := do
  let constant := if allowConst then [.group .bracket, word "const"] else []
  seesAny ([.anyWord, mark "::", mark "?", .lifetime, .group .parenthesis] ++ constant)

/-- The kinds of one or more bounds; more than one only if sums are allowed. A plus sign may end
them. -/
def boundSum (p : Phrases) (allowSum allowCapture allowConst : Bool) :
    Reader (List BoundClass) := do
  let first ← p.bound allowCapture allowConst
  iterate (fun done => do
    unless ← acceptIf allowSum (mark "+") do return none
    unless ← beginsBound allowConst do return none
    return some (done ++ [← p.bound allowCapture allowConst])) [first]

/-- The bounds after a plus sign, at least one after each. -/
def addedBounds (p : Phrases) : Reader Nat :=
  iterate (fun n => do
    unless ← accept (mark "+") do return none
    discard (p.bound false false)
    return some (n + 1)) 0

end PegCheck.Host.Phrase
