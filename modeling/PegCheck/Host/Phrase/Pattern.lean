import PegCheck.Host.Phrase.Number
import PegCheck.Host.Phrase.Path

/-!
# Patterns

A pattern binds names: a name by itself, a path with patterns in a group, a literal or a range, a
reference, a tuple or a slice. Alternatives have bars between them.

Headlines:
* **`Phrase.pattern`**: a single pattern.
* **`Phrase.alternatives`**: a pattern with its alternatives.
-/

namespace PegCheck.Host.Phrase

open Reader

/-! ## Members -/

/-- The index of a field, printed by its value. Complaints are about `start`. -/
def index (text : List Char) (start : Place) : Reader Unit := do
  match Number.integer? text with
  | none => failAt start .integer
  | some (value, suffix) =>
    if suffix > 0 then failAt start .suffixedIndex
    if value ≥ UInt32.size then failAt start .largeIndex
    write [.literal (toString value) start]

/-- The complaint about an index with a sign. -/
def signedIndex (text : List Char) (start : Place) : Reader Unit := do
  match Number.integer? text with
  | none => failAt start .integer
  | some (_, suffix) => failAt start (if suffix > 0 then .suffixedIndex else .negativeIndex)

/-- The index of a field at the next tree. -/
def indexMember : Reader Unit := do
  match ← ahead with
  | .literal text start :: rest =>
    index text.toList start
    modify fun s => { s with rest := rest }
  | .punct '-' _ start :: .literal text _ :: _ => signedIndex text.toList start
  | _ => fail .integer

/-- Is an integer ahead, possibly with a sign? -/
def seesInteger : Reader Bool := do
  match ← ahead with
  | .literal text _ :: _ => return (Number.integer? text.toList).isSome
  | .punct '-' _ _ :: .literal text _ :: _ => return (Number.integer? text.toList).isSome
  | _ => return false

/-- The name or the index of a field; answers whether it is a name. -/
def member : Reader Bool := do
  if ← accept .ident then return true
  unless ← seesInteger do fail .member
  indexMember
  return false

/-! ## Ranges -/

/-- The dots of a range. -/
def rangeDots : Reader Bool := do
  if ← accept (mark "..=") then return true
  if ← sees (mark "...") then refuse [mark "..="]
  unless ← accept (mark "..") do refuse [mark ".."]
  return false

/-- The dots of a range in a pattern; three of them are printed as those of a closed range. Answers
whether the range is closed. -/
def patternDots : Reader Bool := do
  let start ← place
  if ← drop (mark "...") then
    write [.punct '.' true start, .punct '.' true start, .punct '=' false start]
    return true
  rangeDots

/-- What an end of a range in a pattern can begin with. -/
def rangeEnds : List Expected :=
  [.literal, .ident, mark "::", mark "<", word "self", word "Self", word "super", word "crate",
   word "const"]

/-- An end of a range in a pattern, if there is one; answers whether there is. -/
def rangeEnd (p : Phrases) : Reader Bool := do
  if ← atEnd then return false
  if ← seesAny [mark "|", mark "=", mark ",", mark ";", word "if"] then return false
  if ← seesBut (mark ":") (mark "::") then return false
  if ← accept .literal then return true
  if ← accept (word "const") then body p
  else if ← seesAny rangeEnds then discard (qualifiedPath p true)
  else refuse rangeEnds
  return true

/-- The dots and the upper end of a range whose lower end has been read or is missing. A closed
range needs an upper end. -/
def rangeRest (p : Phrases) (hasStart : Bool) (dots : Reader Bool) : Reader PatternClass := do
  let start ← place
  let isClosed ← dots
  let hasEnd ← rangeEnd p
  if isClosed && !hasEnd then fail .rangeEnd
  if !hasStart && !hasEnd then return .rest
  return if hasStart && hasEnd then .other else .openRange start

/-! ## The kinds of pattern -/

/-- Is a bar ahead, and not one of the longer marks that begin with one? -/
def seesBar : Reader Bool := do
  let trees ← ahead
  return (mark "|").stands trees && !(mark "||").stands trees && !(mark "|=").stands trees

/-- A pattern with its alternatives. -/
def alternatives (p : Phrases) : Reader PatternClass := do
  let leading ← accept (mark "|")
  let first ← p.pattern
  iterate (fun _ => do
    unless ← seesBar do return none
    expect (mark "|")
    discard p.pattern
    return some .other) (if leading then .other else first)

/-- A pattern that is a name, possibly with a pattern for the value that it is bound to. -/
def namePattern (p : Phrases) : Reader Unit := do
  allow (word "ref")
  allow (word "mut")
  unless ← accept (word "self") do expect .ident
  if ← accept (mark "@") then discard p.pattern

/-- The pattern of a field. A boxed one is printed as it stands. -/
def fieldPattern (p : Phrases) : Reader Unit := keeping do
  let boxed ← accept (word "box")
  let byRef ← accept (word "ref")
  let mutable ← accept (word "mut")
  if boxed || byRef || mutable then
    expect .ident
    return ((), boxed)
  let named ← member
  if !named || (← sees (mark ":")) then
    expect (mark ":")
    discard (alternatives p)
  return ((), false)

/-- The patterns of fields in braces; the rest pattern ends them. -/
def fieldPatterns (p : Phrases) : Reader Unit := repeatWhile do
  if ← atEnd then return false
  outerAttributes p
  if ← accept (mark "..") then return false
  fieldPattern p
  if ← atEnd then return false
  expect (mark ",")
  return true

/-- A pattern that begins with a path: a macro call, fields, a tuple, a range or the path alone. -/
def pathPattern (p : Phrases) : Reader PatternClass := do
  let (isQualified, shape) ← qualifiedPath p true
  if !isQualified && shape.isPlain && (← seesBut (mark "!") (mark "!=")) then
    discard macroArguments
  else if ← sees (.group .brace) then inside .brace (fieldPatterns p)
  else if ← sees (.group .parenthesis) then
    inside .parenthesis (commaSeparated (discard (alternatives p)))
  else if ← sees (mark "..") then return ← rangeRest p true patternDots
  return .other

/-- An element of a slice. A range that is open on a side needs parentheses. -/
def sliceElement (p : Phrases) : Reader Unit := do
  match ← alternatives p with
  | .openRange dots => failAt dots .openRange
  | _ => return

/-- Does a pattern that is a path or begins with one begin here? A name alone is no such pattern. -/
def seesPathPattern : Reader Bool := do
  let next := [mark "::", mark "!", .group .brace, .group .parenthesis, mark ".."]
  let after := skipTree (← ahead)
  if (← sees .ident) && next.any (·.stands after) then return true
  if (← sees (word "self")) && (mark "::").stands after then return true
  seesAny [mark "::", mark "<", word "Self", word "super", word "crate"]

/-- What a pattern can begin with. -/
def patternBeginnings : List Expected :=
  [.ident, mark "::", mark "<", word "_", .literal, word "const", word "ref", word "mut", mark "&",
   .group .parenthesis, .group .bracket, mark "..", word "const"]

/-- A pattern without alternatives. -/
def pattern (p : Phrases) : Reader PatternClass := do
  if ← seesPathPattern then return ← pathPattern p
  if ← accept (word "_") then return .other
  if ← sees (word "box") then
    asWritten do
      expect (word "box")
      discard p.pattern
    return .kept
  if ← seesAny [mark "-", .literal, word "const"] then
    discard (rangeEnd p)
    if ← sees (mark "..") then return ← rangeRest p true patternDots
    return .other
  if ← seesAny [word "ref", word "mut", word "self", .ident] then
    namePattern p
    return .other
  if ← accept (mark "&") then
    allow (word "mut")
    discard p.pattern
    return .other
  if ← sees (.group .parenthesis) then
    inside .parenthesis (commaSeparated (discard (alternatives p)))
    return .other
  if ← sees (.group .bracket) then
    inside .bracket (commaSeparated (sliceElement p))
    return .other
  if ← seesBut (mark "..") (mark "...") then return ← rangeRest p false rangeDots
  refuse patternBeginnings

end PegCheck.Host.Phrase
