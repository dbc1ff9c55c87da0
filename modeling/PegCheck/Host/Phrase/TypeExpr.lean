import PegCheck.Host.Phrase.Path

/-!
# Types

A type is a path, a function, a tuple, a slice or array, a pointer or reference, a sum of bounds, or
one of the types that are a single mark or word. Which of them begins is seen from the next tree.

Headlines:
* **`Phrase.typeExpr`**: a type. Sums of bounds are allowed or not.
* **`Phrase.generics`**, **`Phrase.whereClause`**: the parameters of an item and the conditions on
  them.
-/

namespace PegCheck.Host.Phrase

open Reader

/-! ## Functions -/

/-- The calling convention of a function, if it has one. -/
def callingConvention : Reader Unit := do
  if ← accept (word "extern") then allow .string

/-- The dots of a function with any number of arguments, with their name. -/
def variadicArgument : Reader Unit := do
  if ← seesAny [.ident, word "_"] then
    expect .anyWord
    expect (mark ":")
  expect (mark "...")
  allow (mark ",")

/-- Does the argument with any number of values begin here? -/
def seesVariadic : Reader Bool := do
  if ← sees (mark "...") then return true
  return (← seesAny [.ident, word "_"]) && (← seesSecond (mark ":")) && (← seesThird (mark "..."))

/-- Does a single colon follow the next tree? -/
def seesColonSecond : Reader Bool := do
  return (← seesSecond (mark ":")) && !(← seesSecond (mark "::"))

/-- The name of an argument with its colon, if it has one. -/
def argumentName (allowSelf : Bool) : Reader Unit := do
  let names := [.ident, word "_"] ++ if allowSelf then [word "self"] else []
  if (← seesAny names) && (← seesColonSecond) then
    expect .anyWord
    expect (mark ":")

/-- Is a receiver that may be changed ahead? -/
def seesChangedSelf : Reader Bool := do
  return (← sees (word "mut")) && (← seesSecond (word "self"))

/-- An argument of a function type: a type that may be named. The first one may be a receiver, or a
receiver may stand in the place of its type; it is then printed as it stands. -/
def bareArgument (p : Phrases) (allowSelf : Bool) : Reader Unit := keeping do
  let isReceiver := allowSelf && (← seesChangedSelf)
  if isReceiver then expect (word "mut")
  if isReceiver && !(← seesColonSecond) then
    expect (word "self")
    return ((), true)
  let isSelf ← sees (word "self")
  argumentName allowSelf
  if allowSelf && !isSelf && (← seesChangedSelf) then
    expect (word "mut")
    expect (word "self")
    return ((), true)
  discard (p.type true)
  return ((), isReceiver)

/-- The arguments of a function type. -/
def bareArguments (p : Phrases) : Reader Unit :=
  discard <| iterate (fun isFirst => do
    if ← atEnd then return none
    outerAttributes p
    if ← seesVariadic then
      variadicArgument
      return none
    bareArgument p isFirst
    if ← atEnd then return none
    expect (mark ",")
    return some false) true

/-- A function type. Unused content of its parentheses counts after that of its result. -/
def bareFunction (p : Phrases) : Reader Unit := do
  allow (word "unsafe")
  callingConvention
  expect (word "fn")
  let (_, unused) ← enclosed .parenthesis (bareArguments p)
  resultType p false
  leave unused

/-! ## The kinds of type -/

/-- Bounds of an object type. At least one of them has to be a trait. -/
def objectBounds (p : Phrases) (start : Place) (allowSum : Bool) : Reader Unit := do
  let bounds ← boundSum p allowSum false false
  unless bounds.contains .trait do failAt start .objectWithoutTrait

/-- The content of parentheses in the place of a type, and what it is. -/
inductive Parenthesized where
  | tuple
  | optional
  | single (class_ : TypeClass)
  deriving DecidableEq, Repr, Inhabited

/-- The content of parentheses in the place of a type: a tuple, a bound with a question mark or a
single type. -/
def parenthesizedContent (p : Phrases) : Reader Parenthesized := do
  if ← atEnd then return .tuple
  if ← sees .lifetime then
    objectBounds p (← place) true
    return .single .other
  if ← sees (mark "?") then
    discard (traitBound p false)
    return .optional
  let first ← p.type true
  if ← accept (mark ",") then
    commaSeparated (discard (p.type true))
    return .tuple
  return .single first

/-- A group without the delimiters of a group that is all of its content. -/
def mergeDelimiters : List Tree → List Tree
  | [.group d [.group _ content _ _] opened closed] => [.group d content opened closed]
  | trees => trees

/-- Goes on with a type that begins with parentheses of the given content. A path or a single bound
in them may begin a sum; if that bound has parentheses of its own, one pair is left out in print. -/
def afterParentheses (p : Phrases) (allowSum : Bool) (trees : List Tree) :
    Parenthesized → Reader TypeClass
  | .tuple => do
    write trees
    return .other
  | .optional => do
    write trees
    return if (← addedBounds p) == 0 then .optionalBound else .other
  | .single first => do
    let isSum := allowSum && first.beginsSum && (← sees (mark "+"))
    write (if isSum && first == .optionalBound then mergeDelimiters trees else trees)
    unless isSum do return .parenthesized
    discard (addedBounds p)
    return .other

/-- A type that begins with parentheses. Their unused content counts after that of added bounds. -/
def parenthesizedType (p : Phrases) (allowSum : Bool) : Reader TypeClass := do
  let ((content, unused), trees) ← captured (enclosed .parenthesis (parenthesizedContent p))
  let result ← afterParentheses p allowSum trees content
  leave unused
  return result

/-- Goes on with a path in the place of a type by argument types in parentheses after its last
segment. If no result type follows these, or one in parentheses, more segments may follow. -/
def typePathStep (p : Phrases) (shape : PathShape) : Reader (Option PathShape) := do
  if shape.lastHasArguments then return none
  match ← parenthesizedArguments p with
  | none => return none
  | some goesOn =>
    let called : PathShape := ⟨false, false, true⟩
    if goesOn then return some (← moreSegments p false called)
    return some called

/-- A path in the place of a type; answers whether it is qualified. -/
def typePath (p : Phrases) : Reader (Bool × PathShape) := do
  let (isQualified, shape) ← qualifiedPath p false
  return (isQualified, ← iterate (typePathStep p) shape)

/-- A type that begins with a path after the lifetimes it is for all of. Bounds may follow it, and
it is a bound itself when there are such lifetimes; a macro call is printed without them. -/
def pathType (p : Phrases) (allowSum : Bool) (lifetimes : List Tree) : Reader TypeClass := do
  let ((isQualified, shape), trees) ← captured (typePath p)
  let isMacro := !isQualified && shape.isPlain && (← seesBut (mark "!") (mark "!="))
  write (if isMacro then trees else lifetimes ++ trees)
  if isMacro then
    discard macroArguments
    return .other
  if isQualified then return .other
  let isSum := allowSum && (← sees (mark "+"))
  unless !lifetimes.isEmpty || isSum do return if shape.isName then .name else .path
  unless isSum do return .bound
  expect (mark "+")
  if ← beginsBound false then discard (boundSum p true false false)
  return .other

/-- A type in brackets: a slice or an array. -/
def bracketType (p : Phrases) : Reader Unit := inside .bracket do
  discard (p.type true)
  if ← accept (mark ";") then discard (p.expression true)

/-- What a type can begin with after the lifetimes it is for all of. -/
def typeAfterLifetimes : List Expected :=
  [.ident, word "fn", word "unsafe", word "extern", word "super", word "self", word "Self",
   word "crate"]

/-- What a type can begin with. -/
def typeBeginnings : List Expected :=
  [word "for", .group .parenthesis, word "fn", word "unsafe", word "extern", .ident, mark "::",
   mark "<", word "dyn", .group .bracket, mark "*", mark "&", mark "!", word "impl", word "_",
   .lifetime]

/-- An object type; with a star before its bounds it is printed as it stands. -/
def objectType (p : Phrases) (allowSum : Bool) : Reader Unit := keeping do
  let start ← place
  expect (word "dyn")
  let kept ← accept (mark "*")
  objectBounds p start allowSum
  return ((), kept)

/-- A type that stands for some type with bounds. At least one of them has to be a trait. -/
def implementationType (p : Phrases) (allowSum : Bool) : Reader Unit := do
  let start ← place
  expect (word "impl")
  let bounds ← boundSum p allowSum true true
  unless bounds.contains .trait do failAt start .implementationWithoutTrait

/-- A pointer. -/
def pointerType (p : Phrases) : Reader Unit := do
  expect (mark "*")
  unless ← acceptAny [word "const", word "mut"] do refuse [word "const", word "mut"]
  discard (p.type false)

/-- A reference. -/
def referenceType (p : Phrases) : Reader Unit := do
  expect (mark "&")
  allow .lifetime
  allow (word "mut")
  discard (p.type false)

/-- A type. Sums of bounds are allowed or not. -/
def typeExpr (p : Phrases) (allowSum : Bool) : Reader TypeClass := do
  let (hasLifetimes, lifetimes) ← captured (boundLifetimes p)
  if hasLifetimes && !(← seesAny typeAfterLifetimes) then refuse typeAfterLifetimes
  if ← seesAny ([mark "::", mark "<"] ++ pathWords) then return ← pathType p allowSum lifetimes
  write lifetimes
  if ← sees (.group .parenthesis) then return ← parenthesizedType p allowSum
  if ← seesAny [word "fn", word "unsafe", word "extern"] then
    bareFunction p
    return .other
  if ← sees (word "dyn") then
    objectType p allowSum
    return .other
  if ← sees (.group .bracket) then
    bracketType p
    return .other
  if ← sees (mark "*") then
    pointerType p
    return .other
  if ← sees (mark "&") then
    referenceType p
    return .other
  if ← acceptAny [mark "!", word "_"] then return .other
  if ← sees (word "impl") then
    implementationType p allowSum
    return .other
  if ← sees .lifetime then
    objectBounds p (← place) true
    return .other
  refuse typeBeginnings

/-! ## Parameters and conditions -/

/-- Lifetimes up to a stop, with plus signs between them. -/
def lifetimeBounds (stop : Reader Bool) : Reader Unit :=
  separatedWhile stop (mark "+") (expect .lifetime)

/-- A lifetime parameter; the colon before its bounds is left out in print if there are none. -/
def lifetimeParameter : Reader Unit := do
  expect .lifetime
  let (_, trees) ← captured do
    if ← accept (mark ":") then
      lifetimeBounds do return (← atEnd) || (← seesAny [mark ",", mark ">"])
  if trees.length > 1 then write trees

/-- Bounds with plus signs between them up to a stop, after a colon. The colon is left out in print
if there are none. -/
def colonBounds (p : Phrases) (stop : Reader Bool) : Reader Unit := do
  let (_, trees) ← captured do
    if ← accept (mark ":") then separatedWhile stop (mark "+") (discard (p.bound false true))
  if trees.length > 1 then write trees

/-- A type parameter. -/
def typeParameter (p : Phrases) : Reader Unit := do
  expect .ident
  colonBounds p do return (← atEnd) || (← seesAny [mark ",", mark ">", mark "="])
  if ← accept (mark "=") then discard (p.type true)

/-- A constant parameter. -/
def constantParameter (p : Phrases) : Reader Unit := do
  expect (word "const")
  expect .ident
  expect (mark ":")
  discard (p.type true)
  if ← accept (mark "=") then constantArgument p

/-- A parameter; answers whether it is a lifetime. -/
def parameter (p : Phrases) : Reader Bool := do
  outerAttributes p
  if ← sees .lifetime then
    lifetimeParameter
    return true
  if ← sees .ident then typeParameter p
  else if ← sees (word "const") then constantParameter p
  else unless ← accept (word "_") do refuse [.lifetime, .ident, word "const"]
  return false

/-- The parameters of an item in angle brackets, if it has any; answers whether there are angle
brackets. Empty ones are left out in print. -/
def generics (p : Phrases) : Reader Bool := do
  unless ← sees (mark "<") do return false
  let (isEmpty, trees) ← captured do
    expect (mark "<")
    let parameters ← arguments (parameter p) (expect (mark ","))
    write (Argument.arrange parameters)
    expect (mark ">")
    return parameters.isEmpty
  unless isEmpty do write trees
  return true

/-- Do the parameters of an item begin here, and not a qualified path? -/
def seesGenerics : Reader Bool := do
  unless ← sees (mark "<") do return false
  if (← seesSecond (mark ">")) || (← seesSecond (mark "#")) || (← seesSecond (word "const")) then
    return true
  let named := (← seesSecond .lifetime) || (← seesSecond .ident)
  let colon := (← seesThird (mark ":")) && !(← seesThird (mark "::"))
  return named && ((← seesThird (mark ">")) || (← seesThird (mark ",")) || colon
    || (← seesThird (mark "=")))

/-- Does the list of conditions or of bounds in a condition end here? -/
def endsCondition : Reader Bool := do
  return (← atEnd) || (← seesAny [.group .brace, mark ",", mark ";", mark "="])
    || (← seesBut (mark ":") (mark "::"))

/-- A condition on a lifetime or a type. -/
def condition (p : Phrases) : Reader Unit := do
  if (← sees .lifetime) && (← seesSecond (mark ":")) then
    expect .lifetime
    expect (mark ":")
    lifetimeBounds do return (← endsCondition) || (← sees (mark ":"))
  else
    discard (boundLifetimes p)
    discard (p.type true)
    expect (mark ":")
    separatedWhile endsCondition (mark "+") (discard (p.bound false true))

/-- The conditions of an item, if it has any; answers whether there is a clause for them. An empty
one is left out in print. -/
def whereClause (p : Phrases) : Reader Bool := do
  unless ← sees (word "where") do return false
  let (_, trees) ← captured do
    expect (word "where")
    if ← seesGenerics then fail .whereGenerics
    separatedWhile endsCondition (mark ",") (condition p)
  if trees.length > 1 then write trees
  return true

end PegCheck.Host.Phrase
