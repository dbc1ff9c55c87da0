import PegCheck.Host.Phrase.Pattern
import PegCheck.Host.Phrase.TypeExpr

/-!
# Expressions

An expression is built from operands by operators. An operand is an atom with what trails it: calls,
fields and indices. A statement may begin with a block-like expression, and then it ends with that
expression, unless a dot or a question mark follows.

Headlines:
* **`Phrase.climb`**: goes on with an expression as long as an operator of at least a given
  precedence follows. Comparisons do not follow each other, and nothing follows a range.
* **`Phrase.atom`**: an operand without what trails it.
* **`Phrase.statementExpression`**: an expression in the place of a statement.
-/

namespace PegCheck.Host.Phrase

open Reader

/-! ## Operators -/

/-- The binary operators with their precedences. A mark stands before every mark that it begins
with. -/
def operators : List (String × Precedence) :=
  [("+=", .assign), ("-=", .assign), ("*=", .assign), ("/=", .assign), ("%=", .assign),
   ("^=", .assign), ("&=", .assign), ("|=", .assign), ("<<=", .assign), (">>=", .assign),
   ("&&", .and), ("||", .or), ("<<", .shift), (">>", .shift), ("==", .compare), ("<=", .compare),
   ("!=", .compare), (">=", .compare), ("+", .sum), ("-", .sum), ("*", .product), ("/", .product),
   ("%", .product), ("^", .bitXor), ("&", .bitAnd), ("|", .bitOr), ("<", .compare), (">", .compare)]

/-- The binary operator that a list of trees begins with. -/
def operator? (trees : List Tree) : Option (String × Precedence) :=
  operators.find? fun (text, _) => (mark text).stands trees

/-- The precedence of what a list of trees begins with, the loosest one if that is no operator. -/
def precedenceOf (trees : List Tree) : Precedence :=
  match operator? trees with
  | some (_, precedence) => precedence
  | none =>
    if (mark "=").stands trees && !(mark "=>").stands trees then .assign
    else if (mark "..").stands trees then .range
    else if (word "as").stands trees then .cast
    else .jump

/-- The right operand of an operator: with all operators that are tighter, and with those of the
same precedence if it is that of assignments. A range takes no operator. -/
def rightOperand (p : Phrases) (structs : Bool) (precedence : Precedence) : Reader Unit := do
  let first ← p.unary structs
  discard <| iterate (fun right => do
    let next := precedenceOf (← ahead)
    let binds := next.rank > precedence.rank || (next == precedence && precedence == .assign)
    unless binds && right != .range do return none
    return some (← p.climb structs next right)) first

/-- Does a range without an upper end stop here? -/
def endsRange (structs : Bool) : Reader Bool := do
  let marks := [",", ";", "?", "=>", "=", "+", "/", "%", "^", ">", "<=", "!=", "-=", "*=", "&=",
    "|=", "<<="]
  if (← atEnd) || (← seesDot) then return true
  if ← seesAny (word "as" :: marks.map mark) then return true
  return !structs && (← sees (.group .brace))

/-- The dots and the upper end of a range. -/
def rangeTail (p : Phrases) (structs : Bool) : Reader Unit := do
  let isClosed ← rangeDots
  unless !isClosed && (← endsRange structs) do rightOperand p structs .range

/-- Complains about what may not follow a cast. -/
def checkCast : Reader Unit := do
  if ← seesDot then
    if ← seesSecond (word "await") then fail (.cast .await)
    let called := (← seesThird (.group .parenthesis)) || (← seesThird (mark "::"))
    fail (.cast (if (← seesSecond .ident) && called then .methodCall else .fieldAccess))
  if ← sees (mark "?") then fail (.cast .question)
  if ← sees (.group .bracket) then fail (.cast .indexing)
  if ← sees (.group .parenthesis) then fail (.cast .call)

/-- Goes on with an expression by one operator whose precedence is at least `base`. -/
def climbStep (p : Phrases) (structs : Bool) (base : Precedence) (left : ExprClass) :
    Reader (Option ExprClass) := do
  if left == .range then return none
  if let some (text, precedence) := operator? (← ahead) then
    if precedence.rank < base.rank then return none
    if precedence == .compare && left.isComparison then fail .chainedComparison
    expect (mark text)
    rightOperand p structs precedence
    return some (if precedence == .compare then .comparison left.isKept else left.asOperand)
  if Precedence.assign.rank ≥ base.rank && (← seesBut (mark "=") (mark "=>")) then
    expect (mark "=")
    rightOperand p structs .assign
    return some left.asOperand
  if Precedence.range.rank ≥ base.rank && (← sees (mark "..")) then
    rangeTail p structs
    return some .range
  if ← accept (word "as") then
    discard (p.type false)
    checkCast
    return some left.asOperand
  return none

/-- Goes on with an expression as long as an operator follows whose precedence is at least `base`.
-/
def climb (p : Phrases) (structs : Bool) (base : Precedence) (left : ExprClass) :
    Reader ExprClass :=
  iterate (climbStep p structs base) left

/-- An expression. Struct literals are allowed or not. -/
def expression (p : Phrases) (structs : Bool) : Reader ExprClass := do
  p.climb structs .jump (← p.unary structs)

/-! ## What trails an atom -/

/-- Expressions in parentheses with commas between them. -/
def callArguments (p : Phrases) : Reader Unit :=
  inside .parenthesis (commaSeparated (discard (p.expression true)))

/-- The indices that a float after a dot stands for; answers whether a dot ends it. -/
def floatMembers (text : List Char) (start : Place) : Reader Bool := do
  let (parts, dotted) := Number.indices text
  for (part, i) in parts.zipIdx do
    if i > 0 then write [.punct '.' false start]
    index part start
  if dotted then write [.punct '.' false start]
  return dotted

/-- What follows a dot: the indices in a float, the word for waiting, a field or a method call. -/
def memberAccess (p : Phrases) : Reader Unit := do
  match ← ahead with
  | .literal text start :: rest =>
    if Number.isFloat text.toList then
      let dotted ← floatMembers text.toList start
      modify fun s => { s with rest := rest }
      unless dotted do return
  | .punct '-' _ start :: .literal text _ :: _ =>
    if Number.isFloat text.toList then
      signedIndex ((Number.indices text.toList).1.headD []) start
  | _ => pure ()
  if ← accept (word "await") then return
  unless ← member do return
  if ← accept (mark "::") then
    discard (genericArguments p)
    callArguments p
  else if ← sees (.group .parenthesis) then callArguments p

/-- Goes on with an operand by one call, field, index or question mark. -/
def trailer (p : Phrases) (left : ExprClass) : Reader (Option ExprClass) := do
  if ← sees (.group .parenthesis) then
    callArguments p
    return some .other
  if left != .range && (← seesDot) then
    expect (mark ".")
    memberAccess p
    return some .other
  if ← sees (.group .bracket) then
    inside .bracket (discard (p.expression true))
    return some .other
  if ← acceptIf (left != .range) (mark "?") then return some .other
  return none

/-- Goes on with an operand as long as something trails it. -/
def trailers (p : Phrases) (left : ExprClass) : Reader ExprClass := iterate (trailer p) left

/-! ## Block-like expressions -/

/-- An `if` with all its branches. -/
def ifExpression (p : Phrases) : Reader Unit := repeatWhile do
  expect (word "if")
  discard (p.expression false)
  block p
  unless ← accept (word "else") do return false
  if ← sees (word "if") then return true
  unless ← sees (.group .brace) do refuse [word "if", .group .brace]
  block p
  return false

/-- An arm of a `match`. Only after a block-like body the comma may be missing. -/
def matchArm (p : Phrases) : Reader Unit := do
  outerAttributes p
  discard (alternatives p)
  if ← accept (word "if") then discard (p.expression true)
  expect (mark "=>")
  let result ← p.statementExpression
  if result != .block && !(← atEnd) then expect (mark ",") else allow (mark ",")

/-- Do the lifetimes of a closure follow the word `for`? -/
def seesBoundClosure : Reader Bool := do
  let answer ← preview do
    expect (word "for")
    seesGenerics
  return answer.getD false

/-- A loop over the values of an expression. -/
def forLoop (p : Phrases) : Reader Unit := do
  expect (word "for")
  discard (alternatives p)
  expect (word "in")
  discard (p.expression false)
  body p

/-- A block-like expression, if one is ahead; answers whether there was one. -/
def blockLike (p : Phrases) : Reader Bool := do
  if ← sees (word "if") then ifExpression p
  else if ← accept (word "while") then
    discard (p.expression false)
    body p
  else if (← sees (word "for")) && !(← seesBoundClosure) then forLoop p
  else if ← accept (word "loop") then body p
  else if ← accept (word "match") then
    discard (p.expression false)
    inside .brace do
      innerAttributes p
      untilEnd (matchArm p)
  else if (← sees (word "try")) && (← seesSecond (.group .brace)) then
    expect (word "try")
    block p
  else if ← accept (word "unsafe") then body p
  else if (← sees (word "const")) && (← seesSecond (.group .brace)) then
    expect (word "const")
    body p
  else if ← sees (.group .brace) then body p
  else return false
  return true

/-- A loop or a block with a label. -/
def labelled (p : Phrases) : Reader Unit := do
  expect .lifetime
  expect (mark ":")
  unless ← seesAny [word "while", word "for", word "loop", .group .brace] do fail .labelled
  if ← sees (word "for") then forLoop p else discard (blockLike p)

/-! ## Atoms -/

/-- A parameter of a closure. Its attributes are left out in print if it is nothing but a pattern
that is kept as it stands. -/
def closureParameter (p : Phrases) : Reader Unit := do
  let (_, attributes) ← captured (outerAttributes p)
  let (pattern, trees) ← captured p.pattern
  let isTyped ← sees (mark ":")
  write (if pattern == .kept && !isTyped then trees else attributes ++ trees)
  if isTyped then
    expect (mark ":")
    discard (p.type true)

/-- A closure. -/
def closure (p : Phrases) (structs : Bool) : Reader Unit := do
  discard (boundLifetimes p)
  allow (word "const")
  allow (word "static")
  allow (word "async")
  allow (word "move")
  expect (mark "|")
  separatedUntil (sees (mark "|")) (mark ",") (closureParameter p)
  expect (mark "|")
  if ← accept (mark "->") then
    discard (p.type true)
    block p
  else discard (p.expression structs)

/-- Does a closure begin here? -/
def seesClosure : Reader Bool := do
  if ← seesAny [mark "|", word "move", word "static"] then return true
  if ← sees (word "for") then return ← seesBoundClosure
  if ← sees (word "const") then return !(← seesSecond (.group .brace))
  return (← sees (word "async")) && ((← seesSecond (mark "|")) || (← seesSecond (word "move")))

/-- The fields of a struct literal. The value that the other fields are taken from ends them. -/
def fieldValues (p : Phrases) : Reader Unit := repeatWhile do
  if ← atEnd then return false
  if ← accept (mark "..") then
    unless ← atEnd do discard (p.expression true)
    return false
  outerAttributes p
  let named ← member
  if !named || (← sees (mark ":")) then
    expect (mark ":")
    discard (p.expression true)
  if ← atEnd then return false
  expect (mark ",")
  return true

/-- An expression that begins with a path: a macro call, a struct literal or the path alone. -/
def pathExpression (p : Phrases) (structs : Bool) : Reader ExprClass := do
  let (isQualified, shape) ← qualifiedPath p true
  if !isQualified && shape.isPlain && (← seesBut (mark "!") (mark "!=")) then
    return .macroCall (← macroArguments)
  if structs && (← sees (.group .brace)) then inside .brace (fieldValues p)
  return .other

/-- Elements in brackets, or one element with the number of times it is repeated. -/
def elements (p : Phrases) : Reader Unit := inside .bracket do
  if ← atEnd then return
  discard (p.expression true)
  if ← atEnd then return
  if ← accept (mark ";") then discard (p.expression true)
  else
    unless ← accept (mark ",") do fail .elementOrLength
    commaSeparated (discard (p.expression true))

/-- Can an expression begin here? -/
def beginsExpression : Reader Bool := do
  let trees ← ahead
  let but (text : String) (longer : List String) : Bool :=
    (mark text).stands trees && !longer.any fun l => (mark l).stands trees
  return but "!" ["!="] || but "-" ["-=", "->"] || but "*" ["*="] || but "|" ["|="]
    || but "&" ["&="] || but "<" ["<=", "<<="]
    || (← seesGroup)
    || (← seesBut .anyWord (word "as"))
    || (← seesAny [.literal, mark "..", mark "::", .lifetime, mark "#"])

/-- The value of a `return` or a `yield`, if there is one. -/
def optionalValue (p : Phrases) : Reader Unit := do
  if ← beginsExpression then discard (p.expression true)

/-- The label and the value of a `break`, if there are any. A value with a label of its own needs
parentheses. -/
def breakTail (p : Phrases) (structs : Bool) : Reader Unit := do
  if (← sees .lifetime) && (← seesSecond (mark ":")) then
    let start ← place
    discard (p.expression true)
    failAt start .labelledBreak
  allow .lifetime
  if structs || !(← sees (.group .brace)) then optionalValue p

/-- The condition that a pattern matches a value. -/
def letCondition (p : Phrases) (structs : Bool) : Reader Unit := do
  expect (word "let")
  discard (alternatives p)
  expect (mark "=")
  discard (p.climb structs .compare (← p.unary structs))

/-- Is an asynchronous block ahead? -/
def seesAsyncBlock : Reader Bool := do
  unless ← sees (word "async") do return false
  if ← seesSecond (.group .brace) then return true
  return (← seesSecond (word "move")) && (← seesThird (.group .brace))

/-- Does a path begin here? -/
def seesPath : Reader Bool := do
  if ← seesAny (pathWords ++ [mark "::", mark "<"]) then return true
  return (← sees (word "try")) && ((← seesSecond (mark "!")) || (← seesSecond (mark "::")))

/-- An atom that begins with a keyword of its own, if one is ahead; answers whether there was one.
-/
def keywordAtom (p : Phrases) (structs : Bool) : Reader Bool := do
  if ← accept (word "break") then breakTail p structs
  else if ← accept (word "continue") then allow .lifetime
  else if ← acceptAny [word "return", word "yield"] then optionalValue p
  else if ← sees (word "let") then letCondition p structs
  else return false
  return true

/-- An operand without what trails it. -/
def atom (p : Phrases) (structs : Bool) : Reader ExprClass := do
  if ← accept .literal then return .other
  if ← seesAsyncBlock then
    expect (word "async")
    allow (word "move")
    block p
    return .other
  if ← seesClosure then
    closure p structs
    return .other
  if (← sees (word "builtin")) && (← seesSecond (mark "#")) then
    asWritten do
      expect (word "builtin")
      expect (mark "#")
      expect .ident
      unless ← accept (.group .parenthesis) do missing (.group .parenthesis)
    return .kept
  if ← seesPath then return ← pathExpression p structs
  if ← sees (.group .parenthesis) then
    callArguments p
    return .other
  if ← sees (word "become") then
    asWritten do
      expect (word "become")
      discard (p.expression true)
    return .kept
  if ← sees (.group .bracket) then
    elements p
    return .other
  if ← keywordAtom p structs then return .other
  if ← blockLike p then return .block
  if ← sees (mark "..") then
    rangeTail p structs
    return .range
  if ← accept (word "_") then return .other
  if ← sees .lifetime then
    labelled p
    return .block
  fail .expression

/-- An operand with its attributes, the operators before it and all that trails it. -/
def unary (p : Phrases) (structs : Bool) : Reader ExprClass := keeping do
  let attributed ← sees (mark "#")
  outerAttributes p
  if ← accept (mark "&") then
    if (← sees (word "raw")) && ((← seesSecond (word "mut")) || (← seesSecond (word "const"))) then
      expect (word "raw")
      unless ← accept (word "mut") do expect (word "const")
    else allow (word "mut")
    discard (p.unary structs)
    return (.other, false)
  if ← acceptAny [mark "*", mark "!", mark "-"] then
    discard (p.unary structs)
    return (.other, false)
  let start ← place
  let result ← trailers p (← atom p structs)
  if attributed && result == .range then failAt start .attributedRange
  return (result, result == .kept)

/-- An expression in the place of a statement or of the body of a match arm. Its attributes are left
out in print if its first operand is one that is kept as it stands. -/
def statementExpression (p : Phrases) : Reader ExprClass := do
  let (_, attributes) ← captured (outerAttributes p)
  let (first, trees) ← captured do
    if ← sees .lifetime then
      labelled p
      return ExprClass.block
    if ← blockLike p then return .block
    p.unary true
  write (if first == .kept then trees else attributes ++ trees)
  unless first == .block do return ← p.climb true .jump first
  if (← seesDot) || (← sees (mark "?")) then
    return ← p.climb true .jump (← trailers p .block)
  return .block

end PegCheck.Host.Phrase
