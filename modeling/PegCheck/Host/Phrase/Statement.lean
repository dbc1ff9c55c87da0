import PegCheck.Host.Phrase.Expression
import PegCheck.Host.Phrase.Item

/-!
# Statements

A statement binds a pattern, declares an item, calls a macro or is an expression. Every statement
but the last needs a semicolon unless it is an item, a block-like expression or a macro call with
braces.

Headlines:
* **`Phrase.statement`**: one statement and whether another may follow it.
* **`Phrase.statements`**: the statements up to the end of a group, lone semicolons included.
-/

namespace PegCheck.Host.Phrase

open Reader

/-- What a reader of one statement says of it: its kind, whether its last tree is a semicolon that
can be taken off, and whether another statement may follow it. -/
structure StatementClass where
  kind : FormKind
  terminated : Bool
  complete : Bool
  deriving DecidableEq, Repr

/-! ## Which statement begins -/

/-- The trees after a path without arguments, if one is ahead. -/
def afterPlainPath : Reader (List Tree) := do
  let answer ← preview do
    plainPath
    ahead
  return answer.getD []

/-- Does a macro call that declares a name begin here? -/
def seesNamedMacro : Reader Bool := do
  let trees ← afterPlainPath
  let second := skipTree trees
  return (mark "!").stands trees && (Expected.ident.stands second || (word "try").stands second)

/-- Does a macro call with braces begin here, and nothing that goes on with it as an expression? -/
def seesMacroStatement : Reader Bool := do
  let trees ← afterPlainPath
  let third := skipTree (skipTree trees)
  let trails := (mark ".").stands third && !(mark "..").stands third || (mark "?").stands third
  return (mark "!").stands trees && (Expected.group .brace).stands (skipTree trees) && !trails

/-- Does a static item begin here, and no closure? -/
def seesStaticItem : Reader Bool := do
  unless ← sees (word "static") do return false
  return (← seesSecond (word "mut")) || (← seesSecond .ident)

/-- Does a constant or a constant function begin here, and no constant block or closure? -/
def seesConstItem : Reader Bool := do
  unless ← sees (word "const") do return false
  let second := skipTree (← ahead)
  let third := skipTree second
  let isAsyncFunction := [word "unsafe", word "extern", word "fn"].any (·.stands third)
  return !([.group .brace, word "static", word "move", mark "|"].any (·.stands second)
    || ((word "async").stands second && !isAsyncFunction))

/-- Does an item begin here? -/
def seesItem : Reader Bool := do
  if ← seesAny [word "pub", word "extern", word "use", word "fn", word "mod", word "type",
    word "struct", word "enum", word "trait", word "impl", word "macro"] then return true
  if (← seesStaticItem) || (← seesConstItem) || (← seesNamedMacro) then return true
  let trees ← ahead
  let second := skipTree trees
  let begins (first : String) (next : List Expected) : Bool :=
    (word first).stands trees && next.any (·.stands second)
  let excludes (first : String) (next : Expected) : Bool :=
    (word first).stands trees && !next.stands second
  return excludes "crate" (mark "::") || excludes "unsafe" (.group .brace)
    || begins "async" [word "unsafe", word "extern", word "fn"] || begins "union" [.ident]
    || begins "auto" [word "trait"] || begins "default" [word "unsafe", word "impl"]

/-! ## Values that end in a brace -/

/-- Is the trait of a bound a constant one? The lifetimes that the bound is for stand before that.
-/
def marksConstant (bound : List Tree) : Bool :=
  let trait := if (word "for").stands bound then
    (bound.dropWhile fun t => !(mark ">").stands [t]).tail else bound
  [word "const", .group .bracket].any (·.stands trait)

/-- Does a type begin after the given trees, the last one first? Other parentheses there are those
of an expression or of a macro call. -/
def precedesType : List Tree → Bool
  | .ident _ _ :: .punct '\'' _ _ :: _ => true
  | .ident text _ :: _ => ["as", "const", "mut"].contains text
  | .punct c _ _ :: _ => c == '&' || c == '>'
  | _ => false

/-- Are the parentheses with the given content, after the given trees with the last one first, those
of a bound that is not a constant one? -/
def enclosesBound (before content : List Tree) : Bool :=
  if [word "dyn", word "impl"].any (·.stands before) then !marksConstant content
  else precedesType before && (mark "?").stands content

mutual

/-- Does the tree after the given trees, the last one first, end in a brace? The parentheses of a
bound do not count as its end. -/
def endsInBrace (before : List Tree) : Tree → Bool
  | .group .brace _ _ _ => true
  | .group .parenthesis content _ _ => enclosesBound before content && lastEndsInBrace [] content
  | _ => false

/-- Does the last of the trees after the given trees end in a brace? -/
def lastEndsInBrace (before : List Tree) : List Tree → Bool
  | [] => false
  | [t] => endsInBrace before t
  | t :: ts => lastEndsInBrace (t :: before) ts

end

/-! ## Statements -/

/-- The rest of a binding after its pattern: a type, a value and a block for when the pattern does
not match. A value that ends in a brace has no such block. -/
def bindingTail (p : Phrases) : Reader Unit := do
  if ← accept (mark ":") then discard (p.type true)
  if ← accept (mark "=") then
    let (_, trees) ← captured (p.expression true)
    write trees
    if ← acceptIf (!lastEndsInBrace [] trees) (word "else") then block p
  expect (mark ";")

/-- A statement that is an expression after its attributes. These are left out in print if the
leftmost operand is kept as it stands. A macro call is a statement of its own when it has braces or
a semicolon. -/
def expressionStatement (p : Phrases) (attributes : List Tree) : Reader StatementClass := do
  let (result, trees) ← captured p.statementExpression
  write (if result.isKept then trees else attributes ++ trees)
  let terminated ← accept (mark ";")
  match result with
  | .macroCall braced =>
    let complete := terminated || braced
    return ⟨if complete then .macroCall else .expression, terminated, complete⟩
  | _ => return ⟨.expression, terminated, terminated || result == .block⟩

/-- One statement. -/
def statement (p : Phrases) : Reader StatementClass := keeping do
  let (_, attributes) ← captured (outerAttributes p)
  if ← seesMacroStatement then
    write attributes
    plainPath
    discard macroArguments
    return (⟨.macroCall, ← accept (mark ";"), true⟩, false)
  if ← sees (word "let") then
    write attributes
    expect (word "let")
    discard p.pattern
    bindingTail p
    return (⟨.binding, false, true⟩, false)
  if ← seesItem then
    write attributes
    return (⟨.item, false, true⟩, ← itemAfterAttributes p)
  return (← expressionStatement p attributes, false)

/-- The statements up to the end of a group. Only after the last one the semicolon may be missing.
-/
def statements (p : Phrases) : Reader (List Statement) := do
  let read ← iterate (fun read => do
    let (isLone, trees) ← captured (accept (mark ";"))
    if isLone then return some (⟨none, trees, true⟩ :: read)
    if ← atEnd then return none
    let (s, trees) ← captured (statement p)
    unless s.complete || (← atEnd) do fail .unterminated
    return some (⟨some s.kind, trees, s.terminated⟩ :: read)) []
  return read.reverse

end PegCheck.Host.Phrase
