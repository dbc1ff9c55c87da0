import PegCheck.Grammar.Basic
import PegCheck.Host.Phrase.Reader

/-!
# Phrases of the host language

The phrases of the host language contain each other: a block has statements, a statement
expressions, an expression types and blocks. `Phrases` holds a reader for each of the phrases that
can contain itself, and every other reader is given the `Phrases` with which it reads what it
contains. This module has the readers that many phrases share.

Headlines:
* **`Phrases`**: the readers of the recursive phrases and what each says of the phrase it has read.
* **`Argument.arrange`**: lifetimes are printed before all other arguments.
-/

namespace PegCheck.Host

/-- What an expression says of itself to the phrase around it: whether it is a block-like
expression, which ends a statement by itself, a range, a comparison, a macro call, or one kept as it
stands. One that is kept also says so as the leftmost operand of operators. -/
inductive ExprClass where
  | block
  | range
  | comparison (keptLeft : Bool)
  | macroCall (braced : Bool)
  | kept
  | other
  deriving DecidableEq, Repr, Inhabited

/-- Is the expression a comparison? -/
def ExprClass.isComparison : ExprClass → Bool
  | comparison _ => true
  | _ => false

/-- Is the expression, or its leftmost operand, kept as it stands? -/
def ExprClass.isKept : ExprClass → Bool
  | comparison keptLeft => keptLeft
  | kept => true
  | _ => false

/-- What is said of an operator expression that is no comparison, by its left operand. -/
def ExprClass.asOperand (left : ExprClass) : ExprClass := if left.isKept then .kept else .other

/-- The precedences of operators, from loose to tight. -/
inductive Precedence where
  | jump
  | assign
  | range
  | or
  | and
  | binding
  | compare
  | bitOr
  | bitXor
  | bitAnd
  | shift
  | sum
  | product
  | cast
  deriving DecidableEq, Repr, Inhabited

/-- The rank of a precedence; a tighter one has a greater rank. -/
def Precedence.rank : Precedence → Nat
  | jump => 0
  | assign => 1
  | range => 2
  | or => 3
  | and => 4
  | binding => 5
  | compare => 6
  | bitOr => 7
  | bitXor => 8
  | bitAnd => 9
  | shift => 10
  | sum => 11
  | product => 12
  | cast => 13

/-- What a type says of itself: whether it is one name with or without arguments in angle brackets,
some other path, a single bound in the place of a type, such a bound with a question mark in
parentheses, or another type in parentheses. -/
inductive TypeClass where
  | name
  | path
  | bound
  | optionalBound
  | parenthesized
  | other
  deriving DecidableEq, Repr, Inhabited

/-- May a sum of bounds begin with the type when parentheses are put around it? -/
def TypeClass.beginsSum : TypeClass → Bool
  | name | path | bound | optionalBound => true
  | parenthesized | other => false

/-- What a pattern says of itself: whether it is the rest pattern, a range that is open on a side
and has its dots at a place, or a pattern kept as it stands. -/
inductive PatternClass where
  | rest
  | openRange (dots : Place)
  | kept
  | other
  deriving DecidableEq, Repr, Inhabited

/-- The kinds of bound of a type. -/
inductive BoundClass where
  | lifetime
  | trait
  | capture
  deriving DecidableEq, Repr, Inhabited

/-- A statement: its kind, or none for a lone semicolon, its trees, and whether its last tree is a
semicolon that can be taken off. -/
structure Statement where
  kind : Option FormKind
  trees : List Tree
  terminated : Bool
  deriving Repr

/-- The readers of the phrases that can contain themselves. The first flag of an expression allows
struct literals; the flag of a type allows sums of bounds; those of a bound allow captures and
constant traits; that of an import allows the paths of an edition to begin at the root. An import
answers whether one of its paths does. -/
structure Phrases where
  expression : Bool → Reader ExprClass
  unary : Bool → Reader ExprClass
  climb : Bool → Precedence → ExprClass → Reader ExprClass
  statementExpression : Reader ExprClass
  type : Bool → Reader TypeClass
  bound : Bool → Bool → Reader BoundClass
  pattern : Reader PatternClass
  statements : Reader (List Statement)
  item : Reader Unit
  namedFields : Reader Unit
  importTree : Bool → Reader Bool

namespace Phrase

open Reader

/-! ## Paths without arguments, attributes and visibility -/

/-- The words of which a path without arguments is made. -/
def pathWords : List Expected := [.ident, word "super", word "self", word "Self", word "crate"]

/-- A path without arguments. -/
def plainPath : Reader Unit := do
  allow (mark "::")
  unless ← seesAny pathWords do missing .ident
  repeatWhile do
    expect .anyWord
    unless ← accept (mark "::") do return false
    unless ← seesAny pathWords do fail .pathSegment
    return true

/-- The content of an attribute: a path that may have arguments in a group or a value. -/
def attributeContent (p : Phrases) : Reader Unit := do
  unless ← accept (word "unsafe") do plainPath
  if ← seesGroup then discard wholeGroup
  else if ← accept (mark "=") then
    if (← sees (mark "#")) && (← seesSecond (.group .bracket)) then fail .nestedAttribute
    discard (p.expression true)

/-- Attributes of what follows. -/
def outerAttributes (p : Phrases) : Reader Unit := repeatWhile do
  unless ← accept (mark "#") do return false
  inside .bracket (attributeContent p)
  return true

/-- Attributes of the enclosing group. -/
def innerAttributes (p : Phrases) : Reader Unit := repeatWhile do
  unless (← sees (mark "#")) && (← seesSecond (mark "!")) do return false
  expect (mark "#")
  expect (mark "!")
  inside .bracket (attributeContent p)
  return true

/-- A visibility, possibly restricted to a path, and whether there is one. -/
def visibility : Reader Bool := do
  unless ← accept (word "pub") do return false
  match ← ahead with
  | .group .parenthesis content _ _ :: _ =>
    let isRoot := [word "crate", word "self", word "super"].any (·.stands content)
    if isRoot && content.length == 1 then inside .parenthesis (expect .anyWord)
    else if (word "in").stands content then
      inside .parenthesis do
        expect (word "in")
        plainPath
  | _ => pure ()
  return true

/-- The exclamation mark and the group of a macro call; answers whether the group is one of braces.
-/
def macroArguments : Reader Bool := do
  expect (mark "!")
  wholeGroup

/-! ## Blocks -/

/-- Statements up to the end of the group. -/
def content (p : Phrases) : Reader Unit := do
  write ((← p.statements).flatMap (·.trees))

/-- A block. -/
def block (p : Phrases) : Reader Unit := inside .brace (content p)

/-- A block that may begin with attributes of its own. -/
def body (p : Phrases) : Reader Unit := inside .brace do
  innerAttributes p
  content p

/-! ## Arguments in angle brackets -/

/-- An argument in angle brackets: whether it is a lifetime, its trees with the comma after it, and
whether there is such a comma. -/
structure Argument where
  isLifetime : Bool
  trees : List Tree
  separated : Bool

/-- The trees of arguments, lifetimes first. A comma is put after the last lifetime if it has none
and other arguments follow. -/
def Argument.arrange (arguments : List Argument) : List Tree :=
  let (lifetimes, others) := arguments.partition (·.isLifetime)
  let unseparated := (lifetimes.getLast?.map fun a => !a.separated).getD false
  let comma := if unseparated && !others.isEmpty then [Tree.punct ',' false .origin] else []
  lifetimes.flatMap (·.trees) ++ comma ++ others.flatMap (·.trees)

/-- Arguments up to the closing angle bracket. An element answers whether it is a lifetime. -/
def arguments (element : Reader Bool) (comma : Reader Unit) : Reader (List Argument) := do
  let read ← iterate (fun read => do
    if ← sees (mark ">") then return none
    let ((isLifetime, separated), trees) ← captured do
      let isLifetime ← element
      if ← sees (mark ">") then return (isLifetime, false)
      comma
      return (isLifetime, true)
    return some (⟨isLifetime, trees, separated⟩ :: read)) []
  return read.reverse

end Phrase

end PegCheck.Host
