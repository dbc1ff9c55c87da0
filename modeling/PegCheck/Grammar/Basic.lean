import PegCheck.Position
import PegCheck.OrderedSet

/-!
# Grammars

A grammar is a list of declarations and an optional header of host code; a declaration binds a name
to an expression and may carry action code. The tree is what a surface parser hands over, and
analysis changes nothing in it: it fills in what it learned about code blocks and hangs the symbol
table on the grammar.

Headlines:
* **`Expr`**: the rule bodies: ordered choice, sequence, a primary with a modifier, a reference to a
  rule, a terminal.
* **`CodeBlock.annotations`**: present only once the block has been found valid.
-/

namespace PegCheck

/-- The operator on a primary: `e?`, `e*`, `e+`, `&e` or `!e`. -/
inductive Modifier where
  | optional
  | zeroOrMore
  | oneOrMore
  | assert
  | not
  deriving DecidableEq, Repr, Inhabited

/-- The kinds of terminal. -/
inductive TerminalKind where
  | regexp
  | string
  | charClass
  | anything
  deriving DecidableEq, Repr, Inhabited

/-- A rule body. A nonterminal carries the position at which the reference stands. -/
inductive Expr where
  | choice (alternatives : List Expr)
  | sequence (items : List Expr)
  | primary (expr : Expr) (modifier : Option Modifier)
  | nonterminal (name : String) (index : Position)
  | terminal (kind : TerminalKind) (text : String)
  deriving Repr, Inhabited

namespace Expr

mutual

/-- Are two expressions the same? -/
def same : Expr → Expr → Bool
  | .choice as, .choice bs => sameList as bs
  | .sequence as, .sequence bs => sameList as bs
  | .primary a m, .primary b n => a.same b && m == n
  | .nonterminal a p, .nonterminal b q => a == b && p == q
  | .terminal k s, .terminal l t => k == l && s == t
  | _, _ => false

/-- Are two lists of expressions the same? -/
def sameList : List Expr → List Expr → Bool
  | [], [] => true
  | a :: as, b :: bs => a.same b && sameList as bs
  | _, _ => false

end

instance : BEq Expr := ⟨same⟩

/-- A string terminal. -/
def literal (text : String) : Expr := .terminal .string text

/-- The terminal that matches any character. -/
def any : Expr := .terminal .anything "."

/-- Wraps an expression `times` times, taking the wrappers in turn. -/
def wrap (wrappers : Array (Expr → Expr)) (times : Nat) (e : Expr) : Expr :=
  (List.range times).foldl
    (fun e k => match wrappers[k % wrappers.size]? with
      | some w => w e
      | none => e) e

end Expr

/-- The kinds of top-level form of host code. -/
inductive FormKind where
  | binding
  | item
  | expression
  | macroCall
  deriving DecidableEq, Repr, Inhabited

/-- A top-level form of host code in normalized token text. -/
structure HostForm where
  kind : FormKind
  text : String
  position : Position
  deriving DecidableEq, Repr, Inhabited

/-- The kinds of comment. -/
inductive CommentKind where
  | line
  | block
  deriving DecidableEq, Repr, Inhabited

/-- A comment of host code; its text includes the delimiters. -/
structure Comment where
  kind : CommentKind
  text : String
  position : Position
  deriving DecidableEq, Repr, Inhabited

/-- What is known of a valid code block: its forms, its comments, and the implicit parameters that
it refers to. -/
structure CodeAnnotations where
  parsed : List HostForm
  comments : List Comment
  usedArgs : OrderedSet String
  deriving DecidableEq, Repr

/-- Does the code refer to the parameter? -/
def CodeAnnotations.uses (a : CodeAnnotations) (arg : String) : Bool := a.usedArgs.contains arg

/-- Host code of a rule or of the grammar header. An identity block has no user code and is never
validated. -/
structure CodeBlock where
  code : String
  index : Position
  identity : Bool := false
  annotations : Option CodeAnnotations := none
  deriving DecidableEq, Repr

/-- The block that stands for the default action. -/
def CodeBlock.passThrough (index : Position) : CodeBlock := { code := "", index, identity := true }

/-- A rule: a name, its expression and its action code. -/
structure Declaration where
  name : String
  index : Position
  expr : Expr
  code : Option CodeBlock := none
  deriving Repr

instance : BEq Declaration where
  beq a b := a.name == b.name && a.index == b.index && a.expr == b.expr && a.code == b.code

end PegCheck
