import PegCheck.Host.Phrase.Language

/-!
# Forms of a snippet

The statements of a snippet are its forms. A snippet need not end in a semicolon: one is put after
it, and taken off again if it ends an expression or a macro call. A form is printed with single
spaces between its trees, with none inside parentheses and brackets and after joint marks.

Headlines:
* **`Tree.print`**: the text of trees.
* **`formsOf`**: the forms of a snippet, or the first fault.
-/

namespace PegCheck.Host

namespace Tree

/-- Is nothing printed between the tree and the next one? -/
def isJoint : Tree → Bool
  | punct _ joint _ => joint
  | _ => false

/-- The text of a group with the given content. -/
def enclose (d : Delimiter) (inside : String) : String :=
  match d with
  | .parenthesis => "(" ++ inside ++ ")"
  | .bracket => "[" ++ inside ++ "]"
  | .brace => if inside.isEmpty then "\x7b \x7d" else "\x7b " ++ inside ++ " \x7d"
  | .invisible => inside

mutual

/-- The text of a tree. -/
def print : Tree → String
  | ident text _ => text
  | punct c _ _ => String.singleton c
  | literal text _ => text
  | group d content _ _ => enclose d (printAll content)

/-- The text of a list of trees. -/
def printAll : List Tree → String
  | [] => ""
  | [t] => t.print
  | t :: ts => t.print ++ (if t.isJoint then "" else " ") ++ printAll ts

end

end Tree

/-- The semicolon that is put after a snippet. It has no place of its own. -/
def finalSemicolon : Tree := .punct ';' false .origin

/-- Does the snippet end in a semicolon of its own? -/
def isTerminated (trees : List Tree) : Bool :=
  match trees.getLast? with
  | some (.punct ';' _ _) => true
  | _ => false

namespace Statement

/-- The statement without the semicolon that ends it, if that can be taken off. -/
def unterminated (s : Statement) : Statement :=
  if s.terminated then { s with trees := s.trees.dropLast, terminated := false } else s

/-- The form of a statement in a snippet that begins at `start`; a lone semicolon is none. -/
def form? (start : Position) (s : Statement) : Option HostForm :=
  s.kind.map fun kind =>
    let place := (s.trees.head?.map Tree.place).getD .origin
    ⟨kind, Tree.printAll s.trees, start.offsetBy place⟩

end Statement

/-- The statements of a snippet. The semicolon that is put after it is taken off again. -/
def statementsOf (trees : List Tree) : Except Fault (List Statement) := do
  let statements ← Phrase.read (trees ++ [finalSemicolon])
  if isTerminated trees then return statements
  return statements.dropLast ++ statements.getLast?.toList.map Statement.unterminated

/-- The forms of a snippet that begins at `start`. -/
def formsOf (trees : List Tree) (start : Position) : Except Fault (List HostForm) := do
  return (← statementsOf trees).filterMap (Statement.form? start)

end PegCheck.Host
