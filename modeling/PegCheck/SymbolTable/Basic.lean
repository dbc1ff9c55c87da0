import PegCheck.Grammar.Basic

/-!
# Symbol tables

A symbol table lists the rules of a grammar, the positions at which each name is referenced, and the
combinators that occur anywhere. Names that are declared but never referenced have no group of
references.

Headlines:
* **`SymbolTable.entryPoint`**: the first rule of the table.
* **`SymbolTable.addReference`**: a new name opens a group at the end, a known one extends its
  group.
-/

namespace PegCheck

/-- A grammar construct for which generated code needs support. -/
inductive Combinator where
  | choice
  | sequence
  | optional
  | zeroOrMore
  | oneOrMore
  | assert
  | not
  | regexp
  | string
  | charClass
  | anything
  deriving DecidableEq, Repr, Inhabited

namespace Combinator

/-- The combinator of a modifier. -/
def ofModifier : Modifier → Combinator
  | .optional => .optional
  | .zeroOrMore => .zeroOrMore
  | .oneOrMore => .oneOrMore
  | .assert => .assert
  | .not => .not

/-- The combinator of a kind of terminal. -/
def ofTerminal : TerminalKind → Combinator
  | .regexp => .regexp
  | .string => .string
  | .charClass => .charClass
  | .anything => .anything

/-- The name of a combinator. -/
def name : Combinator → String
  | .choice => "choice"
  | .sequence => "sequence"
  | .optional => "optional"
  | .zeroOrMore => "zero_or_more"
  | .oneOrMore => "one_or_more"
  | .assert => "assert"
  | .not => "not"
  | .regexp => "regexp"
  | .string => "string"
  | .charClass => "charclass"
  | .anything => "anything"

/-- The place of a combinator in the order in which sets are shown. -/
def rank (c : Combinator) : Nat := c.ctorIdx

theorem rank_inj {a b : Combinator} (h : a.rank = b.rank) : a = b := by
  cases a <;> cases b <;> first | rfl | cases h

instance : LE Combinator := ⟨fun a b => a.rank ≤ b.rank⟩

instance : LT Combinator := ⟨fun a b => a.rank < b.rank⟩

theorem le_def (a b : Combinator) : a ≤ b ↔ a.rank ≤ b.rank := Iff.rfl

theorem lt_def (a b : Combinator) : a < b ↔ a.rank < b.rank := Iff.rfl

instance : DecidableLE Combinator := fun a b => Nat.decLe a.rank b.rank

instance : DecidableLT Combinator := fun a b => Nat.decLt a.rank b.rank

instance : Std.IsLinearOrder Combinator where
  le_refl a := Nat.le_refl a.rank
  le_trans a b c := by simp only [le_def]; omega
  le_antisymm a b h₁ h₂ := rank_inj (Nat.le_antisymm h₁ h₂)
  le_total a b := Nat.le_total a.rank b.rank

instance : Std.LawfulOrderLT Combinator where
  lt_iff a b := by simp only [le_def, lt_def]; omega

end Combinator

/-- What the table keeps of a declaration. -/
structure Rule where
  name : String
  index : Position
  code : Option CodeBlock := none
  deriving DecidableEq, Repr

/-- A referenced name and the positions at which it is referenced. -/
structure ReferenceGroup where
  name : String
  occurrences : List Position
  deriving DecidableEq, Repr

/-- The rules, the references and the combinators of a grammar. -/
structure SymbolTable where
  rules : List Rule := []
  references : List ReferenceGroup := []
  combinators : OrderedSet Combinator := ∅
  deriving DecidableEq, Repr

namespace SymbolTable

instance : Inhabited SymbolTable := ⟨{}⟩

/-! ## Queries -/

/-- The rule that parsing starts from. -/
def entryPoint (t : SymbolTable) : Option Rule := t.rules.head?

/-- The first rule of a name. -/
def rule (t : SymbolTable) (name : String) : Option Rule := t.rules.find? (·.name == name)

/-- Is there a rule of the name? -/
def isDeclared (t : SymbolTable) (name : String) : Bool := (t.rule name).isSome

/-- The references of a name, if it has a group. -/
def group (t : SymbolTable) (name : String) : Option ReferenceGroup :=
  t.references.find? (·.name == name)

/-- The positions at which a name is referenced. -/
def occurrences (t : SymbolTable) (name : String) : List Position :=
  ((t.group name).map (·.occurrences)).getD []

/-- Does the name have a group of references, even one without positions? -/
def isReferenced (t : SymbolTable) (name : String) : Bool := (t.group name).isSome

/-- Does the combinator occur? -/
def uses (t : SymbolTable) (c : Combinator) : Bool := t.combinators.contains c

/-! ## Building a table -/

/-- Adds a position to the group of a name, or opens one. -/
def addOccurrence (name : String) (position : Position) : List ReferenceGroup → List ReferenceGroup
  | [] => [⟨name, [position]⟩]
  | g :: gs =>
    if g.name == name then { g with occurrences := g.occurrences ++ [position] } :: gs
    else g :: addOccurrence name position gs

/-- Records a reference. -/
def addReference (t : SymbolTable) (name : String) (position : Position) : SymbolTable :=
  { t with references := addOccurrence name position t.references }

/-- Records a combinator. -/
def addCombinator (t : SymbolTable) (c : Combinator) : SymbolTable :=
  { t with combinators := t.combinators.insert c }

/-- Records a rule. -/
def addRule (t : SymbolTable) (r : Rule) : SymbolTable := { t with rules := t.rules ++ [r] }

end SymbolTable

/-- A grammar: declarations in order, host code for the head of the generated module, and the symbol
table once analysis has filled it in. -/
structure Grammar where
  declarations : List Declaration := []
  code : Option CodeBlock := none
  analysis : Option SymbolTable := none
  deriving Repr

instance : Inhabited Grammar := ⟨{}⟩

namespace Grammar

/-- Appends a declaration. -/
def declare (g : Grammar) (d : Declaration) : Grammar :=
  { g with declarations := g.declarations ++ [d] }

/-- Drops all declarations of a name. -/
def remove (g : Grammar) (name : String) : Grammar :=
  { g with declarations := g.declarations.filter (·.name != name) }

/-- Sets the code of all declarations of a name. -/
def setRuleCode (g : Grammar) (name : String) (code : Option CodeBlock) : Grammar :=
  { g with
    declarations := g.declarations.map fun d => if d.name == name then { d with code } else d }

end Grammar

end PegCheck
