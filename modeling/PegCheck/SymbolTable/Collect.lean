import PegCheck.SymbolTable.Basic

/-!
# Collecting the symbol table

`collect` reads the symbol table off the declarations from left to right: a rule per declaration,
every reference at its position, and every combinator. Nothing is checked. The nesting of
expressions is bounded: every node costs one unit of fuel on the path to it.

Headlines:
* **`collect`**: the table of a list of declarations, or the report that some expression nests too
  deep.
-/

namespace PegCheck

/-- The report that an expression nests deeper than the fuel allows. -/
structure LimitExceeded where
  deriving DecidableEq, Repr, Inhabited

/-- Takes one unit from a bounded amount of fuel. -/
def spend : Option Nat → Except LimitExceeded (Option Nat)
  | some 0 => .error {}
  | some (n + 1) => .ok (some n)
  | none => .ok none

mutual

/-- Adds what occurs in an expression to a table. -/
def Expr.collect (fuel : Option Nat) (t : SymbolTable) : Expr → Except LimitExceeded SymbolTable
  | .choice alternatives => do
    let t ← Expr.collectList (← spend fuel) t alternatives
    return t.addCombinator .choice
  | .sequence items => do
    let t ← Expr.collectList (← spend fuel) t items
    return t.addCombinator .sequence
  | .primary e modifier => do
    let t ← e.collect (← spend fuel) t
    return match modifier with
      | some m => t.addCombinator (.ofModifier m)
      | none => t
  | .nonterminal name index => do
    let _ ← spend fuel
    return t.addReference name index
  | .terminal kind _ => do
    let _ ← spend fuel
    return t.addCombinator (.ofTerminal kind)

/-- Adds what occurs in a list of expressions to a table. -/
def Expr.collectList (fuel : Option Nat) (t : SymbolTable) :
    List Expr → Except LimitExceeded SymbolTable
  | [] => .ok t
  | e :: es => do Expr.collectList fuel (← e.collect fuel t) es

end

/-- Adds a declaration to a table: its expression, then its rule. -/
def Declaration.collect (fuel : Option Nat) (t : SymbolTable) (d : Declaration) :
    Except LimitExceeded SymbolTable := do
  return (← d.expr.collect fuel t).addRule ⟨d.name, d.index, d.code⟩

/-- The symbol table of a list of declarations; no fuel is no bound. -/
def collect (declarations : List Declaration) (fuel : Option Nat) :
    Except LimitExceeded SymbolTable :=
  declarations.foldlM (Declaration.collect fuel) {}

end PegCheck
