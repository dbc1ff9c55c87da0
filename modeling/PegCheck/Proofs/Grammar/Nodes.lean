import PegCheck.SymbolTable.Collect

/-!
# The nodes of a grammar

What a symbol table says about a grammar is said here of the tree itself: which nodes there are, in
which order a reader meets them, and how deep they nest. Nothing in this file mentions a table.

* `Expr.nodes` lists an expression and everything below it in preorder.
* `Expr.reference?` and `Expr.combinator?` read a single node: the reference that it is, and the
  combinator whose support it needs.
* `Expr.depth` counts the nodes on the longest path down from an expression, so a leaf and a choice
  without alternatives have depth one.
* `Grammar.references` and `Grammar.combinators` collect what the nodes of all declarations say;
  `Grammar.mem_references`: which references there are.
-/

namespace PegCheck

/-- A reference to a rule: the name, and the position at which it stands. -/
structure Reference where
  name : String
  index : Position
  deriving DecidableEq, Repr

/-- References in the order in which a reader of the tree meets them. -/
abbrev References := List Reference

namespace Expr

mutual

/-- An expression and all that is below it: a node comes before its children, and these from left
to right. -/
def nodes : Expr → List Expr
  | .choice alternatives => .choice alternatives :: nodesOfList alternatives
  | .sequence items => .sequence items :: nodesOfList items
  | .primary e modifier => .primary e modifier :: e.nodes
  | .nonterminal name index => [.nonterminal name index]
  | .terminal kind text => [.terminal kind text]

/-- The nodes of several expressions, one after the other. -/
def nodesOfList : List Expr → List Expr
  | [] => []
  | e :: es => e.nodes ++ nodesOfList es

end

theorem nodesOfList_eq_flatMap (es : List Expr) : nodesOfList es = es.flatMap nodes := by
  induction es with
  | nil => rfl
  | cons e es ih => rw [nodesOfList, ih, List.flatMap_cons]

/-- The reference that a node is. -/
def reference? : Expr → Option Reference
  | .nonterminal name index => some ⟨name, index⟩
  | _ => none

/-- The combinator that a node stands for; a primary stands for its modifier. -/
def combinator? : Expr → Option Combinator
  | .choice _ => some .choice
  | .sequence _ => some .sequence
  | .primary _ modifier => modifier.map .ofModifier
  | .nonterminal .. => none
  | .terminal kind _ => some (.ofTerminal kind)

mutual

/-- The number of nodes on the longest path down from an expression. -/
def depth : Expr → Nat
  | .choice alternatives => depthOfList alternatives + 1
  | .sequence items => depthOfList items + 1
  | .primary e _ => e.depth + 1
  | .nonterminal .. => 1
  | .terminal .. => 1

/-- The greatest depth of several expressions, zero if there are none. -/
def depthOfList : List Expr → Nat
  | [] => 0
  | e :: es => max e.depth (depthOfList es)

end

end Expr

/-- Does the fuel allow for a depth? No fuel is no bound. -/
def covers (fuel : Option Nat) (depth : Nat) : Bool :=
  match fuel with
  | none => true
  | some n => decide (depth ≤ n)

theorem covers_max (fuel : Option Nat) (d e : Nat) :
    covers fuel (max d e) = (covers fuel d && covers fuel e) := by
  cases fuel with
  | none => rfl
  | some n =>
    rw [Bool.eq_iff_iff, Bool.and_eq_true]
    simp only [covers, decide_eq_true_eq, Nat.max_le]

/-- All nodes of a declaration. -/
def Declaration.nodes (d : Declaration) : List Expr := d.expr.nodes

namespace Grammar

/-- All nodes of all declarations. -/
def nodes (g : Grammar) : List Expr := g.declarations.flatMap Declaration.nodes

/-- Every reference of a grammar, in the order of the tree. -/
def references (g : Grammar) : References := g.nodes.filterMap Expr.reference?

/-- The combinators that occur in a grammar. -/
def combinators (g : Grammar) : OrderedSet Combinator :=
  .ofList (g.nodes.filterMap Expr.combinator?)

/-- The nodes depend on the expressions only. -/
theorem nodes_congr {g h : Grammar}
    (hexpr : g.declarations.map (·.expr) = h.declarations.map (·.expr)) : g.nodes = h.nodes := by
  have hflat : ∀ g : Grammar, g.nodes = (g.declarations.map (·.expr)).flatMap Expr.nodes :=
    fun g => by
      rw [List.flatMap_map]
      rfl
  rw [hflat, hflat, hexpr]

/-- Does no declaration nest deeper than the fuel allows? -/
def fits (fuel : Option Nat) (g : Grammar) : Bool :=
  g.declarations.all fun d => covers fuel d.expr.depth

theorem fits_none (g : Grammar) : g.fits none = true :=
  List.all_eq_true.mpr fun _ _ => rfl

/-! ## Which nodes there are -/

theorem mem_nodes {g : Grammar} {e : Expr} : e ∈ g.nodes ↔ ∃ d ∈ g.declarations, e ∈ d.nodes :=
  List.mem_flatMap

theorem reference?_eq_some {e : Expr} {name : String} {p : Position} :
    e.reference? = some ⟨name, p⟩ ↔ e = .nonterminal name p := by
  constructor
  · intro h
    cases e <;> simp_all [Expr.reference?]
  · rintro rfl
    rfl

theorem mem_references {g : Grammar} {name : String} {p : Position} :
    ⟨name, p⟩ ∈ g.references ↔ .nonterminal name p ∈ g.nodes := by
  rw [references, List.mem_filterMap]
  constructor
  · rintro ⟨e, he, href⟩
    obtain rfl := reference?_eq_some.mp href
    exact he
  · exact fun h => ⟨_, h, rfl⟩

theorem mem_map_references {g : Grammar} {name : String} :
    name ∈ g.references.map (·.name) ↔
      ∃ d ∈ g.declarations, ∃ p, .nonterminal name p ∈ d.nodes := by
  rw [List.mem_map]
  constructor
  · rintro ⟨⟨_, p⟩, hr, rfl⟩
    obtain ⟨d, hd, hnode⟩ := mem_nodes.mp (mem_references.mp hr)
    exact ⟨d, hd, p, hnode⟩
  · rintro ⟨d, hd, p, hnode⟩
    exact ⟨⟨name, p⟩, mem_references.mpr (mem_nodes.mpr ⟨d, hd, hnode⟩), rfl⟩

end Grammar

end PegCheck
