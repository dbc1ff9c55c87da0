import PegCheck.Proofs.Grammar.References
import PegCheck.Proofs.OrderedSet
import Mathlib.Data.List.Forall2
import Mathlib.Data.List.Perm.Basic

/-!
# Rearranging a grammar

Two grammars are rearrangements of each other if they differ only in the order of the declarations
and, at any nodes, in the order of the children of choices and sequences.

* `Expr.Rearranged`, `Declaration.Rearranged`, `Grammar.Rearranged`: the relation at its three
  levels.
* `Expr.Rearranged.filterMap_nodes`: what is read off single nodes, without regard to the order of
  their children, is read off the nodes of both, only in another order. The nodes themselves are not
  a permutation, since a node contains its children.
* `Grammar.Rearranged.references_perm`, `Grammar.Rearranged.combinators_eq`,
  `Grammar.Rearranged.fits_eq`: what that says of a whole grammar.
-/

namespace PegCheck

/-! ## Expressions -/

/-- Two expressions differ only in the order of the children of choices and sequences. -/
inductive Expr.Rearranged : Expr → Expr → Prop
  | choice {as bs cs : List Expr} (each : List.Forall₂ Expr.Rearranged as bs) (perm : bs.Perm cs) :
      Rearranged (.choice as) (.choice cs)
  | sequence {as bs cs : List Expr} (each : List.Forall₂ Expr.Rearranged as bs)
      (perm : bs.Perm cs) : Rearranged (.sequence as) (.sequence cs)
  | primary {e f : Expr} (modifier : Option Modifier) (below : Expr.Rearranged e f) :
      Rearranged (.primary e modifier) (.primary f modifier)
  | nonterminal (name : String) (index : Position) :
      Rearranged (.nonterminal name index) (.nonterminal name index)
  | terminal (kind : TerminalKind) (text : String) :
      Rearranged (.terminal kind text) (.terminal kind text)

namespace Expr

namespace Rearranged

theorem reference?_eq {e f : Expr} (h : Rearranged e f) : e.reference? = f.reference? := by
  cases h <;> rfl

theorem combinator?_eq {e f : Expr} (h : Rearranged e f) : e.combinator? = f.combinator? := by
  cases h <;> rfl

end Rearranged

theorem nodesOfList_perm {es fs : List Expr} (h : es.Perm fs) :
    (nodesOfList es).Perm (nodesOfList fs) := by
  rw [nodesOfList_eq_flatMap, nodesOfList_eq_flatMap]
  exact h.flatMap_right nodes

theorem depthOfList_perm {es fs : List Expr} (h : es.Perm fs) :
    depthOfList es = depthOfList fs := by
  induction h with
  | nil => rfl
  | cons e _ ih => rw [depthOfList, depthOfList, ih]
  | swap e f es => simp only [depthOfList, Nat.max_left_comm]
  | trans _ _ ih₁ ih₂ => exact ih₁.trans ih₂

section

variable {β : Type} {read : Expr → Option β}

/-- Two nodes that read the same may be put before lists that read the same up to order. -/
theorem filterMap_cons_perm {e f : Expr} {es fs : List Expr} (h : read e = read f)
    (hbelow : (es.filterMap read).Perm (fs.filterMap read)) :
    ((e :: es).filterMap read).Perm ((f :: fs).filterMap read) := by
  rw [List.filterMap_cons, List.filterMap_cons, h]
  split
  · exact hbelow
  · exact hbelow.cons _

mutual

/-- **What is read off the nodes is the same up to order.** The induction is on the first tree; at a
choice or a sequence the children are first rearranged one by one and then permuted. -/
theorem Rearranged.filterMap_nodes (hread : ∀ {e f}, Rearranged e f → read e = read f) :
    ∀ {e f : Expr}, Rearranged e f → (e.nodes.filterMap read).Perm (f.nodes.filterMap read)
  | .choice _, _, .choice each perm => by
    have hbelow := (filterMap_nodesOfList hread each).trans ((nodesOfList_perm perm).filterMap read)
    rw [nodes, nodes]
    exact filterMap_cons_perm (hread (.choice each perm)) hbelow
  | .sequence _, _, .sequence each perm => by
    have hbelow := (filterMap_nodesOfList hread each).trans ((nodesOfList_perm perm).filterMap read)
    rw [nodes, nodes]
    exact filterMap_cons_perm (hread (.sequence each perm)) hbelow
  | .primary _ _, _, .primary m below => by
    have hbelow := Rearranged.filterMap_nodes hread below
    rw [nodes, nodes]
    exact filterMap_cons_perm (hread (.primary m below)) hbelow
  | .nonterminal _ _, _, .nonterminal _ _ => .refl _
  | .terminal _ _, _, .terminal _ _ => .refl _

theorem filterMap_nodesOfList (hread : ∀ {e f}, Rearranged e f → read e = read f) :
    ∀ {es fs : List Expr}, List.Forall₂ Rearranged es fs →
      ((nodesOfList es).filterMap read).Perm ((nodesOfList fs).filterMap read)
  | [], _, .nil => .refl _
  | _ :: _, _, .cons h hs => by
    rw [nodesOfList, nodesOfList, List.filterMap_append, List.filterMap_append]
    exact (Rearranged.filterMap_nodes hread h).append (filterMap_nodesOfList hread hs)

end

end

mutual

theorem Rearranged.depth_eq : ∀ {e f : Expr}, Rearranged e f → e.depth = f.depth
  | .choice _, _, .choice each perm => by
    rw [depth, depth, depthOfList_eq each, depthOfList_perm perm]
  | .sequence _, _, .sequence each perm => by
    rw [depth, depth, depthOfList_eq each, depthOfList_perm perm]
  | .primary _ _, _, .primary _ below => by rw [depth, depth, Rearranged.depth_eq below]
  | .nonterminal _ _, _, .nonterminal _ _ => rfl
  | .terminal _ _, _, .terminal _ _ => rfl

theorem depthOfList_eq : ∀ {es fs : List Expr}, List.Forall₂ Rearranged es fs →
    depthOfList es = depthOfList fs
  | [], _, .nil => rfl
  | _ :: _, _, .cons h hs => by
    rw [depthOfList, depthOfList, Rearranged.depth_eq h, depthOfList_eq hs]

end

end Expr

/-! ## Declarations and grammars -/

/-- Two declarations differ only in the order of children in their expressions. -/
structure Declaration.Rearranged (d e : Declaration) : Prop where
  name : d.name = e.name
  index : d.index = e.index
  code : d.code = e.code
  expr : d.expr.Rearranged e.expr

/-- Two grammars differ only in the order of the declarations and of children in expressions. -/
structure Grammar.Rearranged (g h : Grammar) : Prop where
  declarations : ∃ ds, List.Forall₂ Declaration.Rearranged g.declarations ds ∧
    ds.Perm h.declarations
  code : g.code = h.code
  analysis : g.analysis = h.analysis

namespace Grammar.Rearranged

variable {g h : Grammar}

/-- What is read off single nodes is read off the nodes of both grammars. -/
theorem filterMap_nodes {β : Type} {read : Expr → Option β}
    (hread : ∀ {e f}, Expr.Rearranged e f → read e = read f) (hr : g.Rearranged h) :
    (g.nodes.filterMap read).Perm (h.nodes.filterMap read) := by
  obtain ⟨ds, each, perm⟩ := hr.declarations
  have hds : ∀ {cs ds : List Declaration}, List.Forall₂ Declaration.Rearranged cs ds →
      ((cs.flatMap Declaration.nodes).filterMap read).Perm
        ((ds.flatMap Declaration.nodes).filterMap read) := by
    intro cs ds hcs
    induction hcs with
    | nil => exact .refl _
    | cons hd _ ih =>
      rw [List.flatMap_cons, List.flatMap_cons, List.filterMap_append, List.filterMap_append]
      exact (Expr.Rearranged.filterMap_nodes hread hd.expr).append ih
  exact (hds each).trans ((perm.flatMap_right _).filterMap read)

theorem references_perm (hr : g.Rearranged h) : g.references.Perm h.references :=
  hr.filterMap_nodes Expr.Rearranged.reference?_eq

theorem combinators_eq (hr : g.Rearranged h) : g.combinators = h.combinators :=
  OrderedSet.ofList_congr fun _ => (hr.filterMap_nodes Expr.Rearranged.combinator?_eq).mem_iff

/-- Whatever a declaration keeps under rearrangement, the two grammars have in another order. -/
theorem map_declarations_perm {β : Type} {f : Declaration → β}
    (hf : ∀ {d e : Declaration}, d.Rearranged e → f d = f e) (hr : g.Rearranged h) :
    (g.declarations.map f).Perm (h.declarations.map f) := by
  obtain ⟨ds, each, perm⟩ := hr.declarations
  have hmap : List.Forall₂ (· = ·) (g.declarations.map f) (ds.map f) :=
    List.forall₂_map_left_iff.mpr (List.forall₂_map_right_iff.mpr (each.imp fun _ _ => hf))
  rw [List.forall₂_eq_eq_eq] at hmap
  rw [hmap]
  exact perm.map f

theorem fits_eq (hr : g.Rearranged h) (fuel : Option Nat) : g.fits fuel = h.fits fuel := by
  have hdepth := hr.map_declarations_perm fun hd : Declaration.Rearranged _ _ => hd.expr.depth_eq
  have hfits : ∀ g : Grammar,
      g.fits fuel = (g.declarations.map fun d => d.expr.depth).all (covers fuel) := fun g => by
    rw [List.all_map]
    rfl
  rw [hfits, hfits]
  exact hdepth.all_eq

end Grammar.Rearranged

end PegCheck
