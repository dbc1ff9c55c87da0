import PegCheck.Proofs.Host.Phrase.Types
import PegCheck.Host.Phrase.Expression

/-!
# Patterns and expressions are frugal

The readers of patterns and of expressions write no more than they use up, if the readers of the
phrases inside of them do. An index is written by its value, and a float after a dot as the indices
that it stands for; neither weighs anything, so it does not matter which literal they replace.

* `supplies_index`, `supplies_floatMembers`: indices are supplied.
* `inner_operator`: no operator has a semicolon in it.
* `frugal_pattern`, `frugal_unary`, `frugal_statementExpression`: patterns and expressions.
-/

-- A reader with many parts is frugal by as many instances.
set_option synthInstance.maxSize 1000000000

namespace PegCheck.Host.Phrase

open Reader

variable {e : Extent} {owed : List Tree} (p : Phrases) [hp : p.AreFrugal]

/-! ## Members -/

theorem supplies_index (text : List Char) (start : Place) : Supplies (index text start) := by
  unfold index
  dsimp only
  split
  · exact supplies_failAt _ _
  · rename_i value suffix _
    have hwrite : Supplies (write [.literal (toString value) start]) :=
      supplies_write fun μ => by
        rw [Weight.trees_cons, Weight.tree_literal, μ.index, Weight.trees_nil]
    have hlarge : Supplies (do
        if value ≥ UInt32.size then failAt start .largeIndex
        write [.literal (toString value) start]) := by
      dsimp only
      split
      · exact (supplies_failAt _ _).bind fun _ => hwrite
      · exact hwrite
    split
    · exact (supplies_failAt _ _).bind fun _ => hlarge
    · exact hlarge

instance frugal_signedIndex (text : List Char) (start : Place) :
    Frugal e owed (signedIndex text start) := by
  unfold signedIndex
  split <;> infer_instance

/-- A literal is used up, and what is supplied is written in its place. -/
theorem step_replace {s : ReaderState} {text : String} {place : Place} {rest supplied : List Tree}
    (hrest : s.rest = .literal text place :: rest)
    (hsupplied : ∀ μ : Weight, μ.trees supplied = 0) :
    Step e [] [] s { s with rest := rest, written := supplied ++ s.written } [.literal text place]
      supplied.reverse where
  rest := hrest
  written := by rw [List.reverse_reverse]
  allows := Extent.allows_of_phrase (List.forall_mem_singleton.mpr rfl)
  balance μ := by
    rw [Weight.trees_reverse, hsupplied]
    exact Nat.zero_le _

instance frugal_indexMember : Frugal e owed indexMember := by
  unfold indexMember
  refine .of_ahead fun trees => ?_
  split
  · rename_i text start rest
    intro s a t hrest h
    obtain ⟨_, u, hindex, h⟩ := bind_eq_ok h
    obtain ⟨supplied, hsupplied, rfl⟩ := supplies_index _ _ s _ u hindex
    cases h
    exact ⟨_, _, step_replace hrest hsupplied⟩
  · exact .of_frugal inferInstance
  · exact .of_frugal inferInstance

instance frugal_seesInteger : Frugal e owed seesInteger := by
  unfold seesInteger
  refine .bind inferInstance fun trees => ?_
  split <;> infer_instance

instance frugal_member : Frugal e owed member := by
  unfold member; dsimp only; infer_instance

/-! ## Ranges -/

instance frugal_rangeDots : Frugal e owed rangeDots := by
  unfold rangeDots; dsimp only; infer_instance

instance frugal_patternDots : Frugal e owed patternDots := by
  unfold patternDots
  refine .bind inferInstance fun start => ?_
  have hdot (μ : Weight) : μ.punct '.' = 0 := μ.supplied '.' (by decide)
  have hequal (μ : Weight) : μ.punct '=' = 0 := μ.supplied '=' (by decide)
  have : Frugal e [] (write [.punct '.' true start, .punct '.' true start,
      .punct '=' false start]) :=
    (supplies_write fun μ => by simp [Weight.tree_punct, hdot, hequal]).frugal
  infer_instance

instance frugal_rangeEnd : Frugal e owed (rangeEnd p) := by
  unfold rangeEnd; dsimp only; infer_instance

instance frugal_rangeRest (hasStart : Bool) (dots : Reader Bool) [Frugal e [] dots] :
    Frugal e owed (rangeRest p hasStart dots) := by
  unfold rangeRest; dsimp only; infer_instance

/-! ## The kinds of pattern -/

instance frugal_seesBar : Frugal e owed seesBar := by
  unfold seesBar; infer_instance

instance frugal_alternatives : Frugal e owed (alternatives p) := by
  unfold alternatives; infer_instance

instance frugal_namePattern : Frugal e owed (namePattern p) := by
  unfold namePattern; dsimp only; infer_instance

instance frugal_fieldPattern : Frugal e owed (fieldPattern p) := by
  unfold fieldPattern; dsimp only; infer_instance

instance frugal_fieldPatterns : Frugal e owed (fieldPatterns p) := by
  unfold fieldPatterns; infer_instance

instance frugal_pathPattern : Frugal e owed (pathPattern p) := by
  unfold pathPattern; dsimp only; infer_instance

instance frugal_sliceElement : Frugal e owed (sliceElement p) := by
  unfold sliceElement
  refine .bind inferInstance fun class_ => ?_
  cases class_ <;> infer_instance

instance frugal_seesPathPattern : Frugal e owed seesPathPattern := by
  unfold seesPathPattern; dsimp only; infer_instance

instance frugal_pattern : Frugal e owed (pattern p) := by
  unfold pattern; infer_instance

/-! ## Operators -/

theorem inner_operator {trees : List Tree} {text : String} {precedence : Precedence}
    (h : operator? trees = some (text, precedence)) : Inner (mark text) := by
  have hinner : ∀ o ∈ operators, (mark o.1).isInner = true := by decide
  exact ⟨hinner _ (List.mem_of_find?_eq_some h)⟩

instance frugal_rightOperand (structs : Bool) (precedence : Precedence) :
    Frugal e owed (rightOperand p structs precedence) := by
  unfold rightOperand; dsimp only; infer_instance

instance frugal_endsRange (structs : Bool) : Frugal e owed (endsRange structs) := by
  unfold endsRange; dsimp only; infer_instance

instance frugal_rangeTail (structs : Bool) : Frugal e owed (rangeTail p structs) := by
  unfold rangeTail; infer_instance

instance frugal_checkCast : Frugal e owed checkCast := by
  unfold checkCast; dsimp only; infer_instance

instance frugal_climbStep (structs : Bool) (base : Precedence) (left : ExprClass) :
    Frugal e owed (climbStep p structs base left) := by
  unfold climbStep
  dsimp only
  split
  · infer_instance
  · refine .bind inferInstance fun trees => ?_
    split
    · have := inner_operator ‹_›
      infer_instance
    · infer_instance

instance frugal_climb (structs : Bool) (base : Precedence) (left : ExprClass) :
    Frugal e owed (climb p structs base left) := by
  unfold climb; infer_instance

instance frugal_expression (structs : Bool) : Frugal e owed (expression p structs) := by
  unfold expression; infer_instance

/-! ## What trails an atom -/

instance frugal_callArguments : Frugal e owed (callArguments p) := by
  unfold callArguments; infer_instance

theorem supplies_floatMembers (text : List Char) (start : Place) :
    Supplies (floatMembers text start) := by
  have hdot : Supplies (write [.punct '.' false start]) :=
    supplies_write fun μ => by
      rw [Weight.trees_cons, Weight.tree_punct, μ.supplied '.' (by decide), Weight.trees_nil]
  unfold floatMembers
  dsimp only
  refine .bind (.forIn fun part _ => ?_) fun _ => ?_
  · split
    · exact hdot.bind fun _ => (supplies_index _ _).bind fun _ => supplies_pure _
    · exact (supplies_index _ _).bind fun _ => supplies_pure _
  · split
    · exact hdot.bind fun _ => supplies_pure _
    · exact supplies_pure _

instance frugal_memberAccess : Frugal e owed (memberAccess p) := by
  unfold memberAccess
  dsimp only
  refine .of_ahead fun trees => ?_
  split
  · rename_i text start rest
    split
    · intro s a t hrest h
      obtain ⟨dotted, u, hmembers, h⟩ := bind_eq_ok h
      obtain ⟨supplied, hsupplied, rfl⟩ := supplies_floatMembers _ _ s _ u hmembers
      obtain ⟨_, v, hmodify, h⟩ := bind_eq_ok h
      cases hmodify
      have hreplace : Step e [] [] s _ _ _ := step_replace hrest hsupplied
      have htail : ∃ used printed, Step e [] [] _ t used printed := Frugal.step h
      obtain ⟨used, printed, hstep⟩ := htail
      exact ⟨_, _, hreplace.trans hstep⟩
    · exact .of_frugal inferInstance
  · exact .of_frugal inferInstance
  · exact .of_frugal inferInstance

instance frugal_trailer (left : ExprClass) : Frugal e owed (trailer p left) := by
  unfold trailer; infer_instance

instance frugal_trailers (left : ExprClass) : Frugal e owed (trailers p left) := by
  unfold trailers; infer_instance

/-! ## Block-like expressions -/

instance frugal_ifExpression : Frugal e owed (ifExpression p) := by
  unfold ifExpression; dsimp only; infer_instance

instance frugal_matchArm : Frugal e owed (matchArm p) := by
  unfold matchArm; dsimp only; infer_instance

instance frugal_seesBoundClosure : Frugal e owed seesBoundClosure := by
  unfold seesBoundClosure; infer_instance

instance frugal_forLoop : Frugal e owed (forLoop p) := by
  unfold forLoop; infer_instance

instance frugal_blockLike : Frugal e owed (blockLike p) := by
  unfold blockLike; dsimp only; infer_instance

instance frugal_labelled : Frugal e owed (labelled p) := by
  unfold labelled; infer_instance

/-! ## Atoms -/

instance frugal_closureParameter : Frugal e owed (closureParameter p) := by
  unfold closureParameter
  dsimp only
  refine .of_nil (.bind_captured inferInstance fun _ attributes => ?_)
  rw [List.nil_append]
  exact .bind_captured inferInstance fun _ _ => inferInstance

instance frugal_closure (structs : Bool) : Frugal e owed (closure p structs) := by
  unfold closure; infer_instance

instance frugal_seesClosure : Frugal e owed seesClosure := by
  unfold seesClosure; infer_instance

instance frugal_fieldValues : Frugal e owed (fieldValues p) := by
  unfold fieldValues; dsimp only; infer_instance

instance frugal_pathExpression (structs : Bool) : Frugal e owed (pathExpression p structs) := by
  unfold pathExpression; dsimp only; infer_instance

instance frugal_elements : Frugal e owed (elements p) := by
  unfold elements; dsimp only; infer_instance

instance frugal_beginsExpression : Frugal e owed beginsExpression := by
  unfold beginsExpression; dsimp only; infer_instance

instance frugal_optionalValue : Frugal e owed (optionalValue p) := by
  unfold optionalValue; infer_instance

instance frugal_breakTail (structs : Bool) : Frugal e owed (breakTail p structs) := by
  unfold breakTail; dsimp only; infer_instance

instance frugal_letCondition (structs : Bool) : Frugal e owed (letCondition p structs) := by
  unfold letCondition; infer_instance

instance frugal_seesAsyncBlock : Frugal e owed seesAsyncBlock := by
  unfold seesAsyncBlock; infer_instance

instance frugal_seesPath : Frugal e owed seesPath := by
  unfold seesPath; infer_instance

instance frugal_keywordAtom (structs : Bool) : Frugal e owed (keywordAtom p structs) := by
  unfold keywordAtom; dsimp only; infer_instance

instance frugal_atom (structs : Bool) : Frugal e owed (atom p structs) := by
  unfold atom; infer_instance

instance frugal_unary (structs : Bool) : Frugal e owed (unary p structs) := by
  unfold unary; dsimp only; infer_instance

instance frugal_statementExpression : Frugal e owed (statementExpression p) := by
  unfold statementExpression
  dsimp only
  refine .of_nil (.bind_captured inferInstance fun _ attributes => ?_)
  rw [List.nil_append]
  exact .bind_captured inferInstance fun _ _ => inferInstance

end PegCheck.Host.Phrase
