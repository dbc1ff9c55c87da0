import PegCheck.Proofs.Host.Closing
import PegCheck.Host.Phrase.TypeExpr

/-!
# Paths and types are frugal

The readers of attributes, blocks, paths, bounds, types and parameters write no more than they use
up, if the readers of the phrases inside of them do. Most of them are made of frugal readers only. A
few keep what is written for later: generic arguments are written in another order than they are
read, and the statements of a block are written when all of them have been read.

* `Phrases.AreFrugal`: what is asked of the readers that all others are given.
* `balances_arguments`, `trees_arrange_le`: arguments in angle brackets are written in another
  order, with one more comma perhaps.
* `frugal_typeExpr`: types.
-/

-- A reader with many parts is frugal by as many instances.
set_option synthInstance.maxSize 1000000000

namespace PegCheck.Host

open Reader

/-- The readers of the phrases that can contain themselves are frugal. -/
class Phrases.AreFrugal (p : Phrases) : Prop where
  expression : ∀ structs, Frugal .phrase [] (p.expression structs)
  unary : ∀ structs, Frugal .phrase [] (p.unary structs)
  climb : ∀ structs base left, Frugal .phrase [] (p.climb structs base left)
  statementExpression : Frugal .phrase [] p.statementExpression
  type : ∀ allowSum, Frugal .phrase [] (p.type allowSum)
  bound : ∀ allowCapture allowConst, Frugal .phrase [] (p.bound allowCapture allowConst)
  pattern : Frugal .phrase [] p.pattern
  statements : Balances .sequence [] p.statements fun statements => statements.flatMap (·.trees)
  item : Frugal .sequence [] p.item
  namedFields : Frugal .phrase [] p.namedFields
  importTree : ∀ allowRoot, Frugal .phrase [] (p.importTree allowRoot)

namespace Phrase

variable {β : Type} {e : Extent} {owed : List Tree} (p : Phrases) [hp : p.AreFrugal]

section Given

instance frugal_givenExpression (structs : Bool) : Frugal e owed (p.expression structs) :=
  .of_phrase (hp.expression structs)

instance frugal_givenUnary (structs : Bool) : Frugal e owed (p.unary structs) :=
  .of_phrase (hp.unary structs)

instance frugal_givenClimb (structs : Bool) (base : Precedence) (left : ExprClass) :
    Frugal e owed (p.climb structs base left) :=
  .of_phrase (hp.climb structs base left)

instance frugal_givenStatementExpression : Frugal e owed p.statementExpression :=
  .of_phrase hp.statementExpression

instance frugal_givenType (allowSum : Bool) : Frugal e owed (p.type allowSum) :=
  .of_phrase (hp.type allowSum)

instance frugal_givenBound (allowCapture allowConst : Bool) :
    Frugal e owed (p.bound allowCapture allowConst) :=
  .of_phrase (hp.bound allowCapture allowConst)

instance frugal_givenPattern : Frugal e owed p.pattern := .of_phrase hp.pattern

instance frugal_givenItem : Frugal .sequence owed p.item := .of_nil hp.item

instance frugal_givenNamedFields : Frugal e owed p.namedFields := .of_phrase hp.namedFields

instance frugal_givenImportTree (allowRoot : Bool) : Frugal e owed (p.importTree allowRoot) :=
  .of_phrase (hp.importTree allowRoot)

end Given

/-! ## Paths without arguments, attributes and visibility -/

instance frugal_plainPath : Frugal e owed plainPath := by
  unfold plainPath; dsimp only; infer_instance

instance frugal_attributeContent : Frugal e owed (attributeContent p) := by
  unfold attributeContent; dsimp only; infer_instance

instance frugal_outerAttributes : Frugal e owed (outerAttributes p) := by
  unfold outerAttributes; infer_instance

instance frugal_innerAttributes : Frugal e owed (innerAttributes p) := by
  unfold innerAttributes; infer_instance

instance frugal_visibility : Frugal e owed visibility := by
  unfold visibility
  dsimp only
  refine .bind inferInstance fun isPublic => ?_
  split
  · refine .bind inferInstance fun trees => ?_
    split <;> infer_instance
  · infer_instance

instance frugal_macroArguments : Frugal e owed macroArguments := by
  unfold macroArguments; infer_instance

/-! ## Blocks -/

instance frugal_content : Frugal .sequence owed (content p) := by
  unfold content
  exact .of_nil ⟨hp.statements.bind fun _ => frugal_write.balances⟩

instance frugal_block : Frugal e owed (block p) := by
  unfold block; infer_instance

instance frugal_body : Frugal e owed (body p) := by
  unfold body; infer_instance

/-! ## Arguments in angle brackets -/

/-- **Arranged arguments** are the same trees in another order. A comma that is put after the last
lifetime weighs nothing. -/
theorem trees_arrange (μ : Weight) (read : List Argument) :
    μ.trees (Argument.arrange read) = μ.trees (read.flatMap (·.trees)) := by
  have hcomma : μ.tree (.punct ',' false .origin) = 0 := μ.supplied ',' (by decide)
  unfold Argument.arrange
  rw [List.partition_eq_filter_filter]
  dsimp only
  rw [Weight.trees_append, Weight.trees_append]
  have hsupplied (c : Prop) [Decidable c] :
      μ.trees (if c then [.punct ',' false .origin] else []) = 0 := by
    split
    · rw [Weight.trees_cons, hcomma, Weight.trees_nil]
    · rfl
  rw [hsupplied, Nat.add_zero, ← Weight.trees_append, ← List.flatMap_append]
  exact μ.trees_perm ((List.filter_append_perm (·.isLifetime) read).flatMap_right _)

/-- Arguments hand over the trees of all of them. -/
theorem balances_arguments {element : Reader Bool} {comma : Reader Unit} [Frugal e [] element]
    [Frugal e [] comma] :
    Balances e [] (arguments element comma) fun read => read.flatMap (·.trees) := by
  let held (read : List Argument) := read.flatMap (·.trees)
  have hreverse (read : List Argument) (μ : Weight) :
      μ.trees (held read.reverse) = μ.trees (held read) :=
    μ.trees_perm (read.reverse_perm.flatMap_right _)
  unfold arguments
  dsimp only
  refine .bind (?_ : Balances e (held []) _ held) fun read => ?_
  · refine .iterate (fun read => ?_) []
    refine .bind (Frugal.passes inferInstance) fun isEnd => ?_
    split
    · exact .pure (fun a' => held (a'.getD read)) none
    · -- The trees of the next argument join those that are held already.
      refine .bind (?_ : Balances e (held read) _ fun x => x.2 ++ held read) fun x => ?_
      · refine (inferInstance : Frugal e [] _).balances.captured.weaken fun x μ => ?_
        rw [Weight.trees_append, Weight.trees_nil, Nat.add_zero]
      · exact .pure (fun a' => held (a'.getD read)) (some (⟨x.1.1, x.2, x.1.2⟩ :: read))
  · exact (Balances.pure held read.reverse).weaken fun a μ => by rw [hreverse]

instance frugal_arguments_bind {element : Reader Bool} {comma : Reader Unit}
    {k : List Argument → Reader β} [Frugal e [] element] [Frugal e [] comma]
    [hk : ∀ read : List Argument, Frugal e (read.flatMap (·.trees)) (k read)] :
    Frugal e owed (arguments element comma >>= k) :=
  .of_nil ⟨balances_arguments.bind fun read => (hk read).balances⟩

instance frugal_write_arrange (read : List Argument) :
    Frugal e (read.flatMap (·.trees)) (write (Argument.arrange read)) :=
  frugal_write_of fun μ => (trees_arrange μ read).le

/-! ## Generic arguments and paths -/

instance frugal_constantArgument : Frugal e owed (constantArgument p) := by
  unfold constantArgument; infer_instance

instance frugal_genericArgument : Frugal e owed (genericArgument p) := by
  unfold genericArgument
  dsimp only
  refine .bind inferInstance fun _ => .bind inferInstance fun _ => ?_
  split
  · infer_instance
  · refine .bind inferInstance fun isConstant => ?_
    split
    · infer_instance
    · refine .bind inferInstance fun class_ => ?_
      cases class_ <;> infer_instance

instance frugal_genericArguments : Frugal e owed (genericArguments p) := by
  unfold genericArguments; infer_instance

instance frugal_resultType (allowSum : Bool) : Frugal e owed (resultType p allowSum) := by
  unfold resultType; infer_instance

instance frugal_seesParenthesizedArguments : Frugal e owed seesParenthesizedArguments := by
  unfold seesParenthesizedArguments; infer_instance

instance frugal_parenthesizedArguments : Frugal e owed (parenthesizedArguments p) := by
  unfold parenthesizedArguments; infer_instance

instance frugal_segment (inExpression : Bool) : Frugal e owed (segment p inExpression) := by
  unfold segment; dsimp only; infer_instance

instance frugal_moreSegments (inExpression : Bool) (shape : PathShape) :
    Frugal e owed (moreSegments p inExpression shape) := by
  unfold moreSegments; infer_instance

instance frugal_path (inExpression : Bool) : Frugal e owed (path p inExpression) := by
  unfold path; infer_instance

instance frugal_qualifiedSegments (inExpression : Bool) :
    Frugal e owed (qualifiedSegments p inExpression) := by
  unfold qualifiedSegments; infer_instance

instance frugal_qualifiedPath (inExpression : Bool) :
    Frugal e owed (qualifiedPath p inExpression) := by
  unfold qualifiedPath; dsimp only; infer_instance

/-! ## Bounds -/

instance frugal_lifetimeBounds (stop : Reader Bool) [Frugal e [] stop] :
    Frugal e owed (lifetimeBounds stop) := by
  unfold lifetimeBounds; infer_instance

instance frugal_lifetimeParameter : Frugal e owed lifetimeParameter := by
  unfold lifetimeParameter; infer_instance

instance frugal_boundLifetimes : Frugal e owed (boundLifetimes p) := by
  unfold boundLifetimes; infer_instance

instance frugal_capturedName : Frugal e owed capturedName := by
  unfold capturedName; dsimp only; infer_instance

instance frugal_captures : Frugal e owed captures := by
  unfold captures; infer_instance

instance frugal_constantMark (allowConst : Bool) : Frugal e owed (constantMark allowConst) := by
  unfold constantMark; dsimp only; infer_instance

instance frugal_traitBound (allowConst : Bool) : Frugal e owed (traitBound p allowConst) := by
  unfold traitBound; dsimp only; infer_instance

instance frugal_bound (allowCapture allowConst : Bool) :
    Frugal e owed (bound p allowCapture allowConst) := by
  unfold bound; dsimp only; infer_instance

instance frugal_beginsBound (allowConst : Bool) : Frugal e owed (beginsBound allowConst) := by
  unfold beginsBound; infer_instance

instance frugal_boundSum (allowSum allowCapture allowConst : Bool) :
    Frugal e owed (boundSum p allowSum allowCapture allowConst) := by
  unfold boundSum; infer_instance

instance frugal_addedBounds : Frugal e owed (addedBounds p) := by
  unfold addedBounds; infer_instance

/-! ## Functions -/

instance frugal_callingConvention : Frugal e owed callingConvention := by
  unfold callingConvention; infer_instance

instance frugal_variadicArgument : Frugal e owed variadicArgument := by
  unfold variadicArgument; dsimp only; infer_instance

instance frugal_seesVariadic : Frugal e owed seesVariadic := by
  unfold seesVariadic; infer_instance

instance frugal_seesColonSecond : Frugal e owed seesColonSecond := by
  unfold seesColonSecond; infer_instance

instance frugal_argumentName (allowSelf : Bool) : Frugal e owed (argumentName allowSelf) := by
  unfold argumentName; infer_instance

instance frugal_seesChangedSelf : Frugal e owed seesChangedSelf := by
  unfold seesChangedSelf; infer_instance

instance frugal_bareArgument (allowSelf : Bool) : Frugal e owed (bareArgument p allowSelf) := by
  unfold bareArgument; dsimp only; infer_instance

instance frugal_bareArguments : Frugal e owed (bareArguments p) := by
  unfold bareArguments; infer_instance

instance frugal_bareFunction : Frugal e owed (bareFunction p) := by
  unfold bareFunction; infer_instance

/-! ## The kinds of type -/

instance frugal_objectBounds (start : Place) (allowSum : Bool) :
    Frugal e owed (objectBounds p start allowSum) := by
  unfold objectBounds; infer_instance

instance frugal_parenthesizedContent : Frugal e owed (parenthesizedContent p) := by
  unfold parenthesizedContent; infer_instance

/-- Without its delimiters a group weighs no more. -/
theorem trees_mergeDelimiters_le (μ : Weight) (trees : List Tree) :
    μ.trees (mergeDelimiters trees) ≤ μ.trees trees := by
  unfold mergeDelimiters
  split
  · simp only [Weight.trees_cons, Weight.trees_nil, Weight.tree_group]
    split <;> omega
  · exact Nat.le_refl _

instance frugal_write_mergeDelimiters (trees : List Tree) :
    Frugal e trees (write (mergeDelimiters trees)) :=
  frugal_write_of fun μ => trees_mergeDelimiters_le μ trees

instance frugal_afterParentheses (allowSum : Bool) (trees : List Tree) (content : Parenthesized) :
    Frugal e trees (afterParentheses p allowSum trees content) := by
  cases content <;> unfold afterParentheses <;> infer_instance

instance frugal_parenthesizedType (allowSum : Bool) :
    Frugal e owed (parenthesizedType p allowSum) := by
  unfold parenthesizedType
  refine .of_nil (.bind_captured inferInstance fun content trees => ?_)
  rw [List.nil_append]
  infer_instance

instance frugal_typePathStep (shape : PathShape) : Frugal e owed (typePathStep p shape) := by
  unfold typePathStep
  dsimp only
  split
  · infer_instance
  · refine .bind inferInstance fun goesOn => ?_
    cases goesOn <;> infer_instance

instance frugal_typePath : Frugal e owed (typePath p) := by
  unfold typePath; infer_instance

/-- The lifetimes before the path are still to be written. -/
instance frugal_pathType (allowSum : Bool) (lifetimes : List Tree) :
    Frugal e lifetimes (pathType p allowSum lifetimes) := by
  unfold pathType
  dsimp only
  refine .bind_captured inferInstance fun path trees => ?_
  infer_instance

instance frugal_bracketType : Frugal e owed (bracketType p) := by
  unfold bracketType; infer_instance

instance frugal_objectType (allowSum : Bool) : Frugal e owed (objectType p allowSum) := by
  unfold objectType; infer_instance

instance frugal_implementationType (allowSum : Bool) :
    Frugal e owed (implementationType p allowSum) := by
  unfold implementationType; infer_instance

instance frugal_pointerType : Frugal e owed (pointerType p) := by
  unfold pointerType; dsimp only; infer_instance

instance frugal_referenceType : Frugal e owed (referenceType p) := by
  unfold referenceType; infer_instance

instance frugal_typeExpr (allowSum : Bool) : Frugal e owed (typeExpr p allowSum) := by
  unfold typeExpr; dsimp only; infer_instance

/-! ## Parameters and conditions -/

instance frugal_colonBounds (stop : Reader Bool) [Frugal e [] stop] :
    Frugal e owed (colonBounds p stop) := by
  unfold colonBounds; infer_instance

instance frugal_typeParameter : Frugal e owed (typeParameter p) := by
  unfold typeParameter; infer_instance

instance frugal_constantParameter : Frugal e owed (constantParameter p) := by
  unfold constantParameter; infer_instance

instance frugal_parameter : Frugal e owed (parameter p) := by
  unfold parameter; dsimp only; infer_instance

instance frugal_generics : Frugal e owed (generics p) := by
  unfold generics; dsimp only; infer_instance

instance frugal_seesGenerics : Frugal e owed seesGenerics := by
  unfold seesGenerics; dsimp only; infer_instance

instance frugal_endsCondition : Frugal e owed endsCondition := by
  unfold endsCondition; infer_instance

instance frugal_condition : Frugal e owed (condition p) := by
  unfold condition; infer_instance

instance frugal_whereClause : Frugal e owed (whereClause p) := by
  unfold whereClause; dsimp only; infer_instance

end Phrase

end PegCheck.Host
