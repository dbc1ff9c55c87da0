import PegCheck.Proofs.Host.Phrase.Expressions
import PegCheck.Host.Phrase.Item

/-!
# Items may end with a semicolon

An item is a phrase that may end with a semicolon. Some kinds of item never do, some always, and
with others it stands for a missing part. Inside of blocks and modules an item is part of a
sequence.

* `frugal_signature`, `frugal_implementation`: parts of items, and items that end with a group.
* **`closes_itemAfterAttributes`**: every item.
-/

-- A reader with many parts is frugal by as many instances.
set_option synthInstance.maxSize 1000000000

namespace PegCheck.Host.Phrase

open Reader

variable {α : Type} {e : Extent} {owed : List Tree} (p : Phrases) [hp : p.AreFrugal]

/-! ## Functions -/

instance frugal_receiver : Frugal e owed (receiver p) := by
  unfold receiver; dsimp only; infer_instance

instance frugal_receiverPlace : Frugal e owed receiverPlace := by
  unfold receiverPlace; infer_instance

instance frugal_functionArgument : Frugal e owed (functionArgument p) := by
  unfold functionArgument
  have (start : Place) : Frugal e [] (write [.ident "_" start, .punct ':' false start]) :=
    (supplies_write fun μ => by
      rw [Weight.trees_cons, Weight.trees_cons, Weight.tree_ident, Weight.tree_punct, μ.underscore,
        μ.supplied ':' (by decide), Weight.trees_nil]).frugal
  infer_instance

instance frugal_functionArguments : Frugal e owed (functionArguments p) := by
  unfold functionArguments
  dsimp only
  refine @frugal_discard _ _ _ _ (@frugal_iterate _ _ _ _ _ fun state => ?_)
  refine .bind inferInstance fun isEnd => ?_
  split
  · infer_instance
  · refine .bind inferInstance fun _ => .bind inferInstance fun isVariadic => ?_
    split
    · infer_instance
    · refine .bind inferInstance fun class_ => ?_
      cases class_ <;> infer_instance

instance frugal_signature (allowSafe : Bool) : Frugal e owed (signature p allowSafe) := by
  unfold signature; dsimp only; infer_instance

instance frugal_seesSignature (allowSafe : Bool) : Frugal e owed (seesSignature allowSafe) := by
  unfold seesSignature; infer_instance

instance closes_function : Closes owed (function p) := by
  unfold function; infer_instance

/-! ## Fields and declarations of data -/

instance frugal_seesFieldsType : Frugal e owed seesFieldsType := by
  unfold seesFieldsType; infer_instance

instance frugal_namedField : Frugal e owed (namedField p) := by
  unfold namedField; dsimp only; infer_instance

instance frugal_namedFields : Frugal e owed (namedFields p) := by
  unfold namedFields; infer_instance

instance frugal_unnamedFields : Frugal e owed (unnamedFields p) := by
  unfold unnamedFields; infer_instance

instance closes_structFields : Closes owed (structFields p) := by
  unfold structFields; infer_instance

instance closes_structItem : Closes owed (structItem p) := by
  unfold structItem; infer_instance

instance frugal_variant : Frugal e owed (variant p) := by
  unfold variant; dsimp only; infer_instance

instance frugal_enumItem : Frugal e owed (enumItem p) := by
  unfold enumItem; infer_instance

instance frugal_unionItem : Frugal e owed (unionItem p) := by
  unfold unionItem; infer_instance

/-! ## Constants and types -/

instance frugal_constantName : Frugal e owed constantName := by
  unfold constantName; infer_instance

instance closes_constantTail : Closes owed (constantTail p) := by
  unfold constantTail; dsimp only; infer_instance

instance closes_constant : Closes owed (constant p) := by
  unfold constant; infer_instance

instance closes_static : Closes owed (static p) := by
  unfold static; infer_instance

instance frugal_bounds (stop : Reader Bool) [Frugal e [] stop] : Frugal e owed (bounds p stop) := by
  unfold bounds; infer_instance

instance closes_typeAlias (allowDefault : Bool) (conditions : ConditionPlace) :
    Closes owed (typeAlias p allowDefault conditions) := by
  unfold typeAlias; dsimp only; infer_instance

instance closes_typeItem : Closes owed (typeItem p) := by
  unfold typeItem; infer_instance

/-! ## Modules, imports and macros -/

instance closes_macroItem (allowName : Bool) : Closes owed (macroItem allowName) := by
  unfold macroItem; dsimp only; infer_instance

instance frugal_macroDefinition : Frugal e owed macroDefinition := by
  unfold macroDefinition; infer_instance

instance closes_moduleItem : Closes owed (moduleItem p) := by
  unfold moduleItem; dsimp only; infer_instance

instance closes_externalLibrary : Closes owed externalLibrary := by
  unfold externalLibrary; dsimp only; infer_instance

instance frugal_importGroup (allowRoot : Bool) : Frugal e owed (importGroup p allowRoot) := by
  unfold importGroup; dsimp only; infer_instance

instance frugal_importTree (allowRoot : Bool) : Frugal e owed (importTree p allowRoot) := by
  unfold importTree; dsimp only; infer_instance

instance closes_importItem : Closes owed (importItem p) := by
  unfold importItem; infer_instance

/-! ## Foreign items -/

instance closes_foreignStatic : Closes owed (foreignStatic p) := by
  unfold foreignStatic; dsimp only; infer_instance

instance closes_foreignFunction : Closes owed (foreignFunction p) := by
  unfold foreignFunction; infer_instance

instance frugal_afterVisibility : Frugal e owed afterVisibility := by
  unfold afterVisibility; infer_instance

instance frugal_refuseAfterVisibility (xs : List Expected) :
    Frugal e owed (refuseAfterVisibility xs : Reader α) := by
  unfold refuseAfterVisibility; infer_instance

instance frugal_seesFunction (allowSafe : Bool) : Frugal e owed (seesFunction allowSafe) := by
  unfold seesFunction; infer_instance

instance closes_foreignItem : Closes owed (foreignItem p) := by
  unfold foreignItem; dsimp only; infer_instance

instance frugal_foreignItem : Frugal .sequence owed (foreignItem p) := Closes.frugal inferInstance

instance frugal_foreignBlock : Frugal e owed (foreignBlock p) := by
  unfold foreignBlock; infer_instance

/-! ## Traits -/

instance closes_traitMethod : Closes owed (traitMethod p) := by
  unfold traitMethod; infer_instance

instance closes_traitPart : Closes owed (traitPart p) := by
  unfold traitPart; dsimp only; infer_instance

instance frugal_traitPart : Frugal .sequence owed (traitPart p) := Closes.frugal inferInstance

instance frugal_traitTail : Frugal e owed (traitTail p) := by
  unfold traitTail; dsimp only; infer_instance

instance frugal_markedTrait : Frugal e owed (markedTrait p) := by
  unfold markedTrait; infer_instance

instance closes_traitItem : Closes owed (traitItem p) := by
  unfold traitItem; dsimp only; infer_instance

/-! ## Implementations -/

instance closes_method : Closes owed (method p) := by
  unfold method; infer_instance

instance frugal_afterMarks : Frugal e owed afterMarks := by
  unfold afterMarks; dsimp only; infer_instance

instance closes_implementationPart : Closes owed (implementationPart p) := by
  unfold implementationPart; dsimp only; infer_instance

instance frugal_implementationPart : Frugal .sequence owed (implementationPart p) :=
  Closes.frugal inferInstance

instance frugal_implementation : Frugal e owed (implementation p) := by
  unfold implementation; dsimp only; infer_instance

/-! ## Items -/

instance closes_plainly (r : Reader Unit) [Closes owed r] : Closes owed (plainly r) := by
  unfold plainly; infer_instance

instance closes_externItem (rest : List Tree) : Closes owed (externItem p rest) := by
  unfold externItem; infer_instance

instance closes_unsafeItem (rest : List Tree) : Closes owed (unsafeItem p rest) := by
  unfold unsafeItem; dsimp only; infer_instance

/-- **Every item** is a phrase that may end with a semicolon. -/
instance closes_itemAfterAttributes : Closes owed (itemAfterAttributes p) := by
  unfold itemAfterAttributes; dsimp only; infer_instance

instance closes_item : Closes owed (item p) := by
  unfold item; infer_instance

end PegCheck.Host.Phrase
