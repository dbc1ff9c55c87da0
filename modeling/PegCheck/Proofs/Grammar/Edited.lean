import PegCheck.Proofs.Grammar.RoundTrip
import PegCheck.Proofs.Grammar.Tagged
import Mathlib.Logic.Relation

/-!
# Edited grammars are read as before

Declarations and whole grammars are records, too, so with their parts settled no edit of a grammar
is seen, and neither is any number of edits, one after the other and all over the grammar.

* `Declaration.keeps`, `Grammar.keeps`: one edit.
* **`Grammar.shape_edited`**: any number of edits.
-/

namespace PegCheck

open Json (Edit)
open Shape (Keeps Slot Step)

namespace Declaration

/-- The slot of the code of a declaration. -/
def codeSlot (m : Manner) : Slot Draft :=
  .edited "code" (·.code) (fun d x => { d with code := x }) (CodeBlock.keeps_nullable m)

/-- The slots of a declaration. -/
def slots (m : Manner) : List (Slot Draft) :=
  [.plain "name" (·.name) (fun d x => { d with name := x }) (Shape.text m),
   .edited "index" (·.index) (fun d x => { d with index := x }) (Position.keeps m),
   .edited "expr" (·.expr) (fun d x => { d with expr := x }) (Expr.keeps m),
   codeSlot m]

theorem hasSlots (m : Manner) : record.HasSlots {} m (slots m) ["code"] := by
  refine Shape.Record.hasSlots_of_ignore rfl (by decide) ?_ ?_ (fun key hkey d v => ?_) ?_
  · simp only [slots, List.pairwise_cons, List.forall_mem_cons, List.not_mem_nil, false_implies,
      implies_true, and_true, List.Pairwise.nil]
    refine ⟨⟨?_, ?_, ?_⟩, ⟨?_, ?_⟩, ?_⟩ <;> constructor <;> intros <;> rfl
  · simp only [slots, List.forall_mem_cons, List.not_mem_nil, false_implies, implies_true, and_true]
    exact ⟨⟨rfl, fun _ _ => rfl⟩, ⟨rfl, fun _ _ => rfl⟩, ⟨rfl, fun _ _ => rfl⟩,
      ⟨rfl, fun _ _ => rfl⟩⟩
  · simp only [record] at hkey ⊢
    split <;> simp_all
  · refine List.forall_mem_singleton.mpr
      ⟨by simp [record], codeSlot m, by simp [slots], rfl, none, rfl, ?_⟩
    rintro ⟨name, index, expr, _⟩ rfl
    rfl

theorem keeps (m : Manner) : Keeps (shape m) edit := (hasSlots m).keeps

end Declaration

namespace Grammar

/-- The slot of the header of a grammar. -/
def codeSlot (m : Manner) : Slot Draft :=
  .edited "code" (·.code) (fun d x => { d with code := x }) (CodeBlock.keeps_nullable m)

/-- The slot of the symbol table of a grammar. -/
def analysisSlot (m : Manner) : Slot Draft :=
  .edited "analysis" (·.analysis) (fun d x => { d with analysis := x })
    (Shape.keeps_nullable (SymbolTable.keeps m) Edit.ne_null_of_record)

/-- The slots of a grammar. -/
def slots (m : Manner) : List (Slot Draft) :=
  [.edited "declarations" (·.declarations) (fun d x => { d with declarations := x })
     (Shape.keeps_list (Declaration.keeps m)),
   codeSlot m, analysisSlot m]

theorem hasSlots (m : Manner) : record.HasSlots {} m (slots m) ["code", "analysis"] := by
  refine Shape.Record.hasSlots_of_ignore rfl (by decide) ?_ ?_ (fun key hkey d v => ?_) ?_
  · simp only [slots, List.pairwise_cons, List.forall_mem_cons, List.not_mem_nil, false_implies,
      implies_true, and_true, List.Pairwise.nil]
    refine ⟨⟨?_, ?_⟩, ?_⟩ <;> constructor <;> intros <;> rfl
  · simp only [slots, List.forall_mem_cons, List.not_mem_nil, false_implies, implies_true, and_true]
    exact ⟨⟨rfl, fun _ _ => rfl⟩, ⟨rfl, fun _ _ => rfl⟩, ⟨rfl, fun _ _ => rfl⟩⟩
  · simp only [record] at hkey ⊢
    split <;> simp_all
  · refine List.forall_mem_cons.mpr
      ⟨⟨by simp [record], codeSlot m, by simp [slots], rfl, none, rfl, ?_⟩,
      List.forall_mem_singleton.mpr
        ⟨by simp [record], analysisSlot m, by simp [slots], rfl, none, rfl, ?_⟩⟩
    · rintro ⟨declarations, _, analysis⟩ rfl
      rfl
    · rintro ⟨declarations, code, _⟩ rfl
      rfl

theorem keeps (m : Manner) : Keeps (shape m) edit := (hasSlots m).keeps

/-- **Edits are not seen.** A value that reads as a grammar still reads as the same one after any
number of edits, at any depth. -/
theorem shape_edited {m : Manner} {v w : Json} {g : Grammar} (hread : shape m v = .ok g)
    (hedits : Relation.ReflTransGen edit v w) : shape m w = .ok g := by
  induction hedits with
  | refl => exact hread
  | tail _ hedit ih => exact keeps m _ _ hedit g ih

/-- A grammar of one rule: its expression, and further fields of the grammar. -/
def oneRule (expr : Json) (more : List (String × Json)) : Json :=
  .object (("declarations", .array [.object
    [("name", .text "start"), ("index", .array [.integer 1, .integer 1]), ("expr", expr)]]) :: more)

/-- A field with a reference, whose position is as given. -/
def referenceField (index : Json) : String × Json :=
  ("expr", .object [("type", .text "nonterminal"), ("name", .text "start"), ("index", index)])

/-- A primary around a reference as it is usually written … -/
def primaryWritten : Json :=
  .object [("type", .text "primary"),
    referenceField (.object [("line", .integer 1), ("column", .integer 10)])]

/-- … and with its tag at the end, a modifier that is null, and a name that no one asks for. -/
def primaryEdited : Json :=
  .object [referenceField (.array [.integer 1, .integer 10]), ("name", .text "start"),
    ("modifier", .null), ("type", .text "primary")]

theorem edits_primary : Relation.ReflTransGen Expr.edit primaryWritten primaryEdited := by
  have hreference : Expr.editUpTo 1 _ _ :=
    ⟨.nonterminal, .object List.mem_cons_self (.name (by decide)),
      @Edit.record.field _ _ [("type", .text "nonterminal"), ("name", .text "start")] [] "index"
        Position.edit (.object [("line", .integer 1), ("column", .integer 10)])
        (.array [.integer 1, .integer 10]) (by simp [Expr.Tag.edits])
        (.asArray (by simp) (by simp))⟩
  have hexpr : Expr.edit primaryWritten
      (.object [("type", .text "primary"), referenceField (.array [.integer 1, .integer 10])]) :=
    ⟨2, .primary, .object List.mem_cons_self (.name (by decide)),
      @Edit.record.field _ _ [("type", .text "primary")] [] "expr" (Expr.editUpTo 1) _ _
        (by simp [Expr.Tag.edits]) hreference⟩
  have hmodifier : Expr.edit
      (.object [("type", .text "primary"), referenceField (.array [.integer 1, .integer 10])])
      (.object [("type", .text "primary"), referenceField (.array [.integer 1, .integer 10]),
        ("modifier", .null)]) :=
    ⟨1, .primary, .object List.mem_cons_self (.name (by decide)),
      @Edit.record.writeNull _ _ [_, _] [] "modifier" List.mem_cons_self (by simp [referenceField])⟩
  have hname : Expr.edit
      (.object [("type", .text "primary"), referenceField (.array [.integer 1, .integer 10]),
        ("modifier", .null)])
      (.object [("type", .text "primary"), referenceField (.array [.integer 1, .integer 10]),
        ("name", .text "start"), ("modifier", .null)]) :=
    ⟨1, .primary, .object List.mem_cons_self (.name (by decide)),
      .others rfl (by simp [Json.isWellFormed, referenceField]; decide)⟩
  have htype : Expr.edit
      (.object [("type", .text "primary"), referenceField (.array [.integer 1, .integer 10]),
        ("name", .text "start"), ("modifier", .null)])
      primaryEdited :=
    ⟨1, .primary, .object List.mem_cons_self (.name (by decide)),
      .permute (List.perm_append_singleton _ [_, _, _]).symm⟩
  exact (((Relation.ReflTransGen.single hexpr).tail hmodifier).tail hname).tail htype

theorem edit_oneRule {v w : Json} (h : Expr.edit v w) : edit (oneRule v []) (oneRule w []) := by
  have hdeclaration : Declaration.edit _ _ :=
    @Edit.record.field _ _ [("name", .text "start"), ("index", .array [.integer 1, .integer 1])] []
      "expr" Expr.edit v w (by simp) h
  exact @Edit.record.field _ _ [] [] _ _ _ _ List.mem_cons_self
    (@Edit.list.item _ [] [] _ _ hdeclaration)

/-- The grammar that is read. -/
def oneRuleGrammar : Grammar where
  declarations :=
    [{ name := "start", index := ⟨1, 1⟩, expr := .primary (.nonterminal "start" ⟨1, 10⟩) none }]

theorem shape_edited_sample :
    shape .direct (oneRule primaryWritten []) = .ok oneRuleGrammar ∧
      Relation.ReflTransGen edit (oneRule primaryWritten [])
        (oneRule primaryEdited [("analysis", .null)]) ∧
      shape .direct (oneRule primaryEdited [("analysis", .null)]) = .ok oneRuleGrammar := by
  have hread : shape .direct (oneRule primaryWritten []) = .ok oneRuleGrammar := rfl
  have hedits : Relation.ReflTransGen edit (oneRule primaryWritten [])
      (oneRule primaryEdited [("analysis", .null)]) :=
    (edits_primary.lift (oneRule · []) fun _ _ => edit_oneRule).tail
      (@Edit.record.writeNull _ _ [_] [] "analysis" (by simp) (by simp))
  exact ⟨hread, hedits, shape_edited hread hedits⟩

end Grammar

end PegCheck
