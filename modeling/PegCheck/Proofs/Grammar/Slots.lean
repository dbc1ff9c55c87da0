import PegCheck.Proofs.Grammar.Edits
import PegCheck.Proofs.Json.Slots

/-!
# The records of a grammar and their edits

Positions, code blocks, symbol tables and their parts are records whose fields have slots of their
own, so no edit of them is seen by the reader, in whatever manner it reads.

* `Position.hasSlots`, `CodeBlock.hasSlots`, …: the slots.
* `Position.keeps`: the list of line and column reads as the object does.
* `SymbolTable.keeps_references`: in the map of references, positions may be edited.
* `CodeBlock.keeps`, `Rule.keeps`, **`SymbolTable.keeps`**: no edit is seen.
-/

namespace PegCheck

open Json (Edit)
open Shape (Keeps Slot Step)

/-! ## Positions -/

namespace Position

/-- The slots of a position. -/
def slots (m : Manner) : List (Slot Draft) :=
  [.plain "line" (·.line) (fun d x => { d with line := x }) (Shape.count m),
   .plain "column" (·.column) (fun d x => { d with column := x }) (Shape.count m)]

theorem hasSlots (m : Manner) : record.HasSlots {} m (slots m) [] := by
  refine Shape.Record.hasSlots_of_ignore rfl (by decide) ?_ ?_ (fun key hkey d v => ?_) ?_
  · refine List.pairwise_pair.mpr ?_
    constructor <;> intros <;> rfl
  · simp only [slots, List.forall_mem_cons, List.not_mem_nil, false_implies, implies_true, and_true]
    exact ⟨⟨rfl, fun _ _ => rfl⟩, ⟨rfl, fun _ _ => rfl⟩⟩
  · simp only [record] at hkey ⊢
    split <;> simp_all
  · exact fun _ hkey => absurd hkey List.not_mem_nil

theorem keeps (m : Manner) : Keeps (shape m) edit := by
  intro v w hedit p hread
  cases hedit with
  | ofRecord h => exact (hasSlots m).keeps v w h p hread
  | asArray hline hcolumn =>
    have h := (hasSlots m).reads
    obtain ⟨d, hd, hfinish⟩ := Shape.Record.shape_object.mp hread
    obtain ⟨x, hx, hdx⟩ := h.get_all_of_mem List.mem_cons_self hline hd
    obtain ⟨y, hy, hdy⟩ := h.get_all_of_mem (List.mem_cons_of_mem _ List.mem_cons_self) hcolumn hd
    obtain rfl : d = { line := some x, column := some y } := by
      obtain ⟨line, column⟩ := d
      exact congrArg₂ Draft.mk hdx hdy
    refine Shape.Record.shape_array.mpr ⟨Nat.le_refl 2, by simp [record], _, ?_, hfinish⟩
    refine Step.all_cons.mpr ⟨{ line := some x }, ?_, Step.all_cons.mpr ⟨_, ?_, rfl⟩⟩
    · exact (h.step_eq _ List.mem_cons_self _ _).trans (Slot.fill_eq_ok.mpr ⟨rfl, x, hx, rfl⟩)
    · exact (h.step_eq _ (List.mem_cons_of_mem _ List.mem_cons_self) _ _).trans
        (Slot.fill_eq_ok.mpr ⟨rfl, y, hy, rfl⟩)

end Position

/-! ## Code blocks -/

/-- The slots of a form or comment. -/
def pieceSlots {κ : Type} (table : List (String × κ)) (m : Manner) : List (Slot (PieceDraft κ)) :=
  [.plain "kind" (·.kind) (fun d x => { d with kind := x }) (Shape.bareName table m),
   .plain "text" (·.text) (fun d x => { d with text := x }) (Shape.text m),
   .edited "position" (·.position) (fun d x => { d with position := x }) (Position.keeps m)]

theorem piece_hasSlots {κ α : Type} (title : String) (table : List (String × κ))
    (make : κ → String → Position → α) (m : Manner) :
    (pieceRecord title table make).HasSlots {} m (pieceSlots table m) [] := by
  have hnodup : ["kind", "text", "position"].Nodup := by decide
  refine Shape.Record.hasSlots_of_ignore rfl hnodup ?_ ?_ (fun key hkey d v => ?_) ?_
  · simp only [pieceSlots, List.pairwise_cons, List.forall_mem_cons, List.not_mem_nil,
      false_implies, implies_true, and_true, List.Pairwise.nil]
    refine ⟨⟨?_, ?_⟩, ?_⟩ <;> constructor <;> intros <;> rfl
  · simp only [pieceSlots, List.forall_mem_cons, List.not_mem_nil, false_implies, implies_true,
      and_true]
    exact ⟨⟨rfl, fun _ _ => rfl⟩, ⟨rfl, fun _ _ => rfl⟩, ⟨rfl, fun _ _ => rfl⟩⟩
  · simp only [pieceRecord] at hkey ⊢
    split <;> simp_all
  · exact fun _ hkey => absurd hkey List.not_mem_nil

theorem HostForm.keeps (m : Manner) : Keeps (HostForm.shape m) pieceEdit :=
  (piece_hasSlots "struct HostForm" FormKind.table HostForm.mk m).keeps

theorem Comment.keeps (m : Manner) : Keeps (Comment.shape m) pieceEdit :=
  (piece_hasSlots "struct Comment" CommentKind.table Comment.mk m).keeps

namespace CodeAnnotations

/-- The slots of annotations. -/
def slots (m : Manner) : List (Slot Draft) :=
  [.edited "parsed" (·.parsed) (fun d x => { d with parsed := x })
     (Shape.keeps_list (HostForm.keeps m)),
   .edited "comments" (·.comments) (fun d x => { d with comments := x })
     (Shape.keeps_list (Comment.keeps m)),
   .plain "used_args" (·.usedArgs) (fun d x => { d with usedArgs := x }) (Shape.list Shape.text m)]

theorem hasSlots (m : Manner) : record.HasSlots {} m (slots m) [] := by
  refine Shape.Record.hasSlots_of_ignore rfl (by decide) ?_ ?_ (fun key hkey d v => ?_) ?_
  · simp only [slots, List.pairwise_cons, List.forall_mem_cons, List.not_mem_nil, false_implies,
      implies_true, and_true, List.Pairwise.nil]
    refine ⟨⟨?_, ?_⟩, ?_⟩ <;> constructor <;> intros <;> rfl
  · simp only [slots, List.forall_mem_cons, List.not_mem_nil, false_implies, implies_true, and_true]
    exact ⟨⟨rfl, fun _ _ => rfl⟩, ⟨rfl, fun _ _ => rfl⟩, ⟨rfl, fun _ _ => rfl⟩⟩
  · simp only [record] at hkey ⊢
    split <;> simp_all
  · exact fun _ hkey => absurd hkey List.not_mem_nil

theorem keeps (m : Manner) : Keeps (shape m) edit := (hasSlots m).keeps

end CodeAnnotations

namespace CodeBlock

/-- The slot of annotations in a code block. -/
def annotationsSlot (m : Manner) : Slot Draft :=
  .edited "annotations" (·.annotations) (fun d x => { d with annotations := x })
    (Shape.keeps_nullable (CodeAnnotations.keeps m) Edit.ne_null_of_record)

/-- The slots of a code block. -/
def slots (m : Manner) : List (Slot Draft) :=
  [.plain "code" (·.code) (fun d x => { d with code := x }) (Shape.text m),
   .edited "index" (·.index) (fun d x => { d with index := x }) (Position.keeps m),
   .plain "identity" (·.identity) (fun d x => { d with identity := x }) (Shape.flag m),
   annotationsSlot m]

theorem hasSlots (m : Manner) : record.HasSlots {} m (slots m) ["annotations"] := by
  refine Shape.Record.hasSlots_of_ignore rfl (by decide) ?_ ?_ (fun key hkey d v => ?_) ?_
  · simp only [slots, List.pairwise_cons, List.forall_mem_cons, List.not_mem_nil, false_implies,
      implies_true, and_true, List.Pairwise.nil]
    refine ⟨⟨?_, ?_, ?_⟩, ⟨?_, ?_⟩, ?_⟩ <;> constructor <;> intros <;> rfl
  · simp only [slots, List.forall_mem_cons, List.not_mem_nil, false_implies, implies_true, and_true]
    exact ⟨⟨rfl, fun _ _ => rfl⟩, ⟨rfl, fun _ _ => rfl⟩, ⟨rfl, fun _ _ => rfl⟩,
      ⟨rfl, fun _ _ => rfl⟩⟩
  · simp only [record] at hkey ⊢
    split <;> simp_all
  · refine List.forall_mem_singleton.mpr
      ⟨by simp [record], annotationsSlot m, by simp [slots], rfl, none, rfl, ?_⟩
    rintro ⟨code, index, identity, _⟩ rfl
    rfl

theorem keeps (m : Manner) : Keeps (shape m) edit := (hasSlots m).keeps

theorem keeps_nullable (m : Manner) : Keeps (Shape.nullable shape m) edit :=
  Shape.keeps_nullable (keeps m) Edit.ne_null_of_record

end CodeBlock

/-! ## Symbol tables -/

namespace Rule

/-- The slot of the code of a rule. -/
def codeSlot (m : Manner) : Slot Draft :=
  .edited "code" (·.code) (fun d x => { d with code := x }) (CodeBlock.keeps_nullable m)

/-- The slots of a rule. -/
def slots (m : Manner) : List (Slot Draft) :=
  [.plain "name" (·.name) (fun d x => { d with name := x }) (Shape.text m),
   .edited "index" (·.index) (fun d x => { d with index := x }) (Position.keeps m),
   codeSlot m]

theorem hasSlots (m : Manner) : record.HasSlots {} m (slots m) ["code"] := by
  refine Shape.Record.hasSlots_of_ignore rfl (by decide) ?_ ?_ (fun key hkey d v => ?_) ?_
  · simp only [slots, List.pairwise_cons, List.forall_mem_cons, List.not_mem_nil, false_implies,
      implies_true, and_true, List.Pairwise.nil]
    refine ⟨⟨?_, ?_⟩, ?_⟩ <;> constructor <;> intros <;> rfl
  · simp only [slots, List.forall_mem_cons, List.not_mem_nil, false_implies, implies_true, and_true]
    exact ⟨⟨rfl, fun _ _ => rfl⟩, ⟨rfl, fun _ _ => rfl⟩, ⟨rfl, fun _ _ => rfl⟩⟩
  · simp only [record] at hkey ⊢
    split <;> simp_all
  · refine List.forall_mem_singleton.mpr
      ⟨by simp [record], codeSlot m, by simp [slots], rfl, none, rfl, ?_⟩
    rintro ⟨name, index, _⟩ rfl
    rfl

theorem keeps (m : Manner) : Keeps (shape m) edit := (hasSlots m).keeps

end Rule

namespace SymbolTable

/-- Reads one of the references. -/
def referenceField (m : Manner) : Step (List ReferenceGroup) := fun groups name v => do
  return setGroup ⟨name, ← Shape.list Position.shape m v⟩ groups

theorem referencesShape_object {m : Manner} {fields : List (String × Json)} :
    referencesShape m (.object fields) = Step.all (referenceField m) [] fields := rfl

theorem keeps_references (m : Manner) :
    Keeps (referencesShape m) (.values (.list Position.edit)) := by
  rintro _ _ ⟨hvalue⟩ groups hread
  rw [referencesShape_object] at hread ⊢
  -- A group is put in its place by its name, whatever its positions are.
  refine Step.all_exchange (fun gs gs' hgs => ?_) hread
  obtain ⟨positions, hpositions, hset⟩ := Shape.bind_eq_ok.mp hgs
  exact Shape.bind_eq_ok.mpr
    ⟨positions, Shape.keeps_list (Position.keeps m) _ _ hvalue positions hpositions, hset⟩

/-- The slots of a table. -/
def slots (m : Manner) : List (Slot Draft) :=
  [.edited "rules" (·.rules) (fun d x => { d with rules := x }) (Shape.keeps_list (Rule.keeps m)),
   .edited "nts" (·.references) (fun d x => { d with references := x }) (keeps_references m),
   .plain "combinators" (·.combinators) (fun d x => { d with combinators := x })
     (Shape.list (Shape.bareName Combinator.table) m)]

theorem hasSlots (m : Manner) : record.HasSlots {} m (slots m) [] := by
  refine Shape.Record.hasSlots_of_ignore rfl (by decide) ?_ ?_ (fun key hkey d v => ?_) ?_
  · simp only [slots, List.pairwise_cons, List.forall_mem_cons, List.not_mem_nil, false_implies,
      implies_true, and_true, List.Pairwise.nil]
    refine ⟨⟨?_, ?_⟩, ?_⟩ <;> constructor <;> intros <;> rfl
  · simp only [slots, List.forall_mem_cons, List.not_mem_nil, false_implies, implies_true, and_true]
    exact ⟨⟨rfl, fun _ _ => rfl⟩, ⟨rfl, fun _ _ => rfl⟩, ⟨rfl, fun _ _ => rfl⟩⟩
  · simp only [record] at hkey ⊢
    split <;> simp_all
  · exact fun _ hkey => absurd hkey List.not_mem_nil

theorem keeps (m : Manner) : Keeps (shape m) edit := (hasSlots m).keeps

end SymbolTable

end PegCheck
