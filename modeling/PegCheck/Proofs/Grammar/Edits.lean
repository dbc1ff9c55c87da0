import PegCheck.Grammar.Codec
import PegCheck.Proofs.Json.Edits

/-!
# Other ways to write a grammar

Every type of the grammar has its edits, which lead from one way to write a value to another: fields
in another order, fields that no one asks for, an absent optional field as null, and a position as
the list of its line and column.

* `Position.edit`, `CodeBlock.edit`, `SymbolTable.edit`, `Declaration.edit`: one edit of a value or
  of one of its parts.
* `Expr.edit`: the same for an expression, whose known fields depend on its tag.
* **`Grammar.edit`**: one edit of a grammar, at any depth.
* `Position.edit_keepsForm`, `Expr.editUpTo_keepsForm`: no edit makes a malformed leaf.
-/

namespace PegCheck

open Json (Edit)

/-! ## Positions and code blocks -/

/-- One edit of a position. The list of line and column may take the place of the object. -/
inductive Position.edit : Edit
  | ofRecord {v w : Json} (h : Edit.record [("line", .none), ("column", .none)] [] v w) : edit v w
  | asArray {fields : List (String × Json)} {line column : Json} (hline : ("line", line) ∈ fields)
    (hcolumn : ("column", column) ∈ fields) : edit (.object fields) (.array [line, column])

/-- One edit of a form or comment. -/
def pieceEdit : Edit := .record [("kind", .none), ("text", .none), ("position", Position.edit)] []

/-- One edit of annotations. -/
def CodeAnnotations.edit : Edit :=
  .record [("parsed", .list pieceEdit), ("comments", .list pieceEdit), ("used_args", .none)] []

/-- One edit of a code block. -/
def CodeBlock.edit : Edit :=
  .record [("code", .none), ("index", Position.edit), ("identity", .none),
    ("annotations", CodeAnnotations.edit)] ["annotations"]

/-! ## Expressions -/

namespace Expr

/-- The value stands for the tag, by its name or by its number. -/
inductive Tag.Names (tag : Tag) : Json → Prop
  | name {s : String} (h : (s, tag) ∈ Tag.table) : Names tag (.text s)
  | number {n : Nat} {s : String} (h : Tag.table[n]? = some (s, tag)) :
    Names tag (.integer (.ofNat n))

/-- The value is an expression of the tag. -/
inductive Tag.Marks (tag : Tag) : Json → Prop
  | object {fields : List (String × Json)} {v : Json} (hmem : ("type", v) ∈ fields)
    (h : tag.Names v) : Marks tag (.object fields)
  | array {v : Json} {items : List Json} (h : tag.Names v) : Marks tag (.array (v :: items))

/-- The fields of a tag, with the edits of their values. -/
def Tag.edits (inner : Edit) : Tag → List (String × Edit)
  | .choice => [("alternatives", .list inner)]
  | .sequence => [("items", .list inner)]
  | .primary => [("expr", inner), ("modifier", .none)]
  | .nonterminal => [("name", .none), ("index", Position.edit)]
  | .terminal => [("kind", .none), ("text", .none)]

/-- The fields of a tag that may be absent. -/
def Tag.optional : Tag → List String
  | .primary => ["modifier"]
  | _ => []

/-- One edit of an expression of the tag. -/
def Tag.edit (inner : Edit) (tag : Tag) : Edit :=
  .record (("type", .none) :: tag.edits inner) tag.optional

/-- One edit of an expression or inside it, fewer than `n` expressions deep. -/
def editUpTo : Nat → Edit
  | 0 => .none
  | n + 1 => fun v w => ∃ tag : Tag, tag.Marks v ∧ tag.edit (editUpTo n) v w

/-- One edit of an expression, at any depth. -/
def edit : Edit := fun v w => ∃ n, editUpTo n v w

end Expr

/-! ## Declarations, tables and grammars -/

/-- One edit of a declaration. -/
def Declaration.edit : Edit :=
  .record [("name", .none), ("index", Position.edit), ("expr", Expr.edit), ("code", CodeBlock.edit)]
    ["code"]

/-- One edit of a rule. -/
def Rule.edit : Edit :=
  .record [("name", .none), ("index", Position.edit), ("code", CodeBlock.edit)] ["code"]

/-- One edit of a table. The references are a map, in which only the positions are edited. -/
def SymbolTable.edit : Edit :=
  .record [("rules", .list Rule.edit), ("nts", .values (.list Position.edit)),
    ("combinators", .none)] []

/-- One edit of a grammar. -/
def Grammar.edit : Edit :=
  .record [("declarations", .list Declaration.edit), ("code", CodeBlock.edit),
    ("analysis", SymbolTable.edit)] ["code", "analysis"]

/-! ## No malformed leaves -/

theorem Position.edit_keepsForm : edit.KeepsForm := by
  intro v w hedit hform
  cases hedit with
  | ofRecord h =>
    refine Edit.record_keepsForm ?_ v w h hform
    simpa using Edit.none_keepsForm
  | asArray hline hcolumn =>
    rw [Json.isWellFormed, Json.isWellFormedFields_iff] at hform
    rw [Json.isWellFormed, Json.isWellFormedList_iff]
    exact List.forall_mem_cons.mpr ⟨hform _ hline, List.forall_mem_singleton.mpr (hform _ hcolumn)⟩

namespace Expr

theorem Tag.edits_keepsForm {inner : Edit} (h : inner.KeepsForm) (tag : Tag) :
    ∀ f ∈ tag.edits inner, f.2.KeepsForm := by
  cases tag <;>
    simp [edits, h, Edit.list_keepsForm, Edit.none_keepsForm, Position.edit_keepsForm]

theorem Tag.edit_keepsForm {inner : Edit} (h : inner.KeepsForm) (tag : Tag) :
    (tag.edit inner).KeepsForm :=
  Edit.record_keepsForm
    (List.forall_mem_cons.mpr ⟨Edit.none_keepsForm, Tag.edits_keepsForm h tag⟩)

theorem editUpTo_keepsForm (n : Nat) : (editUpTo n).KeepsForm := by
  induction n with
  | zero => exact Edit.none_keepsForm
  | succ n ih => exact fun v w ⟨tag, _, h⟩ => Tag.edit_keepsForm ih tag v w h

end Expr

end PegCheck
