import PegCheck.Json.Shape
import PegCheck.SymbolTable.Basic
import PegCheck.Finding

/-!
# Grammars and symbol tables as JSON

Every type of the grammar has a JSON form: `toJson` writes it with the fields in a fixed order and
leaves absent optional fields out, and `shape` reads it. Reading ignores unknown fields, takes the
fields of an object in any order, takes null for an absent optional field, and takes a record also
as the list of its fields' values.

An expression is an object with a `type` field, its tag, which may come anywhere; the other fields
are read when the tag is known.

Headlines:
* **`Grammar.toJson`** and **`Grammar.shape`**: the two directions for whole grammars.
* **`Expr.shape`**: tagged expressions.
-/

namespace PegCheck

namespace Position

/-- A position as JSON. -/
def toJson (p : Position) : Json :=
  .object [("line", .integer p.line), ("column", .integer p.column)]

/-- The fields of a position that have been read. -/
structure Draft where
  line : Option Nat := none
  column : Option Nat := none

/-- How a position is read. -/
def record : Shape.Record Draft Position where
  title := "struct Position"
  fields := ["line", "column"]
  field m d key v := match key with
    | "line" => do return { d with line := ← Shape.once key d.line (Shape.count m v) }
    | "column" => do return { d with column := ← Shape.once key d.column (Shape.count m v) }
    | _ => Shape.ignore v d
  finish d := do
    return ⟨← Shape.required "line" d.line, ← Shape.required "column" d.column⟩

/-- Reads a position. -/
def shape : Shape Position := record.shape {}

end Position

/-! ## Names -/

/-- The names of the modifiers. -/
def Modifier.table : List (String × Modifier) :=
  [("optional", .optional), ("zero_or_more", .zeroOrMore), ("one_or_more", .oneOrMore),
    ("assert", .assert), ("not", .not)]

/-- The names of the kinds of terminal. -/
def TerminalKind.table : List (String × TerminalKind) :=
  [("regexp", .regexp), ("string", .string), ("charclass", .charClass), ("anything", .anything)]

/-- All combinators in order. -/
def Combinator.all : List Combinator :=
  [.choice, .sequence, .optional, .zeroOrMore, .oneOrMore, .assert, .not, .regexp, .string,
   .charClass, .anything]

/-- The names of the combinators. -/
def Combinator.table : List (String × Combinator) := Combinator.all.map fun c => (c.name, c)

/-- The names of the kinds of form. -/
def FormKind.table : List (String × FormKind) :=
  [("local", .binding), ("item", .item), ("expr", .expression), ("macro", .macroCall)]

/-- The names of the kinds of comment. -/
def CommentKind.table : List (String × CommentKind) := [("line", .line), ("block", .block)]

/-- The name of a modifier. -/
def Modifier.name (m : Modifier) : String := (Combinator.ofModifier m).name

/-- The name of a kind of terminal. -/
def TerminalKind.name (k : TerminalKind) : String := (Combinator.ofTerminal k).name

/-- The name of a kind of form. -/
def FormKind.name : FormKind → String
  | .binding => "local"
  | .item => "item"
  | .expression => "expr"
  | .macroCall => "macro"

/-- The name of a kind of comment. -/
def CommentKind.name : CommentKind → String
  | .line => "line"
  | .block => "block"

/-- An optional field, left out when absent. -/
def optionalField (key : String) (v : Option Json) : List (String × Json) :=
  match v with
  | some v => [(key, v)]
  | none => []

/-! ## Code blocks -/

/-- The fields of a form or comment that have been read. -/
structure PieceDraft (κ : Type) where
  kind : Option κ := none
  text : Option String := none
  position : Option Position := none

/-- How a form or comment is read: the record of a kind, a text and a position. -/
def pieceRecord {κ α : Type} (title : String) (table : List (String × κ))
    (make : κ → String → Position → α) : Shape.Record (PieceDraft κ) α where
  title := title
  fields := ["kind", "text", "position"]
  field m d key v := match key with
    | "kind" => do return { d with kind := ← Shape.once key d.kind (Shape.bareName table m v) }
    | "text" => do return { d with text := ← Shape.once key d.text (Shape.text m v) }
    | "position" => do
      return { d with position := ← Shape.once key d.position (Position.shape m v) }
    | _ => Shape.ignore v d
  finish d := do
    return make (← Shape.required "kind" d.kind) (← Shape.required "text" d.text)
      (← Shape.required "position" d.position)

/-- The record of a kind, a text and a position as JSON. -/
def pieceJson (kind text : String) (p : Position) : Json :=
  .object [("kind", .text kind), ("text", .text text), ("position", p.toJson)]

/-- A form as JSON. -/
def HostForm.toJson (f : HostForm) : Json := pieceJson f.kind.name f.text f.position

/-- Reads a form. -/
def HostForm.shape : Shape HostForm :=
  (pieceRecord "struct HostForm" FormKind.table HostForm.mk).shape {}

/-- A comment as JSON. -/
def Comment.toJson (c : Comment) : Json := pieceJson c.kind.name c.text c.position

/-- Reads a comment. -/
def Comment.shape : Shape Comment :=
  (pieceRecord "struct Comment" CommentKind.table Comment.mk).shape {}

namespace CodeAnnotations

/-- Annotations as JSON. -/
def toJson (a : CodeAnnotations) : Json :=
  .object [("parsed", .array (a.parsed.map HostForm.toJson)),
    ("comments", .array (a.comments.map Comment.toJson)),
    ("used_args", .array (a.usedArgs.toList.map .text))]

/-- The fields of annotations that have been read. -/
structure Draft where
  parsed : Option (List HostForm) := none
  comments : Option (List Comment) := none
  usedArgs : Option (List String) := none

/-- How annotations are read. -/
def record : Shape.Record Draft CodeAnnotations where
  title := "struct CodeAnnotations"
  fields := ["parsed", "comments", "used_args"]
  field m d key v := match key with
    | "parsed" => do
      return { d with parsed := ← Shape.once key d.parsed (Shape.list HostForm.shape m v) }
    | "comments" => do
      return { d with comments := ← Shape.once key d.comments (Shape.list Comment.shape m v) }
    | "used_args" => do
      return { d with usedArgs := ← Shape.once key d.usedArgs (Shape.list Shape.text m v) }
    | _ => Shape.ignore v d
  finish d := do
    return {
      parsed := ← Shape.required "parsed" d.parsed
      comments := ← Shape.required "comments" d.comments
      usedArgs := .ofList (← Shape.required "used_args" d.usedArgs) }

/-- Reads annotations. -/
def shape : Shape CodeAnnotations := record.shape {}

end CodeAnnotations

namespace CodeBlock

/-- A code block as JSON. -/
def toJson (b : CodeBlock) : Json :=
  .object ([("code", .text b.code), ("index", b.index.toJson), ("identity", .bool b.identity)]
    ++ optionalField "annotations" (b.annotations.map CodeAnnotations.toJson))

/-- The fields of a code block that have been read. -/
structure Draft where
  code : Option String := none
  index : Option Position := none
  identity : Option Bool := none
  annotations : Option (Option CodeAnnotations) := none

/-- How a code block is read; it is no identity block unless it says so. -/
def record : Shape.Record Draft CodeBlock where
  title := "struct CodeBlock"
  fields := ["code", "index", "identity", "annotations"]
  optional := ["identity", "annotations"]
  field m d key v := match key with
    | "code" => do return { d with code := ← Shape.once key d.code (Shape.text m v) }
    | "index" => do return { d with index := ← Shape.once key d.index (Position.shape m v) }
    | "identity" => do return { d with identity := ← Shape.once key d.identity (Shape.flag m v) }
    | "annotations" => do
      let a ← Shape.once key d.annotations (Shape.nullable CodeAnnotations.shape m v)
      return { d with annotations := a }
    | _ => Shape.ignore v d
  finish d := do
    return {
      code := ← Shape.required "code" d.code
      index := ← Shape.required "index" d.index
      identity := d.identity.getD false
      annotations := d.annotations.getD none }

/-- Reads a code block. -/
def shape : Shape CodeBlock := record.shape {}

end CodeBlock

/-! ## Expressions -/

namespace Expr

mutual

/-- An expression as JSON. -/
def toJson : Expr → Json
  | .choice alternatives =>
    .object [("type", .text "choice"), ("alternatives", .array (listToJson alternatives))]
  | .sequence items => .object [("type", .text "sequence"), ("items", .array (listToJson items))]
  | .primary e modifier =>
    .object ([("type", .text "primary"), ("expr", e.toJson)]
      ++ optionalField "modifier" (modifier.map fun m => .text m.name))
  | .nonterminal name index =>
    .object [("type", .text "nonterminal"), ("name", .text name), ("index", index.toJson)]
  | .terminal kind text =>
    .object [("type", .text "terminal"), ("kind", .text kind.name), ("text", .text text)]

/-- Expressions as JSON. -/
def listToJson : List Expr → List Json
  | [] => []
  | e :: es => e.toJson :: listToJson es

end

/-- The tags of expressions. -/
inductive Tag where
  | choice
  | sequence
  | primary
  | nonterminal
  | terminal
  deriving DecidableEq, Repr, Inhabited

/-- The names of the tags. -/
def Tag.table : List (String × Tag) :=
  [("choice", .choice), ("sequence", .sequence), ("primary", .primary),
   ("nonterminal", .nonterminal), ("terminal", .terminal)]

/-- The fields that belong to a tag, in order. -/
def Tag.fields : Tag → List String
  | .choice => ["alternatives"]
  | .sequence => ["items"]
  | .primary => ["expr", "modifier"]
  | .nonterminal => ["name", "index"]
  | .terminal => ["kind", "text"]

/-- The name of the variant that a tag stands for. -/
def Tag.title : Tag → String
  | .choice => "struct variant Expr::Choice"
  | .sequence => "struct variant Expr::Sequence"
  | .primary => "struct variant Expr::Primary"
  | .nonterminal => "struct variant Expr::Nonterminal"
  | .terminal => "struct variant Expr::Terminal"

/-- Reads a tag. Inside a tagged value a tag may also be given by its number. -/
def Tag.shape : Shape Tag
  | _, .text s => Shape.nameIn table s
  | .buffered, .integer (.ofNat n) =>
    match table[n]? with
    | some (_, t) => .ok t
    | none => .error (.invalidValue (Json.integer n).describe "variant index 0 <= i < 5")
  | _, v => v.refuse "variant identifier"

/-- The tag among the fields of an object. -/
def Tag.find (m : Manner) (found : Option Tag) : List (String × Json) → Except Problem Tag
  | [] => Shape.required "type" found
  | (key, v) :: fields => do
    if key = "type" then
      Tag.find m (← Shape.once "type" found (Tag.shape m v)) fields
    else
      Tag.find m (← Shape.ignore v found) fields

/-- The fields of an expression that have been read. -/
structure Draft where
  children : Option (List Expr) := none
  inner : Option Expr := none
  modifier : Option (Option Modifier) := none
  name : Option String := none
  index : Option Position := none
  kind : Option TerminalKind := none
  text : Option String := none

/-- Reads a field that holds no expression. -/
def Draft.plainField (tag : Tag) (d : Draft) (key : String) (v : Json) : Except Problem Draft :=
  match tag, key with
  | .primary, "modifier" => do
    let x ← Shape.once key d.modifier
      (Shape.nullable (Shape.bareName Modifier.table) .buffered v)
    return { d with modifier := x }
  | .nonterminal, "name" => do
    return { d with name := ← Shape.once key d.name (Shape.text .buffered v) }
  | .nonterminal, "index" => do
    return { d with index := ← Shape.once key d.index (Position.shape .buffered v) }
  | .terminal, "kind" => do
    let kind := Shape.bareName TerminalKind.table .buffered v
    return { d with kind := ← Shape.once key d.kind kind }
  | .terminal, "text" => do
    return { d with text := ← Shape.once key d.text (Shape.text .buffered v) }
  | _, _ => .ok d

/-- The expression of a tag and its fields. -/
def Draft.finish (tag : Tag) (d : Draft) : Except Problem Expr :=
  match tag with
  | .choice => do return .choice (← Shape.required "alternatives" d.children)
  | .sequence => do return .sequence (← Shape.required "items" d.children)
  | .primary => do return .primary (← Shape.required "expr" d.inner) (d.modifier.getD none)
  | .nonterminal => do
    return .nonterminal (← Shape.required "name" d.name) (← Shape.required "index" d.index)
  | .terminal => do
    return .terminal (← Shape.required "kind" d.kind) (← Shape.required "text" d.text)

/-- Does the field of the tag hold a list of expressions? -/
def Tag.holdsList (tag : Tag) (key : String) : Bool :=
  (tag == .choice && key == "alternatives") || (tag == .sequence && key == "items")

/-- The expression of a tag whose fields were given as a list of `given` values. -/
def Draft.finishItems (tag : Tag) (given : Nat) (d : Draft) : Except Problem Expr := do
  let expected := tag.fields.length
  let needed := if tag = .primary then 1 else expected
  if given < needed then
    throw (.invalidLength given (tag.title ++ " with " ++ Shape.elements expected))
  if given > expected then
    throw (.invalidLength given (Shape.elements expected ++ " in sequence"))
  d.finish tag

mutual

/-- Reads an expression. -/
def shape (m : Manner) : Json → Except Problem Expr
  | .object fields => do
    let tag ← Tag.find m none fields
    (← readFields tag {} fields).finish tag
  | .array [] => .error (.missingField "type")
  | .array (tag :: items) => do
    let tag ← Tag.shape m tag
    if !Json.isWellFormedList items then throw .fault
    (← readItems tag {} tag.fields items).finishItems tag items.length
  | v => v.refuse "internally tagged enum Expr"

/-- Reads the fields of an expression whose tag is known. -/
def readFields (tag : Tag) (d : Draft) : List (String × Json) → Except Problem Draft
  | [] => .ok d
  | (key, v) :: fields => do
    if tag.holdsList key then
      let x ← Shape.once key d.children <| match v with
        | .array items => readList items
        | v => v.refuse "a sequence"
      readFields tag { d with children := x } fields
    else if tag == .primary && key == "expr" then
      let x ← Shape.once key d.inner (shape .buffered v)
      readFields tag { d with inner := x } fields
    else readFields tag (← d.plainField tag key v) fields

/-- Reads the fields of an expression from the list of their values. -/
def readItems (tag : Tag) (d : Draft) : List String → List Json → Except Problem Draft
  | key :: keys, v :: items => do
    if tag.holdsList key then
      let x ← match v with
        | .array items => readList items
        | v => v.refuse "a sequence"
      readItems tag { d with children := some x } keys items
    else if tag == .primary && key == "expr" then
      let x ← shape .buffered v
      readItems tag { d with inner := some x } keys items
    else readItems tag (← d.plainField tag key v) keys items
  | _, _ => .ok d

/-- Reads the items of a list of expressions. -/
def readList : List Json → Except Problem (List Expr)
  | [] => .ok []
  | v :: vs => do return (← shape .buffered v) :: (← readList vs)

end

end Expr

/-! ## Declarations, tables and grammars -/

namespace Declaration

/-- A declaration as JSON. -/
def toJson (d : Declaration) : Json :=
  .object ([("name", .text d.name), ("index", d.index.toJson), ("expr", d.expr.toJson)]
    ++ optionalField "code" (d.code.map CodeBlock.toJson))

/-- The fields of a declaration that have been read. -/
structure Draft where
  name : Option String := none
  index : Option Position := none
  expr : Option Expr := none
  code : Option (Option CodeBlock) := none

/-- How a declaration is read. -/
def record : Shape.Record Draft Declaration where
  title := "struct Declaration"
  fields := ["name", "index", "expr", "code"]
  optional := ["code"]
  field m d key v := match key with
    | "name" => do return { d with name := ← Shape.once key d.name (Shape.text m v) }
    | "index" => do return { d with index := ← Shape.once key d.index (Position.shape m v) }
    | "expr" => do return { d with expr := ← Shape.once key d.expr (Expr.shape m v) }
    | "code" => do
      return { d with code := ← Shape.once key d.code (Shape.nullable CodeBlock.shape m v) }
    | _ => Shape.ignore v d
  finish d := do
    return {
      name := ← Shape.required "name" d.name
      index := ← Shape.required "index" d.index
      expr := ← Shape.required "expr" d.expr
      code := d.code.getD none }

/-- Reads a declaration. -/
def shape : Shape Declaration := record.shape {}

end Declaration

namespace Rule

/-- A rule as JSON. -/
def toJson (r : Rule) : Json :=
  .object ([("name", .text r.name), ("index", r.index.toJson)]
    ++ optionalField "code" (r.code.map CodeBlock.toJson))

/-- The fields of a rule that have been read. -/
structure Draft where
  name : Option String := none
  index : Option Position := none
  code : Option (Option CodeBlock) := none

/-- How a rule is read. -/
def record : Shape.Record Draft Rule where
  title := "struct Rule"
  fields := ["name", "index", "code"]
  optional := ["code"]
  field m d key v := match key with
    | "name" => do return { d with name := ← Shape.once key d.name (Shape.text m v) }
    | "index" => do return { d with index := ← Shape.once key d.index (Position.shape m v) }
    | "code" => do
      return { d with code := ← Shape.once key d.code (Shape.nullable CodeBlock.shape m v) }
    | _ => Shape.ignore v d
  finish d := do
    return {
      name := ← Shape.required "name" d.name
      index := ← Shape.required "index" d.index
      code := d.code.getD none }

/-- Reads a rule. -/
def shape : Shape Rule := record.shape {}

end Rule

namespace SymbolTable

/-- The references of a table as JSON, an object keyed by name. -/
def referencesToJson (groups : List ReferenceGroup) : Json :=
  .object (groups.map fun g => (g.name, .array (g.occurrences.map Position.toJson)))

/-- A table as JSON. -/
def toJson (t : SymbolTable) : Json :=
  .object [("rules", .array (t.rules.map Rule.toJson)), ("nts", referencesToJson t.references),
    ("combinators", .array (t.combinators.toList.map fun c => .text c.name))]

/-- Sets the group of a name: a name that is there keeps its place. -/
def setGroup (g : ReferenceGroup) : List ReferenceGroup → List ReferenceGroup
  | [] => [g]
  | h :: hs => if h.name == g.name then g :: hs else h :: setGroup g hs

/-- Reads the references of a table. -/
def referencesShape : Shape (List ReferenceGroup)
  | m, .object fields =>
    fields.foldlM (fun gs (name, v) => do
      return setGroup ⟨name, ← Shape.list Position.shape m v⟩ gs) []
  | _, v => v.refuse "a map"

/-- The fields of a table that have been read. -/
structure Draft where
  rules : Option (List Rule) := none
  references : Option (List ReferenceGroup) := none
  combinators : Option (List Combinator) := none

/-- How a table is read. -/
def record : Shape.Record Draft SymbolTable where
  title := "struct SymbolTable"
  fields := ["rules", "nts", "combinators"]
  field m d key v := match key with
    | "rules" => do return { d with rules := ← Shape.once key d.rules (Shape.list Rule.shape m v) }
    | "nts" => do
      return { d with references := ← Shape.once key d.references (referencesShape m v) }
    | "combinators" => do
      let cs ← Shape.once key d.combinators (Shape.list (Shape.bareName Combinator.table) m v)
      return { d with combinators := cs }
    | _ => Shape.ignore v d
  finish d := do
    return {
      rules := ← Shape.required "rules" d.rules
      references := ← Shape.required "nts" d.references
      combinators := .ofList (← Shape.required "combinators" d.combinators) }

/-- Reads a table. -/
def shape : Shape SymbolTable := record.shape {}

end SymbolTable

namespace Grammar

/-- A grammar as JSON. -/
def toJson (g : Grammar) : Json :=
  .object ([("declarations", .array (g.declarations.map Declaration.toJson))]
    ++ optionalField "code" (g.code.map CodeBlock.toJson)
    ++ optionalField "analysis" (g.analysis.map SymbolTable.toJson))

/-- The fields of a grammar that have been read. -/
structure Draft where
  declarations : Option (List Declaration) := none
  code : Option (Option CodeBlock) := none
  analysis : Option (Option SymbolTable) := none

/-- How a grammar is read. -/
def record : Shape.Record Draft Grammar where
  title := "struct Grammar"
  fields := ["declarations", "code", "analysis"]
  optional := ["code", "analysis"]
  field m d key v := match key with
    | "declarations" => do
      let ds ← Shape.once key d.declarations (Shape.list Declaration.shape m v)
      return { d with declarations := ds }
    | "code" => do
      return { d with code := ← Shape.once key d.code (Shape.nullable CodeBlock.shape m v) }
    | "analysis" => do
      let analysis := Shape.nullable SymbolTable.shape m v
      return { d with analysis := ← Shape.once key d.analysis analysis }
    | _ => Shape.ignore v d
  finish d := do
    return {
      declarations := ← Shape.required "declarations" d.declarations
      code := d.code.getD none
      analysis := d.analysis.getD none }

/-- Reads a grammar. -/
def shape : Shape Grammar := record.shape {}

end Grammar

/-! ## Findings -/

namespace Finding

/-- The names of the severities. -/
def severityTable : List (String × Severity) := [("error", .error), ("warning", .warning)]

/-- A finding as JSON: severity, tag and the data of the cause. -/
def toJson (f : Finding) : Json :=
  let payload := match f.cause with
    | .noReduction name occurrences =>
      [("name", .text name), ("occurrences", .array (occurrences.map Position.toJson))]
    | .unusedRule name index => [("name", .text name), ("index", index.toJson)]
    | .hostSyntaxError info location => [("info", .text info), ("location", location.toJson)]
    | .hostParseError reason location => [("reason", .text reason), ("location", location.toJson)]
  .object (("severity", .text f.severity.name) :: ("kind", .text f.cause.tag) :: payload)

/-- The value of a field that has to be there. -/
def fieldOf {α : Type} (v : Json) (key : String) (read : Shape α) (m : Manner) : Except Problem α :=
  match v.get? key with
  | some x => read m x
  | none => .error (.missingField key)

/-- Reads a finding; a severity that is given overrides that of the cause. -/
def shape : Shape Finding
  | m, .object fields => do
    let v := Json.object fields
    let cause ← match ← fieldOf v "kind" Shape.text m with
      | "no_reduction" => do
        let name ← fieldOf v "name" Shape.text m
        pure (Cause.noReduction name (← fieldOf v "occurrences" (Shape.list Position.shape) m))
      | "unused_rule" => do
        let name ← fieldOf v "name" Shape.text m
        pure (Cause.unusedRule name (← fieldOf v "index" Position.shape m))
      | "host_syntax_error" => do
        let info ← fieldOf v "info" Shape.text m
        pure (Cause.hostSyntaxError info (← fieldOf v "location" Position.shape m))
      | "host_parse_error" => do
        let reason ← fieldOf v "reason" Shape.text m
        pure (Cause.hostParseError reason (← fieldOf v "location" Position.shape m))
      | other =>
        throw (.unknownVariant other
          ["no_reduction", "unused_rule", "host_syntax_error", "host_parse_error"])
    match v.get? "severity" with
    | none | some .null => return .ofCause cause
    | some s => return ⟨← Shape.bareName severityTable m s, cause⟩
  | _, v => v.refuse "a map"

end Finding

end PegCheck
