import PegCheck.Grammar.Codec
import PegCheck.Proofs.Grammar.Nodes
import PegCheck.Proofs.OrderedSet

/-!
# Reading what was written

Every value of the grammar's types is read back from its JSON form, with all its orders. The two
conditions are those of the written form: lines and columns are numbers of 32 bits, and the
references of a table are an object, whose names have to be distinct.

* `Shape.Reads`: a shape reads a JSON value as a given value, in whatever manner it reads.
* `Shape.reads_list`, `Shape.reads_nullable`: lists and optional values are read if their parts are.
* `Expr.reads_toJson`: the induction over expressions.
* `SymbolTable.foldlM_setGroup`: the groups of an object with distinct names are put at the end one
  by one, so they keep their order.
* **`shape_toJson`**: all types together.
-/

namespace PegCheck

namespace Shape

variable {α : Type} {shape : Shape α}

/-- The shape reads the JSON value as `x`, in every manner. -/
def Reads (shape : Shape α) (v : Json) (x : α) : Prop := ∀ m, shape m v = .ok x

theorem reads_list {write : α → Json} {xs : List α} (h : ∀ x ∈ xs, shape.Reads (write x) x) :
    (list shape).Reads (.array (xs.map write)) xs := by
  intro m
  rw [list]
  induction xs with
  | nil => rfl
  | cons x xs ih =>
    have htail := ih fun y hy => h y (List.mem_cons_of_mem x hy)
    rw [List.map_cons, List.mapM_cons, h x List.mem_cons_self m, htail]
    rfl

theorem reads_nullable {v : Json} {x : α} (h : shape.Reads v x) (hv : v ≠ .null) :
    (nullable shape).Reads v (some x) := by
  intro m
  rw [nullable, h m]
  · rfl
  · exact hv

theorem reads_count {n : Nat} (h : n ≤ maxCount) : count.Reads (.integer n) n := fun _ => if_pos h

theorem reads_text (s : String) : text.Reads (.text s) s := fun _ => rfl

end Shape

/-! ## Names -/

theorem Combinator.reads_name (c : Combinator) :
    (Shape.bareName Combinator.table).Reads (.text c.name) c := by
  intro m
  cases c <;> rfl

theorem Modifier.reads_name (modifier : Modifier) :
    (Shape.bareName Modifier.table).Reads (.text modifier.name) modifier := by
  intro m
  cases modifier <;> rfl

theorem TerminalKind.reads_name (k : TerminalKind) :
    (Shape.bareName TerminalKind.table).Reads (.text k.name) k := by
  intro m
  cases k <;> rfl

theorem FormKind.reads_name (k : FormKind) :
    (Shape.bareName FormKind.table).Reads (.text k.name) k := by
  intro m
  cases k <;> rfl

theorem CommentKind.reads_name (k : CommentKind) :
    (Shape.bareName CommentKind.table).Reads (.text k.name) k := by
  intro m
  cases k <;> rfl

/-! ## Positions and code blocks -/

/-- Line and column are numbers that can be written. -/
def Position.Fits (p : Position) : Prop := p.line ≤ Shape.maxCount ∧ p.column ≤ Shape.maxCount

instance (p : Position) : Decidable p.Fits := inferInstanceAs (Decidable (_ ∧ _))

theorem Position.reads_toJson {p : Position} (h : p.Fits) : Position.shape.Reads p.toJson p := by
  intro m
  simp only [shape, Shape.Record.shape, toJson, record, List.foldlM_cons, List.foldlM_nil,
    Shape.reads_count h.1 m, Shape.reads_count h.2 m]
  rfl

theorem reads_pieceJson {κ α : Type} {table : List (String × κ)} {make : κ → String → Position → α}
    {title name text : String} {kind : κ} {p : Position}
    (hkind : (Shape.bareName table).Reads (.text name) kind) (hp : p.Fits) :
    ((pieceRecord title table make).shape {}).Reads (pieceJson name text p) (make kind text p) := by
  intro m
  simp only [Shape.Record.shape, pieceJson, pieceRecord, List.foldlM_cons, List.foldlM_nil,
    hkind m, Shape.reads_text text m, Position.reads_toJson hp m]
  rfl

/-- The positions of all forms and comments fit. -/
def CodeAnnotations.Fits (a : CodeAnnotations) : Prop :=
  (∀ f ∈ a.parsed, f.position.Fits) ∧ ∀ c ∈ a.comments, c.position.Fits

theorem CodeAnnotations.reads_toJson {a : CodeAnnotations} (h : a.Fits) :
    CodeAnnotations.shape.Reads a.toJson a := by
  intro m
  have hparsed : (Shape.list HostForm.shape).Reads (.array (a.parsed.map HostForm.toJson)) a.parsed :=
    Shape.reads_list fun f hf => reads_pieceJson f.kind.reads_name (h.1 f hf)
  have hcomments : (Shape.list Comment.shape).Reads (.array (a.comments.map Comment.toJson))
      a.comments :=
    Shape.reads_list fun c hc => reads_pieceJson c.kind.reads_name (h.2 c hc)
  have hargs : (Shape.list Shape.text).Reads (.array (a.usedArgs.toList.map .text))
      a.usedArgs.toList := Shape.reads_list fun s _ => Shape.reads_text s
  simp only [shape, Shape.Record.shape, toJson, record, List.foldlM_cons, List.foldlM_nil,
    hparsed m, hcomments m, hargs m]
  exact congrArg (fun s => Except.ok (mk a.parsed a.comments s)) a.usedArgs.ofList_toList

/-- All positions of the block and of its annotations fit. -/
def CodeBlock.Fits (b : CodeBlock) : Prop := b.index.Fits ∧ ∀ a ∈ b.annotations, a.Fits

theorem CodeBlock.reads_toJson {b : CodeBlock} (h : b.Fits) : CodeBlock.shape.Reads b.toJson b := by
  intro m
  obtain ⟨code, index, identity, annotations⟩ := b
  have hindex := Position.reads_toJson h.1 m
  cases annotations with
  | none =>
    simp only [shape, Shape.Record.shape, toJson, record, List.foldlM_cons, List.foldlM_nil,
      Option.map_none, optionalField, List.append_nil, hindex]
    rfl
  | some a =>
    have ha := Shape.reads_nullable (CodeAnnotations.reads_toJson (h.2 a rfl)) nofun m
    simp only [shape, Shape.Record.shape, toJson, record, List.foldlM_cons, List.foldlM_nil,
      Option.map_some, optionalField, List.cons_append, List.nil_append, hindex, ha]
    rfl

theorem CodeBlock.reads_some {b : CodeBlock} (h : b.Fits) :
    (Shape.nullable CodeBlock.shape).Reads b.toJson (some b) :=
  Shape.reads_nullable (CodeBlock.reads_toJson h) nofun

/-! ## Expressions -/

namespace Expr

/-- Every reference in the expression stands at a position that fits. -/
def Fits (e : Expr) : Prop := ∀ r ∈ e.nodes.filterMap reference?, r.index.Fits

/-- Every reference in a list of expressions stands at a position that fits. -/
def FitsList (es : List Expr) : Prop := ∀ r ∈ (nodesOfList es).filterMap reference?, r.index.Fits

theorem fitsList_cons {e : Expr} {es : List Expr} : FitsList (e :: es) ↔ e.Fits ∧ FitsList es := by
  simp only [FitsList, Fits, nodesOfList, List.filterMap_append, List.mem_append, or_imp,
    forall_and]

theorem fits_choice {es : List Expr} : (choice es).Fits ↔ FitsList es := Iff.rfl

theorem fits_sequence {es : List Expr} : (sequence es).Fits ↔ FitsList es := Iff.rfl

theorem fits_primary {e : Expr} {m : Option Modifier} : (primary e m).Fits ↔ e.Fits := Iff.rfl

theorem fits_nonterminal {name : String} {index : Position} :
    (nonterminal name index).Fits ↔ index.Fits := by
  simp [Fits, nodes, reference?]

/-! ### The written form is well-formed -/

theorem isWellFormed_position (p : Position) : p.toJson.isWellFormed = true := rfl

mutual

theorem isWellFormed_toJson : ∀ e : Expr, e.toJson.isWellFormed = true
  | .choice es => by
    simpa [toJson, Json.isWellFormed, Json.isWellFormedFields] using isWellFormed_listToJson es
  | .sequence es => by
    simpa [toJson, Json.isWellFormed, Json.isWellFormedFields] using isWellFormed_listToJson es
  | .primary e none => by
    simpa [toJson, optionalField, Json.isWellFormed, Json.isWellFormedFields]
      using isWellFormed_toJson e
  | .primary e (some _) => by
    simpa [toJson, optionalField, Json.isWellFormed, Json.isWellFormedFields]
      using isWellFormed_toJson e
  | .nonterminal _ _ => rfl
  | .terminal _ _ => rfl

theorem isWellFormed_listToJson : ∀ es : List Expr, Json.isWellFormedList (listToJson es) = true
  | [] => rfl
  | e :: es => by
    rw [listToJson, Json.isWellFormedList, isWellFormed_toJson, isWellFormed_listToJson]
    rfl

end

/-! ### The written form is read -/

/-- Fields that are no tags are passed over by the search for the tag. -/
theorem Tag.find_some {m : Manner} {tag : Tag} {fields : List (String × Json)}
    (h : ∀ f ∈ fields, f.1 ≠ "type" ∧ f.2.isWellFormed = true) :
    Tag.find m (some tag) fields = .ok tag := by
  induction fields with
  | nil => rfl
  | cons f fields ih =>
    obtain ⟨key, v⟩ := f
    obtain ⟨hkey, hv⟩ := h _ List.mem_cons_self
    rw [find, if_neg hkey, Shape.ignore, if_pos hv]
    exact ih fun f hf => h f (List.mem_cons_of_mem _ hf)

/-- A field that holds expressions holds a list of them. -/
theorem readFields_children {tag : Tag} {d : Draft} {key : String} {items : List Json}
    {es : List Expr} {fields : List (String × Json)} (hkey : tag.holdsList key = true)
    (hnew : d.children = none) (h : readList items = .ok es) :
    readFields tag d ((key, .array items) :: fields) =
      readFields tag { d with children := some es } fields := by
  rw [readFields, if_pos hkey, h, hnew]
  rfl

theorem readFields_inner {d : Draft} {v : Json} {e : Expr} {fields : List (String × Json)}
    (hnew : d.inner = none) (h : shape .buffered v = .ok e) :
    readFields .primary d (("expr", v) :: fields) =
      readFields .primary { d with inner := some e } fields := by
  rw [readFields.eq_def]
  simp only [show Tag.primary.holdsList "expr" = false from rfl, h, hnew]
  rfl

/-- A field that holds no expression is read on its own. -/
theorem readFields_plain {tag : Tag} {d d' : Draft} {key : String} {v : Json}
    {fields : List (String × Json)} (hkey : tag.holdsList key = false)
    (hinner : (tag == .primary && key == "expr") = false) (h : d.plainField tag key v = .ok d') :
    readFields tag d ((key, v) :: fields) = readFields tag d' fields := by
  rw [readFields.eq_def]
  simp only [hkey, hinner, h]
  rfl

/-- An expression is read by its tag and then by its fields, which are looked at for the tag before.
-/
theorem shape_object {m : Manner} {name : String} {tag : Tag} {fields : List (String × Json)}
    {d : Draft} (htag : Shape.nameIn Tag.table name = .ok tag)
    (hfields : ∀ f ∈ fields, f.1 ≠ "type" ∧ f.2.isWellFormed = true)
    (hread : readFields tag {} fields = .ok d) :
    shape m (.object (("type", .text name) :: fields)) = d.finish tag := by
  have hfind : Tag.find m none (("type", .text name) :: fields) = .ok tag := by
    rw [Tag.find, if_pos rfl, Tag.shape, htag]
    exact Tag.find_some hfields
  have htype : readFields tag {} (("type", .text name) :: fields) = readFields tag {} fields := by
    cases tag <;> exact readFields_plain rfl rfl rfl
  rw [shape, hfind]
  change (readFields tag {} (("type", .text name) :: fields) >>= fun d => d.finish tag) = _
  rw [htype, hread]
  rfl

mutual

/-- **Expressions** are read back. -/
theorem reads_toJson : ∀ {e : Expr}, e.Fits → Shape.Reads shape e.toJson e
  | .choice es, h, m => by
    have hwell := isWellFormed_listToJson es
    have hes := readList_listToJson (fits_choice.mp h)
    rw [toJson, shape_object rfl _ (readFields_children rfl rfl hes)]
    · rfl
    · simpa [Json.isWellFormed] using hwell
  | .sequence es, h, m => by
    have hwell := isWellFormed_listToJson es
    have hes := readList_listToJson (fits_sequence.mp h)
    rw [toJson, shape_object rfl _ (readFields_children rfl rfl hes)]
    · rfl
    · simpa [Json.isWellFormed] using hwell
  | .primary e none, h, m => by
    have hwell := isWellFormed_toJson e
    have he := reads_toJson (fits_primary.mp h) .buffered
    rw [toJson, Option.map_none, optionalField, List.append_nil,
      shape_object rfl _ (readFields_inner rfl he)]
    · rfl
    · simpa [Json.isWellFormed] using hwell
  | .primary e (some modifier), h, m => by
    have hwell := isWellFormed_toJson e
    have he := reads_toJson (fits_primary.mp h) .buffered
    have hmodifier := Shape.reads_nullable modifier.reads_name nofun .buffered
    have hplain : Draft.plainField .primary { inner := some e } "modifier" (.text modifier.name) =
        .ok { inner := some e, modifier := some (some modifier) } := by
      rw [Draft.plainField, hmodifier]
      rfl
    have hread : readFields .primary {} [("expr", e.toJson), ("modifier", .text modifier.name)] =
        .ok { inner := some e, modifier := some (some modifier) } := by
      rw [readFields_inner rfl he, readFields_plain rfl rfl hplain, readFields]
    rw [toJson, Option.map_some, optionalField, List.cons_append, List.cons_append,
      List.nil_append, shape_object rfl _ hread]
    · rfl
    · simpa [Json.isWellFormed] using hwell
  | .nonterminal name index, h, m => by
    have hindex := Position.reads_toJson (fits_nonterminal.mp h) .buffered
    have hplain : Draft.plainField .nonterminal { name := some name } "index" index.toJson =
        .ok { name := some name, index := some index } := by
      rw [Draft.plainField, hindex]
      rfl
    have hread : readFields .nonterminal {} [("name", .text name), ("index", index.toJson)] =
        .ok { name := some name, index := some index } := by
      rw [readFields_plain rfl rfl rfl, readFields_plain rfl rfl hplain, readFields]
    rw [toJson, shape_object rfl _ hread]
    · rfl
    · simpa [Json.isWellFormed] using isWellFormed_position index
  | .terminal kind text, _, m => by
    have hplain : Draft.plainField .terminal {} "kind" (.text kind.name) =
        .ok { kind := some kind } := by
      rw [Draft.plainField, kind.reads_name .buffered]
      rfl
    have hread : readFields .terminal {} [("kind", .text kind.name), ("text", .text text)] =
        .ok { kind := some kind, text := some text } := by
      rw [readFields_plain rfl rfl hplain, readFields_plain rfl rfl rfl, readFields]
    rw [toJson, shape_object rfl _ hread]
    · rfl
    · simp [Json.isWellFormed]

theorem readList_listToJson : ∀ {es : List Expr}, FitsList es → readList (listToJson es) = .ok es
  | [], _ => rfl
  | e :: es, h => by
    obtain ⟨he, hes⟩ := fitsList_cons.mp h
    rw [listToJson, readList, reads_toJson he, readList_listToJson hes]
    rfl

end

end Expr

/-! ## Declarations, tables and grammars -/

/-- All positions of the declaration fit. -/
structure Declaration.Fits (d : Declaration) : Prop where
  index : d.index.Fits
  expr : d.expr.Fits
  code : ∀ b ∈ d.code, b.Fits

theorem Declaration.reads_toJson {d : Declaration} (h : d.Fits) :
    Declaration.shape.Reads d.toJson d := by
  intro m
  obtain ⟨name, index, expr, code⟩ := d
  have hindex := Position.reads_toJson h.index m
  have hexpr := Expr.reads_toJson h.expr m
  cases code with
  | none =>
    simp only [shape, Shape.Record.shape, toJson, record, List.foldlM_cons, List.foldlM_nil,
      Option.map_none, optionalField, List.append_nil, hindex, hexpr]
    rfl
  | some b =>
    have hb := CodeBlock.reads_some (h.code b rfl) m
    simp only [shape, Shape.Record.shape, toJson, record, List.foldlM_cons, List.foldlM_nil,
      Option.map_some, optionalField, List.cons_append, List.nil_append, hindex, hexpr, hb]
    rfl

/-- All positions of the rule fit. -/
structure Rule.Fits (r : Rule) : Prop where
  index : r.index.Fits
  code : ∀ b ∈ r.code, b.Fits

theorem Rule.reads_toJson {r : Rule} (h : r.Fits) : Rule.shape.Reads r.toJson r := by
  intro m
  obtain ⟨name, index, code⟩ := r
  have hindex := Position.reads_toJson h.index m
  cases code with
  | none =>
    simp only [shape, Shape.Record.shape, toJson, record, List.foldlM_cons, List.foldlM_nil,
      Option.map_none, optionalField, List.append_nil, hindex]
    rfl
  | some b =>
    have hb := CodeBlock.reads_some (h.code b rfl) m
    simp only [shape, Shape.Record.shape, toJson, record, List.foldlM_cons, List.foldlM_nil,
      Option.map_some, optionalField, List.cons_append, List.nil_append, hindex, hb]
    rfl

namespace SymbolTable

/-- All positions of the table fit, and no name has two groups. -/
structure Fits (t : SymbolTable) : Prop where
  rules : ∀ r ∈ t.rules, r.Fits
  occurrences : ∀ g ∈ t.references, ∀ p ∈ g.occurrences, p.Fits
  names : (t.references.map (·.name)).Nodup

theorem setGroup_of_not_mem {g : ReferenceGroup} {gs : List ReferenceGroup}
    (h : g.name ∉ gs.map (·.name)) : setGroup g gs = gs ++ [g] := by
  induction gs with
  | nil => rfl
  | cons a gs ih =>
    obtain ⟨ha, hgs⟩ := not_or.mp (mt List.mem_cons.mpr h)
    rw [setGroup, if_neg (by simpa using Ne.symm ha), ih hgs, List.cons_append]

/-- **Groups keep their order.** Groups of names that are new go to the end one by one. -/
theorem foldlM_setGroup {m : Manner} {gs acc : List ReferenceGroup}
    (hfits : ∀ g ∈ gs, ∀ p ∈ g.occurrences, p.Fits)
    (hnames : ((acc ++ gs).map (·.name)).Nodup) :
    (gs.map fun g => (g.name, Json.array (g.occurrences.map Position.toJson))).foldlM
      (fun gs (name, v) => do return setGroup ⟨name, ← Shape.list Position.shape m v⟩ gs) acc =
        (.ok (acc ++ gs) : Except Problem (List ReferenceGroup)) := by
  induction gs generalizing acc with
  | nil =>
    rw [List.append_nil]
    rfl
  | cons g gs ih =>
    have hg : (Shape.list Position.shape).Reads (.array (g.occurrences.map Position.toJson))
        g.occurrences :=
      Shape.reads_list fun p hp => Position.reads_toJson (hfits g List.mem_cons_self p hp)
    have hnew : g.name ∉ acc.map (·.name) := fun hmem => by
      rw [List.map_append, List.map_cons] at hnames
      exact (List.nodup_append.mp hnames).2.2 _ hmem _ List.mem_cons_self rfl
    rw [List.append_cons] at hnames ⊢
    rw [← setGroup_of_not_mem hnew] at hnames ⊢
    rw [List.map_cons, List.foldlM_cons]
    simp only [hg m]
    exact ih (fun g hg => hfits g (List.mem_cons_of_mem _ hg)) hnames

theorem reads_references {gs : List ReferenceGroup}
    (hfits : ∀ g ∈ gs, ∀ p ∈ g.occurrences, p.Fits) (hnames : (gs.map (·.name)).Nodup) :
    referencesShape.Reads (referencesToJson gs) gs := fun _ => foldlM_setGroup hfits hnames

theorem reads_toJson {t : SymbolTable} (h : t.Fits) : SymbolTable.shape.Reads t.toJson t := by
  intro m
  have hrules : (Shape.list Rule.shape).Reads (.array (t.rules.map Rule.toJson)) t.rules :=
    Shape.reads_list fun r hr => Rule.reads_toJson (h.rules r hr)
  have hrefs := reads_references h.occurrences h.names
  have hcombinators : (Shape.list (Shape.bareName Combinator.table)).Reads
      (.array (t.combinators.toList.map fun c => .text c.name)) t.combinators.toList :=
    Shape.reads_list fun c _ => c.reads_name
  simp only [shape, Shape.Record.shape, toJson, record, List.foldlM_cons, List.foldlM_nil,
    hrules m, hrefs m, hcombinators m]
  exact congrArg (fun s => Except.ok (mk t.rules t.references s)) t.combinators.ofList_toList

end SymbolTable

namespace Grammar

/-- All positions of the grammar fit, and no name has two groups in its table. -/
structure Fits (g : Grammar) : Prop where
  declarations : ∀ d ∈ g.declarations, d.Fits
  code : ∀ b ∈ g.code, b.Fits
  analysis : ∀ t ∈ g.analysis, t.Fits

theorem reads_toJson {g : Grammar} (h : g.Fits) : Grammar.shape.Reads g.toJson g := by
  intro m
  obtain ⟨declarations, code, analysis⟩ := g
  have hds : (Shape.list Declaration.shape).Reads (.array (declarations.map Declaration.toJson))
      declarations := Shape.reads_list fun d hd => Declaration.reads_toJson (h.declarations d hd)
  have hcode : ∀ b ∈ code, Shape.nullable CodeBlock.shape m b.toJson = .ok (some b) :=
    fun b hb => CodeBlock.reads_some (h.code b hb) m
  have htable : ∀ t ∈ analysis, Shape.nullable SymbolTable.shape m t.toJson = .ok (some t) :=
    fun t ht => Shape.reads_nullable (SymbolTable.reads_toJson (h.analysis t ht)) nofun m
  -- Each of the two optional fields is absent or present.
  simp only [shape, Shape.Record.shape, toJson, record, List.foldlM_append, List.foldlM_cons,
    List.foldlM_nil, hds m]
  rcases code with _ | b
  · rcases analysis with _ | t
    · rfl
    · simp only [Option.map_some, Option.map_none, optionalField, List.foldlM_cons, List.foldlM_nil,
        htable t rfl]
      rfl
  · rcases analysis with _ | t
    · simp only [Option.map_some, Option.map_none, optionalField, List.foldlM_cons, List.foldlM_nil,
        hcode b rfl]
      rfl
    · simp only [Option.map_some, optionalField, List.foldlM_cons, List.foldlM_nil, hcode b rfl,
        htable t rfl]
      rfl

end Grammar

/-- **What is written is read back**, in whatever manner it is read: every value of every type of
the grammar, with its order of declarations, rules, groups, occurrences, forms and comments. -/
theorem shape_toJson (m : Manner) :
    (∀ g : Grammar, g.Fits → Grammar.shape m g.toJson = .ok g) ∧
    (∀ d : Declaration, d.Fits → Declaration.shape m d.toJson = .ok d) ∧
    (∀ e : Expr, e.Fits → Expr.shape m e.toJson = .ok e) ∧
    (∀ b : CodeBlock, b.Fits → CodeBlock.shape m b.toJson = .ok b) ∧
    (∀ t : SymbolTable, t.Fits → SymbolTable.shape m t.toJson = .ok t) ∧
    (∀ p : Position, p.Fits → Position.shape m p.toJson = .ok p) ∧
    ∀ c : Combinator, Shape.bareName Combinator.table m (.text c.name) = .ok c :=
  ⟨fun _ h => Grammar.reads_toJson h m, fun _ h => Declaration.reads_toJson h m,
    fun _ h => Expr.reads_toJson h m, fun _ h => CodeBlock.reads_toJson h m,
    fun _ h => SymbolTable.reads_toJson h m, fun _ h => Position.reads_toJson h m,
    fun c => c.reads_name m⟩

/-- A grammar with every kind of expression, an annotated block of code and a table whose groups are
not in the order of their names. -/
def writtenGrammar : Grammar where
  declarations :=
    [{ name := "start", index := ⟨2, 1⟩
       expr := .choice [.sequence [.nonterminal "b" ⟨2, 10⟩, .primary (.literal "x") (some .oneOrMore)],
        .primary .any none, .sequence []]
       code := some
        { code := "node", index := ⟨2, 30⟩
          annotations := some
            { parsed := [⟨.expression, "node", ⟨2, 30⟩⟩], comments := [⟨.line, "// x", ⟨2, 35⟩⟩]
              usedArgs := .ofList ["node"] } } }]
  code := some (.passThrough ⟨1, 1⟩)
  analysis := some
    { rules := [{ name := "start", index := ⟨2, 1⟩ }]
      references := [⟨"b", [⟨2, 10⟩, ⟨1, 4⟩]⟩, ⟨"a", []⟩]
      combinators := .ofList [.sequence, .choice] }

theorem writtenGrammar_fits : writtenGrammar.Fits := by
  have hexpr : ∀ d ∈ writtenGrammar.declarations, d.expr.Fits := by
    simp only [writtenGrammar, List.forall_mem_singleton, Expr.Fits]
    decide
  have hcode : ∀ d ∈ writtenGrammar.declarations, ∀ b ∈ d.code, b.Fits := by
    simp only [writtenGrammar, List.forall_mem_singleton, Option.mem_some_iff, forall_eq',
      CodeBlock.Fits, CodeAnnotations.Fits]
    decide
  have htable : ∀ t ∈ writtenGrammar.analysis, t.Fits := by
    rintro _ ⟨⟩
    exact ⟨List.forall_mem_singleton.mpr ⟨by decide, nofun⟩, by decide, by decide⟩
  refine ⟨List.forall_mem_singleton.mpr ⟨by decide, ?_, ?_⟩, ?_, htable⟩
  · exact hexpr _ List.mem_cons_self
  · exact hcode _ List.mem_cons_self
  · rintro _ ⟨⟩
    exact ⟨by decide, nofun⟩

theorem shape_toJson_sample :
    writtenGrammar.Fits ∧ Grammar.shape .direct writtenGrammar.toJson = .ok writtenGrammar :=
  ⟨writtenGrammar_fits, (shape_toJson .direct).1 writtenGrammar writtenGrammar_fits⟩

end PegCheck
