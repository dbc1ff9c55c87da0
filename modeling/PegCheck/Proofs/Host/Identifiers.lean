import PegCheck.Analysis.Validate
import PegCheck.Proofs.Analysis.Run
import PegCheck.Proofs.Host.Comments
import PegCheck.Proofs.Host.Tokens

/-!
# The parameters that code refers to

The parameters in use are looked for among the tokens of a block, and the tokens are not the text.
An identifier of the text that stands outside comments and literals is a token, whatever groups it
is nested in, and no text inside a comment or a literal is one. But two kinds of token have the kind
of an identifier without being one in the text: the name of a lifetime, which follows a lone quote,
and the word `doc` of the attribute that a documentation comment stands for.

* `Occurs`: a name stands in a source as an identifier, or after a lone quote.
* `ident_mem_tokens_iff`: the identifiers among the tokens of a piece.
* **`mem_usedArgs_iff`**: which parameters are recorded for a block that is accepted.
* `usedArgs_documentation`: a parameter `doc` is recorded for a block that does not mention it.
-/

namespace PegCheck.Host

open Lexer

/-! ## Identifiers in a source -/

/-- The name stands in the source between the texts of some pieces before it and some after it, and
nothing there continues it. So it is part of no comment and of no literal. -/
structure StandsBetween (source : List Char) (name : String) (earlier later : List Piece) :
    Prop where
  pieces : ∃ place, (pieces source).1 = earlier ++ ⟨.ident, place, name.toList⟩ :: later
  source : source = earlier.flatMap Piece.text ++ (name.toList ++ later.flatMap Piece.text)
  form : IsIdentifier name.toList (later.flatMap Piece.text)

/-- The name stands in the source as an identifier, or as the name of a lifetime, which comes right
after a lone quote. -/
def Occurs (source : List Char) (lifetime : Bool) (name : String) : Prop :=
  ∃ earlier later, StandsBetween source name earlier later ∧
    earlier.getLast?.any Piece.isQuote = lifetime

/-- What a piece in the middle of a source may be. -/
theorem Lexer.Cuts.isPiece {place : Place} {cs : List Char} {earlier later : List Piece} {p : Piece}
    (h : Cuts place cs (earlier ++ p :: later)) :
    IsPiece p.kind p.text (later.flatMap Piece.text) := by
  induction earlier generalizing place cs with
  | nil =>
    cases h with
    | cons _ _ hpiece hlater => exact hlater.eq_flatMap ▸ hpiece
  | cons q earlier ih =>
    cases h with
    | cons _ _ _ hlater => exact ih hlater

theorem isIdentifier_of_isPiece {text after : List Char} (h : IsPiece .ident text after) :
    IsIdentifier text after := by
  cases h with
  | delimiter hc =>
    obtain ⟨d, opening, close, -, ⟨hkind, -⟩ | ⟨hkind, -⟩⟩ := delimiter?_eq_some hc <;>
      nomatch hkind
  | ident hident => exact hident

theorem pieces_eq_flatMap {source : List Char} (h : (pieces source).2 = none) :
    source = (pieces source).1.flatMap Piece.text := by
  rcases cuts_pieces h with hcuts | ⟨rest, later, rfl, hpieces, hcuts⟩
  · exact hcuts.eq_flatMap
  · rw [hpieces, List.flatMap_cons, ← hcuts.eq_flatMap]
    rfl

/-- A piece that is an identifier stands in the source as one. -/
theorem standsBetween {source : List Char} {earlier later : List Piece} {p : Piece}
    (h : (pieces source).2 = none) (hpieces : (pieces source).1 = earlier ++ p :: later)
    (hkind : p.kind = .ident) : StandsBetween source (String.ofList p.text) earlier later := by
  obtain ⟨kind, place, text⟩ := p
  subst hkind
  refine ⟨⟨place, by rw [hpieces, String.toList_ofList]⟩, ?_, ?_⟩
  · rw [String.toList_ofList]
    refine (pieces_eq_flatMap h).trans ?_
    rw [hpieces, List.flatMap_append, List.flatMap_cons]
  · rw [String.toList_ofList]
    apply isIdentifier_of_isPiece
    rcases cuts_pieces h with hcuts | ⟨rest, later', rfl, hmark, hcuts⟩
    · rw [hpieces] at hcuts
      exact hcuts.isPiece
    · -- A byte order mark is no identifier, so it is among the earlier pieces.
      cases earlier with
      | nil =>
        rw [hpieces] at hmark
        nomatch (List.cons.inj hmark).1
      | cons q earlier =>
        rw [hpieces] at hmark
        obtain ⟨-, rfl⟩ := List.cons.inj hmark
        exact hcuts.isPiece

theorem exists_occurs_iff {source : List Char} (h : (pieces source).2 = none) (name : String) :
    (∃ p ∈ (pieces source).1, p.kind = .ident ∧ String.ofList p.text = name) ↔
      ∃ lifetime, Occurs source lifetime name := by
  constructor
  · rintro ⟨p, hp, hkind, rfl⟩
    obtain ⟨earlier, later, hpieces⟩ := List.append_of_mem hp
    exact ⟨_, earlier, later, standsBetween h hpieces hkind, rfl⟩
  · rintro ⟨-, earlier, later, ⟨⟨place, hpieces⟩, -, -⟩, -⟩
    exact ⟨_, hpieces ▸ List.mem_append_right _ List.mem_cons_self, rfl, String.ofList_toList⟩

/-! ## Identifiers among the tokens -/

/-- **The identifiers of a piece**: its text if it is an identifier, and the name of the attribute
if it is a documentation comment. -/
theorem ident_mem_tokens_iff (start : Position) (p : Piece) (name : String) :
    (∃ t ∈ p.tokens start, t.kind = .ident ∧ t.text = name) ↔
      (p.kind = .ident ∧ String.ofList p.text = name) ∨
        (p.isDocumentation = true ∧ name = "doc") := by
  obtain ⟨kind, place, text⟩ := p
  cases kind with
  | blank | comment =>
    simp [Piece.tokens, Piece.isDocumentation, Tree.ofPiece, Tree.flattenAll]
  | opening d | closing d =>
    simp [Piece.tokens, Piece.isDocumentation, Delimiter.openingTokens, Delimiter.closingTokens]
  | ident | literal =>
    simp [Piece.tokens, Piece.isDocumentation, Tree.ofPiece, Tree.flattenAll, Tree.flatten]
  | punct joint =>
    have hnone : ∀ t ∈ Tree.flattenAll start (text.map fun c => .punct c joint place),
        t.kind ≠ .ident := by
      intro t ht
      induction text with
      | nil => cases ht
      | cons c text ih =>
        rcases List.mem_cons.mp ht with rfl | ht
        · intro hkind
          cases hkind
        · exact ih ht
    simp only [Piece.tokens, Piece.isDocumentation, Tree.ofPiece, reduceCtorEq, false_and, or_false,
      iff_false, not_exists, not_and]
    exact fun t ht hkind => absurd hkind (hnone t ht)
  | documentation inner body =>
    cases inner <;>
      simp [Piece.tokens, Piece.isDocumentation, Tree.ofPiece, Tree.ofDocumentation,
        Tree.flattenAll, Tree.flatten, Delimiter.marks?, eq_comm]

/-- The identifiers among the tokens of a snippet that is accepted. -/
theorem ident_mem_parse_iff {code : String} {start : Position} {parsed : ParsedCode}
    (h : parse code start = .ok parsed) (name : String) :
    (∃ t ∈ parsed.tokens, t.kind = .ident ∧ t.text = name) ↔
      (∃ lifetime, Occurs code.toList lifetime name) ∨
        ((∃ p ∈ (pieces code.toList).1, p.isDocumentation = true) ∧ name = "doc") := by
  obtain ⟨trees, forms, hread, -, rfl⟩ := exists_trees_of_parse h
  obtain ⟨hfault, htokens⟩ := Tree.flattenAll_read start hread
  rw [htokens, ← exists_occurs_iff hfault]
  constructor
  · rintro ⟨t, ht, hname⟩
    obtain ⟨p, hp, ht⟩ := List.mem_flatMap.mp ht
    rcases (ident_mem_tokens_iff start p name).mp ⟨t, ht, hname⟩ with hident | ⟨hdoc, hname⟩
    · exact .inl ⟨p, hp, hident⟩
    · exact .inr ⟨⟨p, hp, hdoc⟩, hname⟩
  · have hpiece : ∀ p ∈ (pieces code.toList).1,
        (∃ t ∈ p.tokens start, t.kind = .ident ∧ t.text = name) →
          ∃ t ∈ (pieces code.toList).1.flatMap (Piece.tokens start), t.kind = .ident ∧
            t.text = name :=
      fun p hp ⟨t, ht, hname⟩ => ⟨t, List.mem_flatMap.mpr ⟨p, hp, ht⟩, hname⟩
    rintro (⟨p, hp, hident⟩ | ⟨⟨p, hp, hdoc⟩, hname⟩)
    · exact hpiece p hp ((ident_mem_tokens_iff start p name).mpr (.inl hident))
    · exact hpiece p hp ((ident_mem_tokens_iff start p name).mpr (.inr ⟨hdoc, hname⟩))

/-! ## The parameters in use -/

/-- A block that is accepted has its parameters in use recorded. -/
theorem exists_annotations {v : Validator} {b b' : CodeBlock}
    (h : v.validate (some b) = .annotated b') :
    ∃ parsed annotations, v.frontEnd.parse b.code b.index = .ok parsed ∧
      b'.annotations = some annotations ∧ annotations.usedArgs = v.params.usedIn parsed.tokens := by
  cases hidentity : b.identity with
  | true => simp [Validator.validate, hidentity] at h
  | false =>
    cases hparse : v.frontEnd.parse b.code b.index with
    | error fault => simp [Validator.validate, hidentity, hparse] at h
    | ok parsed =>
      simp only [Validator.validate, hidentity, hparse, Bool.false_eq_true, if_false,
        Outcome.annotated.injEq] at h
      subst h
      exact ⟨parsed, _, rfl, rfl, rfl⟩

/-- The parameters in use that a validator records for a block, if it accepts it. -/
def recorded (v : Validator) (b : CodeBlock) : Option (List String) :=
  match v.validate (some b) with
  | .annotated b' => b'.annotations.map (·.usedArgs.toList)
  | _ => none

theorem annotated_of_recorded {v : Validator} {b : CodeBlock} {names : List String}
    (h : recorded v b = some names) :
    ∃ b', v.validate (some b) = .annotated b' ∧
      b'.annotations.map (·.usedArgs.toList) = some names := by
  unfold recorded at h
  split at h
  · exact ⟨_, ‹_›, h⟩
  · nomatch h

/-- **The parameters recorded for a block** that the default front end accepts: a name is among them
if it is a parameter and stands in the text as an identifier, outside comments and literals. Beyond
that, the name of a lifetime is taken for an identifier, and every documentation comment counts as a
mention of the name `doc`. -/
theorem mem_usedArgs_iff {params : ImplicitParams} {b b' : CodeBlock}
    (h : Validator.validate ⟨frontEnd, params⟩ (some b) = .annotated b') :
    ∃ annotations, b'.annotations = some annotations ∧ ∀ name,
      name ∈ annotations.usedArgs ↔
        name ∈ params.names ∧
          (Occurs b.code.toList false name ∨ Occurs b.code.toList true name ∨
            ((∃ p ∈ (pieces b.code.toList).1, p.isDocumentation = true) ∧ name = "doc")) := by
  obtain ⟨parsed, annotations, hparsed, hannotations, hused⟩ := exists_annotations h
  refine ⟨annotations, hannotations, fun name => ?_⟩
  rw [hused, ImplicitParams.usedIn_eq, OrderedSet.mem_filter, List.any_eq_true]
  simp only [Bool.and_eq_true, beq_iff_eq]
  rw [ident_mem_parse_iff hparsed name, Bool.exists_bool, or_assoc]

/-- A block with two parameters nested in groups and one as the name of a lifetime. Others stand
only in a literal, in a comment or with another spelling. -/
def nestedBlock : CodeBlock where
  code := "'idx: loop \x7b f([node, r#raw], \"inner\") \x7d // inner"
  index := ⟨3, 7⟩
  identity := false
  annotations := none

/-- Parameters for `nestedBlock`. -/
def nestedParams : ImplicitParams := .ofList ["node", "idx", "inner", "r#raw", "raw"]

theorem mem_usedArgs_iff_sample :
    ∃ b', Validator.validate ⟨frontEnd, nestedParams⟩ (some nestedBlock) = .annotated b' ∧
      b'.annotations.map (·.usedArgs.toList) = some ["idx", "node", "r#raw"] ∧
      ∃ annotations, b'.annotations = some annotations ∧ ∀ name,
        name ∈ annotations.usedArgs ↔
          name ∈ nestedParams.names ∧
            (Occurs nestedBlock.code.toList false name ∨ Occurs nestedBlock.code.toList true name ∨
              ((∃ p ∈ (pieces nestedBlock.code.toList).1, p.isDocumentation = true) ∧
                name = "doc")) := by
  have hshown : recorded ⟨frontEnd, nestedParams⟩ nestedBlock = some ["idx", "node", "r#raw"] := by
    decide +kernel
  obtain ⟨b', hblock, hused⟩ := annotated_of_recorded hshown
  exact ⟨b', hblock, hused, mem_usedArgs_iff hblock⟩

/-- A call under a documentation comment. -/
def documentedBlock : CodeBlock where
  code := "/// x\nf()"
  index := .origin
  identity := false
  annotations := none

/-- **A documentation comment counts as a mention** of the name `doc`, which stands nowhere in the
text. -/
theorem usedArgs_documentation :
    recorded ⟨frontEnd, .ofList ["doc"]⟩ documentedBlock = some ["doc"] ∧
      ∀ lifetime, ¬ Occurs documentedBlock.code.toList lifetime "doc" := by
  refine ⟨by decide +kernel, fun lifetime h => ?_⟩
  have hfault : (pieces documentedBlock.code.toList).2 = none := by decide +kernel
  have hnone : ¬ ∃ p ∈ (pieces documentedBlock.code.toList).1,
      p.kind = .ident ∧ String.ofList p.text = "doc" := by decide +kernel
  exact hnone ((exists_occurs_iff hfault "doc").mpr ⟨lifetime, h⟩)

end PegCheck.Host
