import PegCheck.Host.Front
import PegCheck.Proofs.Host.Slices
import Mathlib.Data.List.Chain

/-!
# Tokens stand where they say

Reading a snippet loses no token on the way: the tokens of its trees are those of its pieces in
order. A token that stems from no documentation comment is the text of its piece, so it can be found
in the source again, at the offset that belongs to its position.

* `flattenAll_nest`: the tokens of trees are those of the pieces that the trees are built from.
* `Gap`: blanks and comments; `exists_places`: between the tokens of a text there is nothing else.
* **`parse_tokens`**: where the tokens of a snippet stand in it; its comments and its end are
  measured in the same way.
-/

namespace PegCheck.Host

/-! ## From pieces to tokens -/

namespace Delimiter

/-- The token with which a delimiter opens, if it is visible. -/
def openingTokens (start : Position) (d : Delimiter) (place : Place) : List HostToken :=
  d.marks?.toList.map fun marks => ⟨.delimiter, marks.1, start.offsetBy place⟩

/-- The token with which a delimiter closes, if it is visible. -/
def closingTokens (start : Position) (d : Delimiter) (place : Place) : List HostToken :=
  d.marks?.toList.map fun marks => ⟨.delimiter, marks.2, start.offsetBy place⟩

end Delimiter

namespace Piece

/-- The tokens of a piece of a snippet that begins at `start`. -/
def tokens (start : Position) (p : Piece) : List HostToken :=
  match p.kind with
  | .opening d => d.openingTokens start p.place
  | .closing d => d.closingTokens start p.place
  | _ => Tree.flattenAll start (Tree.ofPiece p)

/-- Is the piece a documentation comment? -/
def isDocumentation (p : Piece) : Bool :=
  match p.kind with
  | .documentation .. => true
  | _ => false

end Piece

namespace Tree

variable {start : Position}

theorem flattenAll_append (a b : List Tree) :
    flattenAll start (a ++ b) = flattenAll start a ++ flattenAll start b := by
  induction a with
  | nil => rfl
  | cons t ts ih => rw [List.cons_append, flattenAll, flattenAll, ih, List.append_assoc]

theorem flatten_group (d : Delimiter) (content : List Tree) (opened closed : Place) :
    (group d content opened closed).flatten start =
      d.openingTokens start opened ++
        (flattenAll start content ++ d.closingTokens start closed) := by
  rw [flatten, Delimiter.openingTokens, Delimiter.closingTokens]
  cases d <;> simp [Delimiter.marks?]

/-- The tokens before the innermost of the open groups, and its opening token. -/
def openTokens (start : Position) : List Frame → List HostToken
  | [] => []
  | f :: fs =>
    openTokens start fs ++
      (flattenAll start f.before.reverse ++ f.delimiter.openingTokens start f.opened)

/-- **No token is lost in the trees**: the tokens of the trees that are built from pieces are those
before the first piece, then those of the pieces. -/
theorem flattenAll_nest {frames : List Frame} {done trees : List Tree} {fault : Option Place}
    {ps : List Piece} (h : nest frames done fault ps = .ok trees) :
    fault = none ∧
      flattenAll start trees =
        openTokens start frames ++
          (flattenAll start done.reverse ++ ps.flatMap (·.tokens start)) := by
  induction ps generalizing frames done with
  | nil =>
    unfold nest at h
    split at h
    · cases h
    · cases h
      exact ⟨rfl, by rw [openTokens, List.flatMap_nil, List.append_nil]; rfl⟩
    · cases h
  | cons p ps ih =>
    rw [List.flatMap_cons]
    unfold nest at h
    split at h
    · rename_i d hkind
      obtain ⟨hfault, htokens⟩ := ih h
      refine ⟨hfault, ?_⟩
      rw [htokens, Piece.tokens, hkind, openTokens]
      simp only [List.reverse_nil, flattenAll, List.append_assoc, List.nil_append]
    · rename_i d hkind
      split at h
      · cases h
      · rename_i f fs
        split at h
        · rename_i hd
          obtain ⟨hfault, htokens⟩ := ih h
          refine ⟨hfault, ?_⟩
          rw [htokens, Piece.tokens, hkind, openTokens, List.reverse_cons, flattenAll_append,
            flattenAll, flattenAll, flatten_group, hd]
          simp only [List.append_assoc, List.nil_append]
        · cases h
    · rename_i hopening hclosing
      obtain ⟨hfault, htokens⟩ := ih h
      refine ⟨hfault, ?_⟩
      have hpiece : p.tokens start = flattenAll start (ofPiece p) := by
        unfold Piece.tokens
        split
        · exact absurd ‹_› (hopening _)
        · exact absurd ‹_› (hclosing _)
        · rfl
      rw [htokens, List.reverse_append, List.reverse_reverse, flattenAll_append, hpiece,
        List.append_assoc]

theorem flattenAll_read {source : List Char} {trees : List Tree} (start : Position)
    (h : read source = .ok trees) :
    (Lexer.pieces source).2 = none ∧
      flattenAll start trees = (Lexer.pieces source).1.flatMap (·.tokens start) := by
  unfold read at h
  exact flattenAll_nest h

end Tree

/-! ## From pieces to the text of tokens -/

/-- The kind of the token that is the text of a piece of some kind; blanks and comments are none. -/
def PieceKind.tokenKind? : PieceKind → Option TokenKind
  | .blank => none
  | .comment => none
  | .documentation .. => none
  | .opening _ => some .delimiter
  | .closing _ => some .delimiter
  | .ident => some .ident
  | .punct _ => some .punct
  | .literal => some .literal

/-- The token that is the text of a piece. -/
def Piece.token? (start : Position) (p : Piece) : Option HostToken :=
  p.kind.tokenKind?.map fun kind => ⟨kind, String.ofList p.text, start.offsetBy p.place⟩

open Lexer

theorem delimiter?_eq_some {c : Char} {kind : PieceKind} (h : delimiter? c = some kind) :
    ∃ (d : Delimiter) (opening close : String), d.marks? = some (opening, close) ∧
      (kind = .opening d ∧ opening = String.singleton c ∨
        kind = .closing d ∧ close = String.singleton c) := by
  unfold delimiter? at h
  split at h <;> cases h
  · exact ⟨.parenthesis, _, _, rfl, .inl ⟨rfl, rfl⟩⟩
  · exact ⟨.bracket, _, _, rfl, .inl ⟨rfl, rfl⟩⟩
  · exact ⟨.brace, _, _, rfl, .inl ⟨rfl, rfl⟩⟩
  · exact ⟨.parenthesis, _, _, rfl, .inr ⟨rfl, rfl⟩⟩
  · exact ⟨.bracket, _, _, rfl, .inr ⟨rfl, rfl⟩⟩
  · exact ⟨.brace, _, _, rfl, .inr ⟨rfl, rfl⟩⟩

/-- A piece that is no documentation comment is at most one token, and that is its text. -/
theorem tokens_eq {kind : PieceKind} {text after : List Char} (h : IsPiece kind text after)
    (start : Position) (place : Place)
    (hdoc : Piece.isDocumentation ⟨kind, place, text⟩ = false) :
    Piece.tokens start ⟨kind, place, text⟩ = (Piece.token? start ⟨kind, place, text⟩).toList := by
  cases h with
  | blank => rfl
  | comment => rfl
  | documentation => nomatch hdoc
  | faultMark => rfl
  | @delimiter c _ _ hc =>
    obtain ⟨d, opening, close, hmarks, ⟨rfl, rfl⟩ | ⟨rfl, rfl⟩⟩ := delimiter?_eq_some hc
    · simp [Piece.tokens, Piece.token?, Delimiter.openingTokens, hmarks, PieceKind.tokenKind?]
    · simp [Piece.tokens, Piece.token?, Delimiter.closingTokens, hmarks, PieceKind.tokenKind?]
  | literal => rfl
  | quote => rfl
  | punct => rfl
  | ident => rfl

/-- A piece without a token is a blank or a comment. -/
theorem isGap_of_isPiece {kind : PieceKind} {text after : List Char} (h : IsPiece kind text after)
    (hkind : kind.tokenKind? = none) :
    (∃ c, text = [c] ∧ isBlank c = true) ∨ IsComment text after := by
  cases h with
  | blank hc => exact .inl ⟨_, rfl, hc⟩
  | comment hcomment => exact .inr hcomment
  | documentation hcomment => exact .inr hcomment
  | delimiter hc =>
    obtain ⟨d, opening, close, -, ⟨rfl, -⟩ | ⟨rfl, -⟩⟩ := delimiter?_eq_some hc <;> nomatch hkind
  | faultMark | literal | quote | punct | ident => nomatch hkind

/-- The tokens that stem from no documentation comment are the texts of pieces. -/
theorem flatMap_tokens {place : Place} {cs : List Char} {ps : List Piece}
    (h : Cuts place cs ps) (start : Position) :
    (ps.filter fun p => !p.isDocumentation).flatMap (Piece.tokens start) =
      ps.filterMap (Piece.token? start) := by
  rw [List.filterMap_eq_flatMap_toList]
  induction h with
  | nil => rfl
  | @cons place kind text after later htext hblank hpiece hlater ih =>
    rw [List.flatMap_cons, List.filter_cons]
    cases hdoc : Piece.isDocumentation ⟨kind, place, text⟩ with
    | true =>
      have hnone : Piece.token? start ⟨kind, place, text⟩ = none := by
        cases kind with
        | documentation => rfl
        | _ => nomatch hdoc
      rw [hnone, ← ih]
      rfl
    | false =>
      rw [← tokens_eq hpiece start place hdoc, ← ih]
      rfl

/-! ## Where the tokens are -/

/-- A text stands at byte `offset` of a source that begins at `start`, and that is its position. -/
def StandsAt (source : List Char) (start : Position) (offset : Nat) (text : String)
    (position : Position) : Prop :=
  ∃ before after, source = before ++ (text.toList ++ after) ∧ offset = byteLength before ∧
    positionAt? source offset start = some position

/-- Blanks and comments. A line comment is part of a gap only with the newline that ends it. -/
inductive Gap : List Char → Prop where
  | nil : Gap []
  | blank {c : Char} {rest : List Char} (hc : isBlank c = true) (hrest : Gap rest) : Gap (c :: rest)
  | line {body rest : List Char} (hbody : '\n' ∉ body) (hrest : Gap ('\n' :: rest)) :
      Gap ('/' :: '/' :: (body ++ '\n' :: rest))
  | block {tail rest : List Char} (htail : BlockTail tail) (hrest : Gap rest) :
      Gap ('/' :: '*' :: (tail ++ rest))

/-- There is a gap from the end of the first token to the beginning of the second. -/
def GapBetween (source : List Char) (first second : Nat × HostToken) : Prop :=
  ∃ before gap after, source = before ++ (first.2.text.toList ++ (gap ++ after)) ∧ Gap gap ∧
    first.1 = byteLength before ∧ second.1 = byteLength (before ++ (first.2.text.toList ++ gap))

/-- Tokens with the offsets at which they stand one after the other in a source, with nothing but
gaps between them. -/
structure Placed (source : List Char) (start : Position) (tokens : List (Nat × HostToken)) :
    Prop where
  ascending : tokens.Pairwise (·.1 < ·.1)
  stands : ∀ t ∈ tokens, StandsAt source start t.1 t.2.text t.2.position
  gaps : tokens.IsChain (GapBetween source)

/-- The text after `before` begins with a gap, and at its end, not in a blank, is byte `offset`. -/
def LeadsTo (before cs : List Char) (offset : Nat) : Prop :=
  ∃ gap after, cs = gap ++ after ∧ Gap gap ∧ offset = byteLength (before ++ gap) ∧
    ∃ c ∈ after.head?, isBlank c = false

theorem standsAt_append (before text after : List Char) (start : Position) :
    StandsAt (before ++ (text ++ after)) start (byteLength before) (String.ofList text)
      (start.offsetBy (Place.origin.after before)) := by
  refine ⟨before, after, by rw [String.toList_ofList], rfl, ?_⟩
  rw [positionAt?, beforeByte?_append]
  rfl

/-- A comment before a gap is part of the gap. -/
theorem Gap.comment {text gap after : List Char} (hcomment : IsComment text (gap ++ after))
    (hgap : Gap gap) (hafter : ∃ c ∈ after.head?, isBlank c = false) : Gap (text ++ gap) := by
  cases hcomment with
  | @line body _ hbody hnewline =>
    cases gap with
    | nil =>
      obtain ⟨c, hc, hblank⟩ := hafter
      rw [hnewline c hc] at hblank
      nomatch hblank
    | cons c gap =>
      obtain rfl := hnewline c rfl
      exact .line hbody hgap
  | block htail => exact .block htail hgap

theorem LeadsTo.here {before text cs : List Char} (htext : text ≠ [])
    (hblank : ¬ ∃ c ∈ text.head?, isBlank c = true) :
    LeadsTo before (text ++ cs) (byteLength before) := by
  obtain ⟨c, text, rfl⟩ := List.exists_cons_of_ne_nil htext
  refine ⟨[], _, rfl, .nil, by rw [List.append_nil], c, rfl, ?_⟩
  exact Bool.eq_false_iff.mpr fun hc => hblank ⟨c, rfl, hc⟩

theorem LeadsTo.step {before text cs : List Char} {offset : Nat} {kind : PieceKind}
    (hpiece : IsPiece kind text cs) (hkind : kind.tokenKind? = none)
    (h : LeadsTo (before ++ text) cs offset) : LeadsTo before (text ++ cs) offset := by
  obtain ⟨gap, after, rfl, hgap, hoffset, hafter⟩ := h
  refine ⟨text ++ gap, after, (List.append_assoc ..).symm, ?_, by rw [hoffset, List.append_assoc],
    hafter⟩
  rcases isGap_of_isPiece hpiece hkind with ⟨c, rfl, hc⟩ | hcomment
  · exact .blank hc hgap
  · exact .comment hcomment hgap hafter

/-- One more token may be placed in front of those after it. -/
theorem Placed.cons {before text after : List Char} {start : Position}
    {tokens : List (Nat × HostToken)} (h : Placed (before ++ (text ++ after)) start tokens)
    (htext : text ≠ []) (hfrom : ∀ t ∈ tokens, byteLength (before ++ text) ≤ t.1)
    (hhead : ∀ t ∈ tokens.head?, LeadsTo (before ++ text) after t.1) (kind : TokenKind) :
    Placed (before ++ (text ++ after)) start
      ((byteLength before,
        ⟨kind, String.ofList text, start.offsetBy (Place.origin.after before)⟩) :: tokens) where
  ascending := by
    refine List.pairwise_cons.mpr ⟨fun t ht => ?_, h.ascending⟩
    have hle := hfrom t ht
    have hpos := byteLength_pos htext
    rw [byteLength_append] at hle
    dsimp only
    omega
  stands := List.forall_mem_cons.mpr ⟨standsAt_append .., h.stands⟩
  gaps := by
    refine h.gaps.cons fun t ht => ?_
    obtain ⟨gap, rest, rfl, hgap, hoffset, -⟩ := hhead t ht
    refine ⟨before, gap, rest, ?_, hgap, rfl, ?_⟩
    · rw [String.toList_ofList]
    · rw [String.toList_ofList, hoffset, List.append_assoc]

/-- **Between tokens there are only gaps.** -/
theorem exists_placed {place : Place} {cs : List Char} {ps : List Piece} (h : Cuts place cs ps)
    (start : Position) {before : List Char} (hplace : place = Place.origin.after before) :
    ∃ tokens, tokens.map Prod.snd = ps.filterMap (Piece.token? start) ∧
      Placed (before ++ cs) start tokens ∧ (∀ t ∈ tokens, byteLength before ≤ t.1) ∧
      ∀ t ∈ tokens.head?, LeadsTo before cs t.1 := by
  induction h generalizing before with
  | nil => exact ⟨[], rfl, ⟨.nil, nofun, .nil⟩, nofun, nofun⟩
  | @cons place kind text after later htext hblank hpiece hlater ih =>
    subst hplace
    obtain ⟨tokens, hmap, hplaced, hfrom, hhead⟩ := ih (Place.after_append ..).symm
    rw [List.append_assoc] at hplaced
    have hle : ∀ t ∈ tokens, byteLength before ≤ t.1 := fun t ht =>
      le_trans (by rw [byteLength_append]; exact Nat.le_add_right ..) (hfrom t ht)
    cases hkind : kind.tokenKind? with
    | none =>
      have hnone : Piece.token? start ⟨kind, Place.origin.after before, text⟩ = none := by
        rw [Piece.token?, hkind]
        rfl
      exact ⟨tokens, by rw [List.filterMap_cons_none hnone, hmap], hplaced, hle,
        fun t ht => (hhead t ht).step hpiece hkind⟩
    | some k =>
      have hsome : Piece.token? start ⟨kind, Place.origin.after before, text⟩ =
          some ⟨k, String.ofList text, start.offsetBy (Place.origin.after before)⟩ := by
        rw [Piece.token?, hkind]
        rfl
      refine ⟨_ :: tokens, ?_, hplaced.cons htext hfrom hhead k,
        List.forall_mem_cons.mpr ⟨le_rfl, hle⟩, ?_⟩
      · rw [List.map_cons, hmap, List.filterMap_cons_some hsome]
      · rintro t ⟨⟩
        exact .here htext fun hc => by rw [hblank hc] at hkind; nomatch hkind

/-- The tokens of a source that stem from no documentation comment. -/
theorem exists_placed_pieces {source : List Char} (h : (pieces source).2 = none)
    (start : Position) :
    ∃ tokens, tokens.map Prod.snd =
        ((pieces source).1.filter fun p => !p.isDocumentation).flatMap (Piece.tokens start) ∧
      Placed source start tokens := by
  rcases cuts_pieces h with hcuts | ⟨rest, later, rfl, hpieces, hcuts⟩
  · obtain ⟨tokens, hmap, hplaced, -⟩ := exists_placed hcuts start (Place.origin.after_nil).symm
    exact ⟨tokens, hmap.trans (flatMap_tokens hcuts start).symm, hplaced⟩
  · obtain ⟨tokens, hmap, hplaced, -⟩ := exists_placed hcuts start rfl
    refine ⟨tokens, ?_, hplaced⟩
    rw [hpieces, hmap, ← flatMap_tokens hcuts start]
    rfl

/-! ## Where the comments are -/

/-- Comments stand where they say. -/
theorem standsAt_scan {source : List Char} {start : Position} {c : Comment}
    (h : c ∈ Comments.scan source start) :
    ∃ offset, StandsAt source start offset c.text c.position := by
  obtain ⟨slices, hmap, hslices, -⟩ := Comments.exists_slices start .origin source [] rfl
  rw [Comments.scan_eq_found, ← hmap] at h
  obtain ⟨s, hs, rfl⟩ := List.mem_map.mp h
  have hof : s.IsOf source (positionAt? source · start) := (hslices s hs).1
  obtain ⟨before, text, after, hsource, hfirst, -, -, hread⟩ := hof.reads
  obtain ⟨returns, rfl⟩ := hread.isPrefix
  rw [List.append_assoc] at hsource
  exact ⟨s.first, before, returns ++ after, hsource, hfirst, hof.position⟩

/-! ## Snippets -/

/-- A snippet that is accepted is made of trees, and the trees of forms. -/
theorem exists_trees_of_parse {code : String} {start : Position} {parsed : ParsedCode}
    (h : parse code start = .ok parsed) :
    ∃ trees forms, Tree.read code.toList = .ok trees ∧ formsOf trees start = .ok forms ∧
      parsed = ⟨Tree.flattenAll start trees, forms, endPosition code.toList start⟩ := by
  unfold parse at h
  dsimp only at h
  split at h
  · nomatch h
  · rename_i trees hread
    split at h
    · nomatch h
    · rename_i forms hforms
      exact ⟨trees, forms, hread, hforms, (Except.ok.inj h).symm⟩

/-- The tokens are those of the pieces of the source. Those that stem from no documentation comment
stand in the source one after the other, with nothing but gaps between them. -/
def TokensOf (source : List Char) (start : Position) (tokens : List HostToken) : Prop :=
  ∃ pieces, Lexer.pieces source = (pieces, none) ∧
    tokens = pieces.flatMap (Piece.tokens start) ∧
    ∃ placed : List (Nat × HostToken),
      placed.map Prod.snd =
        (pieces.filter fun p => !p.isDocumentation).flatMap (Piece.tokens start) ∧
      Placed source start placed

/-- **Where the tokens of a snippet stand.** The tokens of a snippet that stem from no documentation
comment have the positions of the places at which their texts are found, in order and with nothing
but blanks and comments between them. Its comments and its end are measured on the same scale. -/
theorem parse_tokens {code : String} {start : Position} {parsed : ParsedCode}
    (h : parse code start = .ok parsed) :
    TokensOf code.toList start parsed.tokens ∧
    (∀ c ∈ frontEnd.comments code start,
      ∃ offset, StandsAt code.toList start offset c.text c.position) ∧
    positionAt? code.toList (byteLength code.toList) start = some parsed.finish := by
  unfold parse at h
  dsimp only at h
  split at h
  · nomatch h
  · rename_i trees hread
    split at h
    · nomatch h
    · rename_i forms hforms
      cases h
      obtain ⟨hfault, htokens⟩ := Tree.flattenAll_read start hread
      refine ⟨⟨_, Prod.ext rfl hfault, htokens, exists_placed_pieces hfault start⟩,
        fun c hc => standsAt_scan hc, ?_⟩
      have hend := beforeByte?_append code.toList []
      rw [List.append_nil] at hend
      rw [positionAt?, hend]
      rfl

/-- A snippet of two lines with wide characters, a group, a documentation comment and other
comments. -/
def sampleSnippet : String := "/** ß */ é /* ( */ + f(\"ß\n\") // z"

theorem parse_tokens_sample :
    ∃ parsed, parse sampleSnippet ⟨3, 7⟩ = .ok parsed ∧
      (parsed.tokens.drop 6).map (fun t => (t.text, t.position)) =
        [("é", ⟨3, 16⟩), ("+", ⟨3, 26⟩), ("f", ⟨3, 28⟩), ("(", ⟨3, 29⟩), ("\"ß\n\"", ⟨3, 30⟩),
          (")", ⟨4, 2⟩)] ∧
      TokensOf sampleSnippet.toList ⟨3, 7⟩ parsed.tokens ∧
      (∀ c ∈ frontEnd.comments sampleSnippet ⟨3, 7⟩,
        ∃ offset, StandsAt sampleSnippet.toList ⟨3, 7⟩ offset c.text c.position) ∧
      positionAt? sampleSnippet.toList (byteLength sampleSnippet.toList) ⟨3, 7⟩ =
        some parsed.finish := by
  have hshown : (parse sampleSnippet ⟨3, 7⟩).toOption.map (fun parsed =>
      (parsed.tokens.drop 6).map fun t => (t.text, t.position)) =
        some [("é", ⟨3, 16⟩), ("+", ⟨3, 26⟩), ("f", ⟨3, 28⟩), ("(", ⟨3, 29⟩), ("\"ß\n\"", ⟨3, 30⟩),
          (")", ⟨4, 2⟩)] := by decide +kernel
  obtain ⟨parsed, hparsed, hshown⟩ := Option.map_eq_some_iff.mp hshown
  have hok : parse sampleSnippet ⟨3, 7⟩ = .ok parsed := by
    cases h : parse sampleSnippet ⟨3, 7⟩ with
    | error => rw [h] at hparsed; nomatch hparsed
    | ok parsed' => rw [h] at hparsed; exact congrArg _ (Option.some.inj hparsed)
  exact ⟨parsed, hok, hshown, parse_tokens hok⟩

end PegCheck.Host
