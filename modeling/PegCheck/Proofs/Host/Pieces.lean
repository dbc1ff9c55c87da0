import PegCheck.Host.Comments
import PegCheck.Host.Lexer
import PegCheck.Proofs.Host.Literal

/-!
# What pieces look like

A source without a fault is cut into pieces that follow each other without a gap, and what the text
of a piece may be depends on its kind alone.

* `BlockTail`: the rest of a block comment, inner comments included.
* `blockRest?_eq_some`, `blockTail?_eq_some`: to the reader of tokens and to the scanner for
  comments a block comment is the same thing.
* `IsPiece`: the text of a piece of some kind before a given rest; `isPiece_split?`: there are no
  other pieces.
* **`cuts_pieces`**: the pieces of a source without a fault, put together, are the source, and each
  stands where it says.
-/

namespace PegCheck.Host.Lexer

/-! ## Block comments -/

/-- What follows the opening mark of a block comment, up to and including its closing mark. -/
inductive BlockTail : List Char → Prop where
  | close : BlockTail ['*', '/']
  | nest {inner outer : List Char} (hinner : BlockTail inner) (houter : BlockTail outer) :
      BlockTail ('/' :: '*' :: (inner ++ outer))
  | char {c : Char} {rest : List Char} (hopen : ¬ (c = '/' ∧ rest.head? = some '*'))
      (hclose : ¬ (c = '*' ∧ rest.head? = some '/')) (hrest : BlockTail rest) :
      BlockTail (c :: rest)

theorem BlockTail.ne_nil {tail : List Char} (h : BlockTail tail) : tail ≠ [] := by
  cases h <;> exact List.cons_ne_nil _ _

/-- Block comments that are open one around the other are closed one after the other. -/
theorem blockRest?_eq_some {depth : Nat} {cs after : List Char}
    (h : blockRest? depth cs = some after) :
    ∃ tail tails, tails.length = depth ∧ (∀ t ∈ tail :: tails, BlockTail t) ∧
      cs = tail ++ (tails.flatten ++ after) := by
  fun_induction blockRest? depth cs with
  | case1 depth cs ih =>
    obtain ⟨inner, tails, hlength, htails, rfl⟩ := ih h
    obtain ⟨outer, tails, rfl⟩ := List.exists_cons_of_length_eq_add_one hlength
    obtain ⟨hinner, htails⟩ := List.forall_mem_cons.mp htails
    obtain ⟨houter, htails⟩ := List.forall_mem_cons.mp htails
    refine ⟨'/' :: '*' :: (inner ++ outer), tails, by simpa using hlength,
      List.forall_mem_cons.mpr ⟨.nest hinner houter, htails⟩, by simp⟩
  | case2 cs =>
    obtain rfl := Option.some.inj h
    exact ⟨['*', '/'], [], rfl, by simpa using BlockTail.close, rfl⟩
  | case3 cs depth ih =>
    obtain ⟨tail, tails, hlength, htails, rfl⟩ := ih h
    exact ⟨['*', '/'], tail :: tails, by simpa using hlength,
      List.forall_mem_cons.mpr ⟨.close, htails⟩, by simp⟩
  | case4 depth c cs hopen hclose ih =>
    obtain ⟨tail, tails, hlength, htails, rfl⟩ := ih h
    obtain ⟨htail, htails⟩ := List.forall_mem_cons.mp htails
    refine ⟨c :: tail, tails, hlength, List.forall_mem_cons.mpr ⟨.char ?_ ?_ htail, htails⟩, rfl⟩
    · rintro ⟨hc, hhead⟩
      obtain ⟨more, rfl⟩ := List.head?_eq_some_iff.mp hhead
      exact hopen _ hc rfl
    · rintro ⟨hc, hhead⟩
      obtain ⟨more, rfl⟩ := List.head?_eq_some_iff.mp hhead
      exact hclose _ hc rfl
  | case5 => nomatch h

open Comments in
/-- The scanner finds the end of a block comment, and goes on if it was an inner one. -/
theorem blockTail?_append {body : List Char} (h : BlockTail body) (depth : Nat)
    (after : List Char) :
    blockTail? depth (body ++ after) =
      match depth with
      | 0 => some body.length
      | depth + 1 => (blockTail? depth after).map (· + body.length) := by
  induction h generalizing depth after with
  | close => cases depth <;> rfl
  | @nest inner outer _ _ ihInner ihOuter =>
    rw [List.cons_append, List.cons_append, blockTail?, List.append_assoc, ihInner]
    dsimp only
    rw [ihOuter]
    have hlength : ∀ n, n + outer.length + inner.length + 2 =
        n + ('/' :: '*' :: (inner ++ outer)).length := by
      intro n
      simp only [List.length_cons, List.length_append]
      omega
    cases depth with
    | zero => simpa using hlength 0
    | succ depth =>
      simp only [Option.map_map]
      exact congrArg (Option.map · _) (funext hlength)
  | @char c rest hopen hclose hrest ih =>
    have hhead : ∀ d more, rest ++ after = d :: more → rest.head? = some d := by
      intro d more heq
      obtain ⟨e, rest, rfl⟩ := List.exists_cons_of_ne_nil hrest.ne_nil
      rw [← (List.cons.inj heq).1]
      rfl
    rw [List.cons_append, blockTail?, ih]
    · cases depth with
      | zero => rfl
      | succ depth => simp only [Option.map_map]; rfl
    · exact fun more hc heq => hopen ⟨hc, hhead _ _ heq⟩
    · exact fun more hc heq => hclose ⟨hc, hhead _ _ heq⟩

open Comments in
/-- The scanner and the reader of tokens end a block comment at the same place. -/
theorem blockRest?_eq_map (depth : Nat) (cs : List Char) :
    blockRest? depth cs = (blockTail? depth cs).map fun n => cs.drop n := by
  fun_induction blockTail? depth cs with
  | case1 depth rest ih =>
    rw [blockRest?, ih, Option.map_map]
    rfl
  | case2 rest => rfl
  | case3 rest depth ih =>
    rw [blockRest?, ih, Option.map_map]
    rfl
  | case4 depth c rest hopen hclose ih =>
    rw [blockRest?, ih, Option.map_map]
    · rfl
    · exact hopen
    · exact hclose
  | case5 => rfl

open Comments in
/-- The scanner finds the end of a block comment exactly if there is one. -/
theorem blockTail?_eq_some {cs : List Char} {n : Nat} :
    blockTail? 0 cs = some n ↔
      ∃ tail after, cs = tail ++ after ∧ BlockTail tail ∧ n = tail.length := by
  constructor
  · intro h
    have hrest : blockRest? 0 cs = some (cs.drop n) := by rw [blockRest?_eq_map, h, Option.map_some]
    obtain ⟨tail, tails, hlength, htails, hcs⟩ := blockRest?_eq_some hrest
    obtain rfl := List.length_eq_zero_iff.mp hlength
    have htail : BlockTail tail := htails tail List.mem_cons_self
    refine ⟨tail, cs.drop n, hcs, htail, ?_⟩
    rw [hcs, List.flatten_nil, List.nil_append, blockTail?_append htail] at h
    exact (Option.some.inj h).symm
  · rintro ⟨tail, after, rfl, htail, rfl⟩
    exact blockTail?_append htail 0 after

/-! ## Comments -/

/-- A comment before a given rest: a line comment ends at the end of its line, a block comment at
the mark that closes it. -/
inductive IsComment : List Char → List Char → Prop where
  | line {body after : List Char} (hbody : '\n' ∉ body) (hafter : ∀ c ∈ after.head?, c = '\n') :
      IsComment ('/' :: '/' :: body) after
  | block {body after : List Char} (hbody : BlockTail body) : IsComment ('/' :: '*' :: body) after

theorem IsComment.ne_nil {text after : List Char} (h : IsComment text after) : text ≠ [] := by
  cases h <;> exact List.cons_ne_nil _ _

theorem splitLine_snd (cs : List Char) : (splitLine cs).2 = cs.dropWhile (· != '\n') := by
  fun_induction splitLine cs with
  | case1 => rfl
  | case2 => rfl
  | case3 => rfl
  | case4 c cs hnewline hreturn body after heq ih =>
    have hc : (c != '\n') = true := bne_iff_ne.mpr hnewline
    rw [List.dropWhile_cons_of_pos (p := (· != '\n')) hc, ← ih, heq]

/-- A line comment ends at the end of its line. -/
theorem isComment_restOfLine (cs : List Char) :
    IsComment ('/' :: '/' :: restOfLine cs) (cs.dropWhile (· != '\n')) :=
  .line not_mem_takeWhile_field dropWhile_field

theorem isComment_splitLine (cs : List Char) :
    ∃ text, '/' :: '/' :: cs = text ++ (splitLine cs).2 ∧ IsComment text (splitLine cs).2 := by
  rw [splitLine_snd]
  refine ⟨'/' :: '/' :: restOfLine cs, ?_, isComment_restOfLine cs⟩
  rw [restOfLine, List.cons_append, List.cons_append, List.takeWhile_append_dropWhile]

theorem isComment_blockRest? {cs after : List Char} (h : blockRest? 0 cs = some after) :
    ∃ text, '/' :: '*' :: cs = text ++ after ∧ IsComment text after := by
  obtain ⟨tail, tails, hlength, htails, rfl⟩ := blockRest?_eq_some h
  obtain rfl := List.length_eq_zero_iff.mp hlength
  exact ⟨'/' :: '*' :: tail, rfl, .block (htails tail List.mem_cons_self)⟩

/-- The mark of a documentation comment is that of a comment and one more character, which makes no
mark of its own with what follows. -/
theorem documentationMark?_eq_some {cs text : List Char} {inner isBlock : Bool}
    (h : documentationMark? cs = some (inner, isBlock, text)) :
    (isBlock = false ∧ ∃ c, cs = '/' :: '/' :: c :: text ∧ c ≠ '\n') ∨
      (isBlock = true ∧ ∃ c, cs = '/' :: '*' :: c :: text ∧ c ≠ '/' ∧
        ¬ (c = '*' ∧ text.head? = some '/')) := by
  unfold documentationMark? at h
  split at h
  · cases h
    exact .inl ⟨rfl, '!', rfl, by decide⟩
  · cases h
    exact .inr ⟨rfl, '!', rfl, by decide, fun hc => nomatch hc.1⟩
  · nomatch h
  · cases h
    exact .inl ⟨rfl, '/', rfl, by decide⟩
  · nomatch h
  · nomatch h
  · rename_i text' _ hslash
    cases h
    refine .inr ⟨rfl, '*', rfl, by decide, fun hc => ?_⟩
    obtain ⟨more, rfl⟩ := List.head?_eq_some_iff.mp hc.2
    exact hslash more rfl
  · nomatch h

/-- The body of a documentation comment is that of a comment, from its mark on. -/
theorem documentation?_eq_some {cs body after : List Char} {inner : Bool}
    (h : documentation? cs = some (inner, body, after)) :
    ∃ isBlock text, documentationMark? cs = some (inner, isBlock, text) ∧
      (if isBlock then splitBlock? text else some (splitLine text)) = some (body, after) := by
  unfold documentation? at h
  obtain ⟨⟨inner', isBlock, text⟩, hmark, h⟩ := Option.bind_eq_some_iff.mp h
  dsimp only at h
  cases isBlock with
  | false =>
    rw [if_neg Bool.false_ne_true] at h
    obtain ⟨⟨body', after'⟩, hsplit, h⟩ := Option.bind_eq_some_iff.mp h
    obtain ⟨-, heq⟩ := Option.ite_none_right_eq_some.mp h
    cases heq
    exact ⟨false, text, hmark, hsplit⟩
  | true =>
    rw [if_pos rfl] at h
    obtain ⟨⟨body', after'⟩, hsplit, h⟩ := Option.bind_eq_some_iff.mp h
    obtain ⟨-, heq⟩ := Option.ite_none_right_eq_some.mp h
    cases heq
    exact ⟨true, text, hmark, hsplit⟩

/-- A documentation comment is a comment. -/
theorem isComment_documentation? {cs body after : List Char} {inner : Bool}
    (h : documentation? cs = some (inner, body, after)) :
    ∃ text, cs = text ++ after ∧ IsComment text after := by
  obtain ⟨isBlock, text, hmark, hsplit⟩ := documentation?_eq_some h
  rcases documentationMark?_eq_some hmark with ⟨rfl, c, rfl, hc⟩ | ⟨rfl, c, rfl, hopen, hclose⟩
  · have hline : (splitLine (c :: text)).2 = after := by
      rw [splitLine_snd, List.dropWhile_cons_of_pos (p := (· != '\n')) (bne_iff_ne.mpr hc),
        ← splitLine_snd, Option.some.inj hsplit]
    exact hline ▸ isComment_splitLine (c :: text)
  · obtain ⟨rest, hrest, heq⟩ := Option.map_eq_some_iff.mp hsplit
    cases heq
    obtain ⟨tail, tails, hlength, htails, rfl⟩ := blockRest?_eq_some hrest
    obtain rfl := List.length_eq_zero_iff.mp hlength
    refine ⟨'/' :: '*' :: c :: tail, rfl, .block (.char ?_ ?_ (htails tail List.mem_cons_self))⟩
    · exact fun hc => hopen hc.1
    · rintro ⟨rfl, hhead⟩
      obtain ⟨more, rfl⟩ := List.head?_eq_some_iff.mp hhead
      exact hclose ⟨rfl, rfl⟩

/-! ## Identifiers -/

/-- The text of an identifier before a given rest; a raw one has a mark before its name. -/
inductive IsIdentifier : List Char → List Char → Prop where
  | plain {name after : List Char} (hname : IsName name after) : IsIdentifier name after
  | raw {name after : List Char} (hname : IsName name after) :
      IsIdentifier ('r' :: '#' :: name) after

theorem IsIdentifier.ne_nil {text after : List Char} (h : IsIdentifier text after) : text ≠ [] := by
  cases h with
  | plain hname => exact hname.ne_nil
  | raw => exact List.cons_ne_nil _ _

theorem isIdentifier_anyIdentifierRest? {cs after : List Char}
    (h : anyIdentifierRest? cs = some after) :
    ∃ text, cs = text ++ after ∧ IsIdentifier text after := by
  unfold anyIdentifierRest? at h
  split at h
  · obtain ⟨rest, hrest, h⟩ := Option.bind_eq_some_iff.mp h
    obtain ⟨name, rfl, hname⟩ := isName_identifierRest? hrest
    obtain ⟨-, heq⟩ := Option.ite_none_left_eq_some.mp h
    obtain rfl := Option.some.inj heq
    exact ⟨'r' :: '#' :: name, rfl, .raw hname⟩
  · obtain ⟨name, rfl, hname⟩ := isName_identifierRest? h
    exact ⟨name, rfl, .plain hname⟩

/-- What a lone quote stands before begins like an identifier, and not like a character. -/
theorem exists_of_beginsLifetime {cs : List Char} (h : beginsLifetime cs = true) :
    ∃ c rest, cs = c :: rest ∧ Text.isIdentifierStart c = true ∧ rest.head? ≠ some '\'' := by
  have hident : ∃ after, anyIdentifierRest? cs = some after ∧ after.head? ≠ some '\'' := by
    unfold beginsLifetime at h
    split at h
    · nomatch h
    · nomatch h
    · rename_i after heq
      exact ⟨_, heq, by simp⟩
    · rename_i after hquote _ heq
      refine ⟨after, heq, fun hhead => ?_⟩
      obtain ⟨rest, rfl⟩ := List.head?_eq_some_iff.mp hhead
      exact hquote rest rfl
  obtain ⟨after, hrest, hafter⟩ := hident
  obtain ⟨text, rfl, hname | hname⟩ := isIdentifier_anyIdentifierRest? hrest
  · obtain ⟨c, more, rfl, hc, hmore, -⟩ := hname
    refine ⟨c, more ++ after, rfl, hc, ?_⟩
    cases more with
    | nil => exact hafter
    | cons d more =>
      intro hhead
      have hd := hmore d List.mem_cons_self
      rw [Option.some.inj hhead] at hd
      revert hd
      decide
  · exact ⟨'r', _, rfl, by decide, by simp⟩

/-! ## Pieces -/

/-- What the text of a piece of some kind may be before a given rest. -/
inductive IsPiece : PieceKind → List Char → List Char → Prop where
  | blank {c : Char} {after : List Char} (hc : isBlank c = true) : IsPiece .blank [c] after
  | comment {text after : List Char} (hcomment : IsComment text after) :
      IsPiece .comment text after
  | documentation {inner : Bool} {body text after : List Char} (hcomment : IsComment text after) :
      IsPiece (.documentation inner body) text after
  | faultMark {after : List Char} : IsPiece .literal faultMark after
  | delimiter {c : Char} {kind : PieceKind} {after : List Char} (hc : delimiter? c = some kind) :
      IsPiece kind [c] after
  | literal {text after : List Char} (hliteral : Literal.IsLiteral text after) :
      IsPiece .literal text after
  | quote {after : List Char} (hafter : beginsLifetime after = true) :
      IsPiece (.punct true) ['\''] after
  | punct {c : Char} {after : List Char} (hquote : c ≠ '\'')
      (hliteral : Literal.rest? (c :: after) = none) (hc : beginsPunct (c :: after) = true) :
      IsPiece (.punct (beginsPunct after)) [c] after
  | ident {text after : List Char} (hident : IsIdentifier text after) : IsPiece .ident text after

theorem isPiece_token? {cs after : List Char} {kind : PieceKind}
    (h : token? cs = some (kind, after)) :
    ∃ text, text ≠ [] ∧ cs = text ++ after ∧ IsPiece kind text after := by
  unfold token? at h
  split at h
  · rename_i rest hrest
    cases h
    obtain ⟨text, rfl, hliteral⟩ := Literal.isLiteral_rest? hrest
    exact ⟨text, hliteral.ne_nil, rfl, .literal hliteral⟩
  · rename_i hliteral
    split at h
    · obtain ⟨hlifetime, heq⟩ := Option.ite_none_right_eq_some.mp h
      cases heq
      exact ⟨['\''], List.cons_ne_nil _ _, rfl, .quote hlifetime⟩
    · rename_i c rest hquote
      split at h
      · rename_i hpunct
        cases h
        exact ⟨[c], List.cons_ne_nil _ _, rfl, .punct hquote hliteral hpunct⟩
      · obtain ⟨-, hident⟩ := Option.ite_none_left_eq_some.mp h
        obtain ⟨rest', hrest, heq⟩ := Option.map_eq_some_iff.mp hident
        cases heq
        obtain ⟨text, htext, hident⟩ := isIdentifier_anyIdentifierRest? hrest
        exact ⟨text, hident.ne_nil, htext, .ident hident⟩
    · nomatch h

/-- **There are no other pieces.** -/
theorem isPiece_split? {c : Char} {rest after : List Char} {kind : PieceKind}
    (h : split? c rest = some (kind, after)) :
    ∃ text, text ≠ [] ∧ c :: rest = text ++ after ∧ IsPiece kind text after := by
  unfold split? at h
  split at h
  · rename_i hc
    cases h
    exact ⟨[c], List.cons_ne_nil _ _, rfl, .blank hc⟩
  · split at h
    · obtain ⟨⟨inner, body, after'⟩, hdoc, heq⟩ := Option.map_eq_some_iff.mp h
      cases heq
      obtain ⟨text, htext, hcomment⟩ := isComment_documentation? hdoc
      exact ⟨text, hcomment.ne_nil, htext, .documentation hcomment⟩
    · split at h
      · rename_i body _ _
        cases h
        obtain ⟨text, htext, hcomment⟩ := isComment_splitLine body
        exact ⟨text, hcomment.ne_nil, htext, .comment hcomment⟩
      · rename_i body _ _
        obtain ⟨after', hrest, heq⟩ := Option.map_eq_some_iff.mp h
        cases heq
        obtain ⟨text, htext, hcomment⟩ := isComment_blockRest? hrest
        exact ⟨text, hcomment.ne_nil, htext, .comment hcomment⟩
      · split at h
        · rename_i hmark
          cases h
          obtain ⟨after, heq⟩ := List.isPrefixOf_iff_prefix.mp hmark
          rw [← heq, List.drop_left]
          exact ⟨faultMark, List.cons_ne_nil _ _, rfl, .faultMark⟩
        · split at h
          · rename_i hc
            cases h
            exact ⟨[c], List.cons_ne_nil _ _, rfl, .delimiter hc⟩
          · exact isPiece_token? h

/-! ## Cutting a source -/

/-- Only blanks are blank at their heads. -/
theorem split?_of_isBlank {c : Char} {rest after : List Char} {kind : PieceKind}
    (hc : isBlank c = true) (h : split? c rest = some (kind, after)) : kind = .blank := by
  unfold split? at h
  split at h
  · cases h
    rfl
  · contradiction

/-- The text consists of the pieces, and the first of them stands at `place`. -/
inductive Cuts : Place → List Char → List Piece → Prop where
  | nil {place : Place} : Cuts place [] []
  | cons {place : Place} {kind : PieceKind} {text after : List Char} {later : List Piece}
      (htext : text ≠ []) (hblank : (∃ c ∈ text.head?, isBlank c = true) → kind = .blank)
      (hpiece : IsPiece kind text after) (hlater : Cuts (place.after text) after later) :
      Cuts place (text ++ after) (⟨kind, place, text⟩ :: later)

theorem piece?_eq_some {c : Char} {rest : List Char} {kind : PieceKind} {more : Nat}
    (h : piece? c rest = some (kind, more)) :
    ∃ text after, rest = text ++ after ∧ more = text.length ∧ (isBlank c = true → kind = .blank) ∧
      IsPiece kind (c :: text) after := by
  obtain ⟨⟨kind', after⟩, hsplit, heq⟩ := Option.map_eq_some_iff.mp h
  cases heq
  obtain ⟨text, htext, heq, hpiece⟩ := isPiece_split? hsplit
  obtain ⟨d, text, rfl⟩ := List.exists_cons_of_ne_nil htext
  obtain ⟨rfl, rfl⟩ := List.cons.inj heq
  exact ⟨text, after, rfl, by simp, fun hc => split?_of_isBlank hc hsplit, hpiece⟩

theorem cuts_piecesFrom {place : Place} {cs : List Char} (h : (piecesFrom place cs).2 = none) :
    Cuts place cs (piecesFrom place cs).1 := by
  fun_induction piecesFrom place cs with
  | case1 => exact .nil
  | case2 => nomatch h
  | case3 place c rest kind more hpiece text later fault heq ih =>
    rw [heq] at ih
    obtain ⟨body, after, rfl, rfl, hblank, hform⟩ := piece?_eq_some hpiece
    have htext : text = c :: body := congrArg (c :: ·) List.take_left
    rw [htext, List.drop_left] at ih
    rw [htext, ← List.cons_append]
    refine .cons (List.cons_ne_nil _ _) ?_ hform (ih h)
    rintro ⟨d, hd, hdblank⟩
    obtain rfl := Option.some.inj hd
    exact hblank hdblank

/-- **The pieces of a source**, put together, are the source, which may have a byte order mark
first. -/
theorem cuts_pieces {source : List Char} (h : (pieces source).2 = none) :
    Cuts .origin source (pieces source).1 ∨
      ∃ rest later, source = '\ufeff' :: rest ∧
        (pieces source).1 = ⟨.blank, .origin, ['\ufeff']⟩ :: later ∧
        Cuts (Place.origin.after ['\ufeff']) rest later := by
  unfold pieces at h ⊢
  split at h
  · rename_i rest
    exact .inr ⟨rest, _, rfl, rfl, cuts_piecesFrom h⟩
  · exact .inl (cuts_piecesFrom h)

end PegCheck.Host.Lexer
