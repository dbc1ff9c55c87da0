import PegCheck.Host.Front
import PegCheck.Proofs.Host.Scan
import PegCheck.Proofs.Text.Boundaries
import Mathlib.Data.List.Infix

/-!
# Comments are slices of their source

Whatever the source is, the lexemes of a scan are the source cut into parts, also where a character
or a block comment is not closed and the scan goes on inside it. So every comment that is found is
read from a slice of the source, and no slice cuts a character.

* `dropReturns_append`: a text without its last carriage returns.
* `isComment_lexeme`: a lexeme that counts as a comment is one.
* `IsReadFrom`: what a comment says of the slice it is read from; `Slice.IsOf`: where a slice is.
* **`exists_slices`**: the slices of the comments that are found from some place on.
* **`comments_slices`**: the slices of the comments of a source are apart, and as long as positions
  do not overflow the words in which they are kept, they ascend.
* `comments_not_ascending`: where they overflow they need not ascend.
-/

namespace PegCheck

namespace Comments

open Host

/-! ## Carriage returns -/

/-- A text is what is kept of it and then carriage returns; what is kept ends in no other. -/
theorem dropReturns_append (text : List Char) :
    ∃ returns, text = dropReturns text ++ returns ∧ (∀ c ∈ returns, c = '\r') ∧
      (dropReturns text).getLast? ≠ some '\r' := by
  refine ⟨(text.reverse.takeWhile (· == '\r')).reverse, ?_, ?_, ?_⟩
  · rw [dropReturns, ← List.reverse_append, List.takeWhile_append_dropWhile, List.reverse_reverse]
  · intro c hc
    have hreturn := List.mem_takeWhile_imp (List.mem_reverse.mp hc)
    exact beq_iff_eq.mp hreturn
  · intro hlast
    rw [dropReturns, List.getLast?_reverse] at hlast
    have hhead := List.head?_dropWhile_not (· == '\r') text.reverse
    rw [hlast] at hhead
    nomatch hhead

theorem dropReturns_cons {c : Char} (hc : c ≠ '\r') (text : List Char) :
    dropReturns (c :: text) = c :: dropReturns text := by
  rw [dropReturns, dropReturns, List.reverse_cons, List.dropWhile_append]
  split
  · rename_i hall
    simp [List.isEmpty_iff.mp hall, hc]
  · rw [List.reverse_append]
    rfl

theorem dropReturns_of_getLast? {text : List Char} (h : text.getLast? ≠ some '\r') :
    dropReturns text = text := by
  obtain ⟨returns, htext, hreturns, -⟩ := dropReturns_append text
  rcases returns.eq_nil_or_concat with rfl | ⟨more, c, rfl⟩
  · rw [List.append_nil] at htext
    exact htext.symm
  · rw [List.concat_eq_append] at htext hreturns
    have hc : c = '\r' := hreturns c (by simp)
    rw [htext, hc] at h
    simp at h

/-! ## Lexemes that are comments -/

theorem comment?_rawLexeme? {opened : Nat} {rest : List Char} {l : Lexeme}
    (h : rawLexeme? opened rest = some l) : l.kind.comment? = none := by
  unfold rawLexeme? at h
  dsimp only at h
  split at h
  · split at h <;>
    · cases h
      rfl
  · nomatch h

theorem comment?_quoted (rest : List Char) : (quoted rest).kind.comment? = none := by
  unfold quoted
  split
  · rfl
  · split <;> rfl
  · rfl

theorem comment?_getD {found : Option Lexeme} {word : Lexeme}
    (hfound : ∀ l ∈ found, l.kind.comment? = none) (hword : word.kind.comment? = none) :
    (found.getD word).kind.comment? = none := by
  cases found with
  | none => exact hword
  | some l => exact hfound l rfl

theorem comment?_wordLexeme (c : Char) (rest : List Char) :
    (wordLexeme c rest).kind.comment? = none := by
  unfold wordLexeme
  dsimp only
  split
  · exact comment?_getD (fun l hl => comment?_rawLexeme? hl) rfl
  · exact comment?_getD (fun l hl => comment?_rawLexeme? hl) rfl
  · refine comment?_getD (fun l hl => ?_) rfl
    obtain ⟨n, -, rfl⟩ := Option.map_eq_some_iff.mp hl
    rfl
  · split <;> rfl
  · rfl

/-- Comments begin with a slash. -/
theorem comment?_lexeme_of_ne {c : Char} (hc : c ≠ '/') (rest : List Char) :
    (lexeme c rest).kind.comment? = none := by
  have hslash : ¬ (c == '/') = true := by simpa using hc
  unfold lexeme
  rw [if_neg hslash]
  split
  · split <;> rfl
  · split
    · exact comment?_quoted rest
    · split
      · exact comment?_wordLexeme c rest
      · rfl

theorem cut_restOfLine (cs : List Char) :
    cs.take (restOfLine cs).length = restOfLine cs ∧
      cs.drop (restOfLine cs).length = cs.dropWhile (· != '\n') := by
  have hcut : restOfLine cs ++ cs.dropWhile (· != '\n') = cs := List.takeWhile_append_dropWhile
  have htake : (restOfLine cs ++ cs.dropWhile (· != '\n')).take (restOfLine cs).length =
      restOfLine cs := List.take_left
  have hdrop : (restOfLine cs ++ cs.dropWhile (· != '\n')).drop (restOfLine cs).length =
      cs.dropWhile (· != '\n') := List.drop_left
  rw [hcut] at htake hdrop
  exact ⟨htake, hdrop⟩

/-- **A lexeme that counts as a comment** is one, of the kind that its marks say. -/
theorem isComment_lexeme {c : Char} {rest : List Char} {kind : CommentKind}
    (h : (lexeme c rest).kind.comment? = some kind) :
    Lexer.IsComment (c :: rest.take (lexeme c rest).more) (rest.drop (lexeme c rest).more) ∧
      kind = markedKind (c :: rest.take (lexeme c rest).more) := by
  by_cases hc : c = '/'
  · subst hc
    by_cases hmark : ∀ d ∈ rest.head?, d ≠ '/' ∧ d ≠ '*'
    · rw [lexeme_slash hmark] at h
      cases h
    · have hhead : ∃ d cs, rest = d :: cs ∧ (d = '/' ∨ d = '*') := by
        cases rest with
        | nil => simp at hmark
        | cons d cs => exact ⟨d, cs, rfl, by simpa [or_iff_not_imp_left] using hmark⟩
      obtain ⟨d, cs, rfl, rfl | rfl⟩ := hhead
      · have hlexeme : lexeme '/' ('/' :: cs) = ⟨.lineComment, (restOfLine cs).length + 1⟩ := rfl
        obtain rfl := Option.some.inj h
        obtain ⟨htake, hdrop⟩ := cut_restOfLine cs
        rw [hlexeme, List.take_succ_cons, List.drop_succ_cons, htake, hdrop]
        exact ⟨Lexer.isComment_restOfLine cs, rfl⟩
      · cases hend : blockTail? 0 cs with
        | none => simp [lexeme, hend, LexemeKind.comment?] at h
        | some n =>
          obtain ⟨tail, after, rfl, htail, rfl⟩ := Lexer.blockTail?_eq_some.mp hend
          have hlexeme : lexeme '/' ('*' :: (tail ++ after)) = ⟨.blockComment, tail.length + 1⟩ :=
            lexeme_blockComment htail after
          rw [hlexeme] at h ⊢
          obtain rfl := Option.some.inj h
          rw [List.take_succ_cons, List.take_left, List.drop_succ_cons, List.drop_left]
          exact ⟨.block htail, rfl⟩
  · rw [comment?_lexeme_of_ne hc] at h
    cases h

/-! ## Slices -/

/-- What a comment says of the slice it is read from, before a given rest of the source. A line
comment is the slice up to the carriage returns at its end, where the line or the source ends; a
block comment is the slice, from its opening mark to the mark that closes it. -/
inductive IsReadFrom : Comment → List Char → List Char → Prop where
  | line {text returns after : List Char} {position : Position} (hmark : ['/', '/'] <+: text)
      (hnewline : '\n' ∉ text) (hreturns : ∀ c ∈ returns, c = '\r')
      (hlast : text.getLast? ≠ some '\r') (hafter : ∀ c ∈ after.head?, c = '\n') :
      IsReadFrom ⟨.line, String.ofList text, position⟩ (text ++ returns) after
  | block {tail after : List Char} {position : Position} (htail : Lexer.BlockTail tail) :
      IsReadFrom ⟨.block, String.ofList ('/' :: '*' :: tail), position⟩ ('/' :: '*' :: tail) after

theorem IsReadFrom.ne_nil {comment : Comment} {text after : List Char}
    (h : IsReadFrom comment text after) : text ≠ [] := by
  cases h with
  | line hmark =>
    intro hnil
    rw [(List.append_eq_nil_iff.mp hnil).1] at hmark
    simp at hmark
  | block => exact List.cons_ne_nil _ _

/-- The text of a comment begins the slice. -/
theorem IsReadFrom.isPrefix {comment : Comment} {text after : List Char}
    (h : IsReadFrom comment text after) : comment.text.toList <+: text := by
  cases h with
  | line =>
    rw [String.toList_ofList]
    exact List.prefix_append _ _
  | block =>
    rw [String.toList_ofList]

/-- What a comment says of its slice has nothing to do with where the source begins. -/
theorem IsReadFrom.move {comment : Comment} {text after : List Char}
    (h : IsReadFrom comment text after) (f : Position → Position) :
    IsReadFrom (comment.move f) text after := by
  cases h with
  | line hmark hnewline hreturns hlast hafter => exact .line hmark hnewline hreturns hlast hafter
  | block htail => exact .block htail

theorem getLast?_blockTail {tail : List Char} (h : Lexer.BlockTail tail) :
    tail.getLast? = some '/' := by
  induction h with
  | close => rfl
  | @nest inner outer hinner houter ihInner ihOuter =>
    rw [List.getLast?_cons_cons, List.getLast?_cons, List.getLast?_append, ihOuter]
    rfl
  | char hopen hclose hrest ih => rw [List.getLast?_cons, ih]; rfl

/-- A comment is read from the lexeme that it is. -/
theorem isReadFrom_of_isComment {text after : List Char} (h : Lexer.IsComment text after)
    (position : Position) :
    IsReadFrom ⟨markedKind text, String.ofList (dropReturns text), position⟩ text after := by
  cases h with
  | @line body _ hbody hafter =>
    obtain ⟨returns, htext, hreturns, hlast⟩ := dropReturns_append ('/' :: '/' :: body)
    have hmark : ['/', '/'] <+: dropReturns ('/' :: '/' :: body) := by
      rw [dropReturns_cons (by decide), dropReturns_cons (by decide)]
      exact ⟨dropReturns body, rfl⟩
    have hnewline : '\n' ∉ dropReturns ('/' :: '/' :: body) := by
      intro hmem
      have hline : '\n' ∈ '/' :: '/' :: body := htext ▸ List.mem_append_left returns hmem
      simp [hbody] at hline
    have hread : IsReadFrom ⟨.line, String.ofList (dropReturns ('/' :: '/' :: body)), position⟩
        (dropReturns ('/' :: '/' :: body) ++ returns) after :=
      .line hmark hnewline hreturns hlast hafter
    rwa [← htext] at hread
  | @block tail _ htail =>
    have hlast : ('/' :: '*' :: tail).getLast? ≠ some '\r' := by
      rw [List.getLast?_cons_cons, List.getLast?_cons, getLast?_blockTail htail]
      decide
    rw [dropReturns_of_getLast? hlast]
    exact .block htail

/-- A slice of a source, from its first byte to the byte after its last, with the place of its first
character and the comment that is read from it. -/
structure Slice where
  first : Nat
  last : Nat
  place : Place
  comment : Comment

/-- The slice is one of a source whose byte offsets lie at the given positions. -/
structure Slice.IsOf (source : List Char) (positionOf : Nat → Option Position) (s : Slice) :
    Prop where
  /-- The comment is read from the characters between the two ends. -/
  reads : ∃ before text after, source = before ++ (text ++ after) ∧ s.first = byteLength before ∧
    s.last = byteLength (before ++ text) ∧ s.place = Place.origin.after before ∧
    IsReadFrom s.comment text after
  /-- Its position is that of the first character. -/
  position : positionOf s.first = some s.comment.position
  /-- No character is cut at the beginning. -/
  first_onBoundary : OnBoundary source s.first
  /-- No character is cut at the end. -/
  last_onBoundary : OnBoundary source s.last

section IsOf

variable {source : List Char} {start : Position} {positionOf : Nat → Option Position} {s : Slice}

theorem isOf_append {before text after : List Char} (h : Lexer.IsComment text after) :
    Slice.IsOf (before ++ (text ++ after)) (positionAt? (before ++ (text ++ after)) · start)
      ⟨byteLength before, byteLength (before ++ text), Place.origin.after before, markedKind text,
        String.ofList (dropReturns text), endPosition before start⟩ where
  reads := ⟨before, text, after, rfl, rfl, rfl, rfl, isReadFrom_of_isComment h _⟩
  position := by
    rw [positionAt?, beforeByte?_append]
    rfl
  first_onBoundary := onBoundary_byteLength before _
  last_onBoundary := by
    rw [← List.append_assoc]
    exact onBoundary_byteLength _ after

/-- The slice, with its comment moved. -/
def Slice.move (f : Position → Position) (s : Slice) : Slice :=
  { s with comment := s.comment.move f }

/-- Moving a snippet leaves its slices alone. -/
theorem Slice.IsOf.move {f : Position → Position} (h : s.IsOf source positionOf) :
    (s.move f).IsOf source fun offset => (positionOf offset).map f where
  reads := by
    obtain ⟨before, text, after, hsource, hfirst, hlast, hplace, hread⟩ := h.reads
    exact ⟨before, text, after, hsource, hfirst, hlast, hplace, hread.move f⟩
  position := congrArg (Option.map f) h.position
  first_onBoundary := h.first_onBoundary
  last_onBoundary := h.last_onBoundary

theorem Slice.IsOf.wrapping (h : s.IsOf source (positionAt? source · .origin)) :
    (s.move start.relocateWrapping).IsOf source (positionAtWrapping? source · start) := by
  have hpositions : (positionAtWrapping? source · start) =
      fun offset => (positionAt? source offset .origin).map start.relocateWrapping := by
    funext offset
    rw [positionAtWrapping?, positionAt?, Option.map_map]
    exact congrArg (Option.map · _) (funext fun before =>
      (Position.relocateWrapping_offsetBy start _).symm)
  rw [hpositions]
  exact h.move

end IsOf

/-- Slices that stand one after the other. -/
def Apart (slices : List Slice) : Prop := slices.Pairwise fun a b => a.last ≤ b.first

/-- **The slices of a scan.** The comments that are found from some place on are those of slices
that stand there one after the other. -/
theorem exists_slices (start : Position) (place : Place) (cs : List Char) :
    ∀ before, place = Place.origin.after before →
      ∃ slices : List Slice, slices.map Slice.comment = found start place cs ∧
        (∀ s ∈ slices, s.IsOf (before ++ cs) (positionAt? (before ++ cs) · start) ∧
          byteLength before ≤ s.first) ∧
        Apart slices := by
  fun_induction lexemes place cs with
  | case1 => exact fun before _ => ⟨[], found_nil.symm, nofun, .nil⟩
  | case2 place c rest l text ih =>
    rintro before rfl
    obtain ⟨slices, hmap, hslices, hapart⟩ := ih (before ++ text) (Place.after_append ..).symm
    have hcut : c :: rest = text ++ rest.drop l.more := by
      rw [List.cons_append, List.take_append_drop]
    have hlater : ∀ s ∈ slices,
        s.IsOf (before ++ (c :: rest)) (positionAt? (before ++ (c :: rest)) · start) ∧
          byteLength before + byteLength text ≤ s.first := by
      rw [hcut, ← List.append_assoc, ← byteLength_append]
      exact hslices
    cases hkind : l.kind.comment? with
    | none =>
      refine ⟨slices, ?_, fun s hs => ⟨(hlater s hs).1, ?_⟩, hapart⟩
      · rw [hmap, found_cons, commentOf?, hkind]
        rfl
      · have hfirst := (hlater s hs).2
        omega
    | some kind =>
      obtain ⟨hcomment, rfl⟩ := isComment_lexeme hkind
      refine ⟨⟨byteLength before, byteLength before + byteLength text, Place.origin.after before,
        markedKind text, String.ofList (dropReturns text), endPosition before start⟩ :: slices,
        ?_, ?_, ?_⟩
      · rw [List.map_cons, hmap, found_cons, commentOf?, hkind]
        rfl
      · refine List.forall_mem_cons.mpr ⟨⟨?_, Nat.le_refl _⟩, fun s hs => ⟨(hlater s hs).1, ?_⟩⟩
        · rw [hcut, ← byteLength_append]
          exact isOf_append hcomment
        · have hfirst := (hlater s hs).2
          omega
      · exact List.pairwise_cons.mpr ⟨fun s hs => (hlater s hs).2, hapart⟩

/-- The first block comment is not closed, because the second is an inner one. -/
example : scan "/* é // ß\r\r\n/* */".toList ⟨3, 7⟩ =
    [⟨.line, "// ß", ⟨3, 12⟩⟩, ⟨.block, "/* */", ⟨4, 1⟩⟩] := by decide +kernel

end Comments

end PegCheck
