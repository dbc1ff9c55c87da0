import PegCheck.Host.Tree
import PegCheck.Proofs.Host.Scan

/-!
# The comments of a source are its comment pieces

The comments of a source are found by a scanner that knows nothing of pieces. It finds the pieces
that are comments, documentation comments included, each once and in order, unless a piece is one
that it reads in its own way.

* `Piece.isMisread`: a literal of a form that the scanner does not know, or a piece that ends in a
  word which the scanner takes for the head of a raw string.
* `foundFrom_piece`: any other piece is passed over, or found if it is a comment.
* **`scan_eq_comments`**: the comments of a source without misread pieces.
* `scan_terminatedRaw`: a raw string of characters other than zero is misread, and a comment is
  found inside it.
-/

namespace PegCheck.Host

open Comments Lexer

namespace Piece

/-- The comment that a piece of a snippet is. -/
def comment? (start : Position) (p : Piece) : Option Comment :=
  let comment := ⟨markedKind p.text, String.ofList (dropReturns p.text), start.offsetBy p.place⟩
  match p.kind with
  | .comment => some comment
  | .documentation .. => some comment
  | _ => none

/-- Is the piece a quote that stands alone? -/
def isQuote (p : Piece) : Bool :=
  match p.kind with
  | .punct _ => p.text == ['\'']
  | _ => false

/-- Beginnings of literals that the scanner does not know: raw strings of characters other than
zero, the mark of a fault, and characters that are a quote or a newline. -/
def strangeHeads : List (List Char) :=
  [['c', 'r', '"'], ['c', 'r', '#'], faultMark, ['\'', '\'', '\''], ['\'', '\n', '\''],
    ['b', '\'', '\'', '\''], ['b', '\'', '\n', '\'']]

/-- Beginnings of raw strings. After a lone quote the scanner does not know them. -/
def rawHeads : List (List Char) := [['r', '"'], ['r', '#'], ['b', 'r', '"'], ['b', 'r', '#']]

/-- Beginnings of literals that the scanner reads in its own way. -/
def misreadHeads (quoted : Bool) : List (List Char) :=
  strangeHeads ++ if quoted then rawHeads else []

/-- The word in which the scanner is before a piece, which is one only after a lone quote. -/
def wordBefore (quoted : Bool) : List Char := if quoted then ['\''] else []

/-- Does the scanner read the piece in its own way? A quote may stand alone before the piece, and
`after` is the text after it. -/
def isMisread (quoted : Bool) (p : Piece) (after : List Char) : Bool :=
  p.kind == .literal && (misreadHeads quoted).any (·.isPrefixOf p.text) ||
    opensRaw after && [['r'], ['b', 'r']].contains (lastWord (wordBefore quoted) p.text)

/-- Is no piece misread? -/
def noneMisread (quoted : Bool) : List Piece → Bool
  | [] => true
  | p :: ps => !p.isMisread quoted (ps.flatMap Piece.text) && noneMisread p.isQuote ps

end Piece

open Piece

variable {start : Position} {place : Place}

/-! ## Marks and blanks -/

theorem foundFrom_mark {word after : List Char} {c : Char} (hother : isOther c = true)
    (hpart : isWordPart c = false) :
    foundFrom start word place ([c] ++ after) = found start (place.after [c]) after := by
  rw [foundFrom_of_not (by rintro d ⟨⟩; exact hpart)]
  exact found_other hother after

theorem isWordPart_of_isBlank {c : Char} (h : isBlank c = true) : isWordPart c = false := by
  refine Bool.eq_false_iff.mpr fun hpart => ?_
  obtain ⟨hlow, hhigh⟩ := Literal.toNat_of_isWordPart hpart
  simp only [isBlank, Bool.or_eq_true, beq_iff_eq] at h
  rcases h with (h | rfl) | rfl
  · simp only [Text.isBlank, Bool.or_eq_true, Bool.and_eq_true, decide_eq_true_eq, beq_iff_eq] at h
    omega
  · revert hpart
    decide
  · revert hpart
    decide

theorem isOther_of_isBlank {c : Char} (h : isBlank c = true) : isOther c = true := by
  refine isOther_iff.mpr ⟨isWordStart_of_not (isWordPart_of_isBlank h), ?_, ?_, ?_⟩ <;>
  · rintro rfl
    revert h
    decide

/-- A punctuation character is a quote, a slash or a character that begins no lexeme. -/
theorem isPunct_cases {c : Char} (h : isPunct c = true) :
    c = '\'' ∨ c = '/' ∨ isOther c = true ∧ isWordPart c = false := by
  have hall : "~!@#$%^&*-=+|;:,<.>/?'".toList.all (fun d =>
      d = '\'' ∨ d = '/' ∨ isOther d = true ∧ isWordPart d = false) = true := by decide
  exact of_decide_eq_true (List.all_eq_true.mp hall c (List.contains_iff_mem.mp h))

theorem isPunct_of_beginsPunct {c : Char} {after : List Char}
    (h : beginsPunct (c :: after) = true) : isPunct c = true := by
  unfold beginsPunct at h
  split at h
  · nomatch h
  · nomatch h
  · cases ‹c :: after = _›
    exact h
  · nomatch h

/-- Where a slash is punctuation no comment begins. -/
theorem head_of_beginsPunct {after : List Char} (h : beginsPunct ('/' :: after) = true) :
    ∀ c ∈ after.head?, c ≠ '/' ∧ c ≠ '*' := by
  intro c hc
  obtain ⟨more, rfl⟩ := List.head?_eq_some_iff.mp hc
  constructor <;>
  · rintro rfl
    nomatch h

/-! ## Identifiers and literals -/

theorem isWordPart_of_ends {after : List Char} (h : EndsIdentifier after) :
    ∀ c ∈ after.head?, isWordPart c = false := fun c hc =>
  Bool.eq_false_iff.mpr fun hpart =>
    Bool.eq_false_iff.mp (h c hc) (Literal.isIdentifierContinue_of_isWordPart hpart)

theorem foundFrom_name {word text after : List Char} (h : IsName text after)
    (hraw : opensRaw after = true → lastWord word text ∉ [['r'], ['b', 'r']]) :
    foundFrom start word place (text ++ after) = found start (place.after text) after :=
  foundFrom_append (fun c hc => Literal.isNumberPart_of_continues (h.continues c hc))
    (fun _ => isWordPart_of_ends h.ends) hraw

theorem found_suffix {suffix after : List Char} (h : Literal.IsSuffix suffix after)
    (hraw : opensRaw after = true → lastWord [] suffix ∉ [['r'], ['b', 'r']]) :
    found start place (suffix ++ after) = found start (place.after suffix) after := by
  rcases h with rfl | hname
  · rfl
  · have hfound : foundFrom start [] place (suffix ++ after) =
        found start (place.after suffix) after := foundFrom_name hname hraw
    exact hfound

/-- What may stand before the opening quote of a string or character is passed over. -/
theorem foundFrom_lead {quoted : Bool} {lead cs : List Char} {c : Char}
    (hlead : lead ∈ [[], ['b'], ['c']]) (hc : isWordPart c = false) :
    foundFrom start (wordBefore quoted) place (lead ++ c :: cs) =
      found start (place.after lead) (c :: cs) := by
  refine foundFrom_append ?_ (fun _ d hd => Option.some.inj hd ▸ hc) fun _ => ?_
  · have hall : ∀ l ∈ [[], ['b'], ['c']], l.all Literal.isNumberPart = true := by decide
    exact List.all_eq_true.mp (hall lead hlead)
  · have hall : ∀ q, ∀ l ∈ [[], ['b'], ['c']],
        lastWord (wordBefore q) l ∉ [['r'], ['b', 'r']] := by decide
    exact hall quoted lead hlead

theorem foundFrom_quotes {quoted : Bool} {lead inside rest : List Char} {c : Char}
    (hlead : lead ∈ [[], ['b'], ['c']]) (hc : isWordPart c = false)
    (hinside : found start (place.after lead) (c :: inside ++ rest) =
      found start ((place.after lead).after (c :: inside)) rest) :
    foundFrom start (wordBefore quoted) place (lead ++ c :: inside ++ rest) =
      found start (place.after (lead ++ c :: inside)) rest := by
  rw [Place.after_append, ← hinside, List.append_assoc]
  exact foundFrom_lead hlead hc

/-- A literal with a closing mark is passed over if it is up to that mark. -/
theorem foundFrom_closed {word front suffix after : List Char} {mark : Char}
    (hmark : isWordPart mark = false) (hsuffix : Literal.IsSuffix suffix after)
    (hraw : opensRaw after = true → lastWord word (front ++ mark :: suffix) ∉ [['r'], ['b', 'r']])
    (hclosed : foundFrom start word place (front ++ [mark] ++ (suffix ++ after)) =
      found start (place.after (front ++ [mark])) (suffix ++ after)) :
    foundFrom start word place (front ++ mark :: suffix ++ after) =
      found start (place.after (front ++ mark :: suffix)) after := by
  have hcut : front ++ mark :: suffix = front ++ [mark] ++ suffix := by simp
  rw [lastWord_of_not hmark] at hraw
  rw [hcut, List.append_assoc, hclosed, found_suffix hsuffix hraw, ← Place.after_append]

/-- The literal has none of the beginnings of literals that are misread. -/
def IsKnown (quoted : Bool) (text : List Char) : Prop :=
  ∀ head ∈ misreadHeads quoted, ¬ head <+: text

/-- The raw strings that the scanner knows are those of characters and of bytes; after a lone quote
it knows none. -/
theorem IsKnown.raw {quoted : Bool} {lead inside : List Char} {hashes : Nat}
    (h : IsKnown quoted (lead ++ (List.replicate hashes '#' ++ '"' :: inside)))
    (hlead : lead ∈ [['r'], ['b', 'r'], ['c', 'r']]) :
    quoted = false ∧ lead ∈ [['r'], ['b', 'r']] := by
  have hopen : ∃ c rest, List.replicate hashes '#' ++ '"' :: inside = c :: rest ∧
      (c = '"' ∨ c = '#') := by
    cases hashes with
    | zero => exact ⟨_, _, rfl, .inl rfl⟩
    | succ n => exact ⟨_, _, rfl, .inr rfl⟩
  obtain ⟨c, rest, hrest, hc⟩ := hopen
  have hall : ∀ q, ∀ l ∈ [['r'], ['b', 'r'], ['c', 'r']],
      l ++ [c] ∈ misreadHeads q ∨ q = false ∧ l ∈ [['r'], ['b', 'r']] := by
    rcases hc with rfl | rfl <;> decide
  rcases hall quoted lead hlead with hmem | hknown
  · rw [hrest] at h
    exact absurd ⟨rest, by simp⟩ (h _ hmem)
  · exact hknown

/-- The characters that the scanner knows are not lone quotes and newlines. -/
theorem IsKnown.character {quoted : Bool} {lead body suffix : List Char}
    (h : IsKnown quoted (lead ++ '\'' :: (body ++ '\'' :: suffix))) (hlead : lead ∈ [[], ['b']]) :
    ¬ (body = ['\''] ∨ body = ['\n']) := by
  have hall : ∀ l ∈ [[], ['b']], ∀ b ∈ [['\''], ['\n']],
      l ++ '\'' :: (b ++ ['\'']) ∈ strangeHeads := by decide
  intro hbody
  have hmem := hall lead hlead body (by simpa using hbody)
  exact h _ (List.mem_append_left _ hmem) ⟨suffix, by simp⟩

/-- A literal of a form that the scanner knows is passed over. -/
theorem foundFrom_literal {quoted : Bool} {text after : List Char}
    (h : Literal.IsLiteral text after) (hknown : IsKnown quoted text)
    (hraw : opensRaw after = true → lastWord (wordBefore quoted) text ∉ [['r'], ['b', 'r']]) :
    foundFrom start (wordBefore quoted) place (text ++ after) =
      found start (place.after text) after := by
  cases h with
  | @string lead body suffix after mark hlead hmark hend hsuffix =>
    have hcut : lead ++ '"' :: (body ++ mark :: suffix) =
        lead ++ '"' :: body ++ mark :: suffix := by simp
    rw [hcut] at hraw ⊢
    refine foundFrom_closed hmark hsuffix hraw ?_
    rw [List.append_assoc lead]
    exact foundFrom_quotes hlead rfl (found_string (by simpa using hend))
  | @raw lead body suffix after mark hashes hlead hmark hend hsuffix =>
    obtain ⟨rfl, hlead⟩ := hknown.raw hlead
    have hcut : lead ++ (List.replicate hashes '#' ++ '"' :: (body ++ mark :: suffix)) =
        lead ++ (List.replicate hashes '#' ++ '"' :: body) ++ mark :: suffix := by simp
    have hclosed : lead ++ (List.replicate hashes '#' ++ '"' :: body) ++ [mark] =
        lead ++ (List.replicate hashes '#' ++ '"' :: (body ++ [mark])) := by simp
    rw [hcut] at hraw ⊢
    refine foundFrom_closed hmark hsuffix hraw ?_
    rw [hclosed]
    exact found_raw hlead (by simpa using hend)
  | @character lead body suffix after hlead hend hsuffix =>
    have hcut : lead ++ '\'' :: (body ++ '\'' :: suffix) =
        lead ++ '\'' :: body ++ '\'' :: suffix := by simp
    have hend := hend.resolve_right (hknown.character hlead)
    have hleads : ∀ l ∈ [[], ['b']], l ∈ [[], ['b'], ['c']] := by decide
    rw [hcut] at hraw ⊢
    refine foundFrom_closed rfl hsuffix hraw ?_
    rw [List.append_assoc lead]
    exact foundFrom_quotes (hleads lead hlead) rfl (found_character (by simpa using hend))
  | number htext hparts hends =>
    exact foundFrom_append hparts (fun _ => isWordPart_of_ends hends) hraw

/-- An identifier is passed over. -/
theorem foundFrom_identifier {quoted : Bool} {text after : List Char} (h : IsIdentifier text after)
    (hraw : opensRaw after = true → lastWord (wordBefore quoted) text ∉ [['r'], ['b', 'r']]) :
    foundFrom start (wordBefore quoted) place (text ++ after) =
      found start (place.after text) after := by
  cases h with
  | plain hname => exact foundFrom_name hname hraw
  | @raw name after hname =>
    have hopens : opensRaw ('#' :: (name ++ after)) = false := by
      obtain ⟨c, more, rfl, hc, -⟩ := hname
      exact opensRaw_of_isNumberPart
        (Literal.isNumberPart_of_continues (isIdentifierContinue_of_start hc)) _
    have hmark : foundFrom start (wordBefore quoted) place (['r'] ++ '#' :: (name ++ after)) =
        found start (place.after ['r']) ('#' :: (name ++ after)) :=
      foundFrom_append (List.forall_mem_singleton.mpr (by decide)) (by rintro - d ⟨⟩; rfl)
        fun h => absurd h (Bool.eq_false_iff.mp hopens)
    have hfound : foundFrom start [] (place.after ['r', '#']) (name ++ after) =
        found start ((place.after ['r', '#']).after name) after :=
      foundFrom_name hname (lastWord_of_not (c := '#') rfl (wordBefore quoted) ['r'] name ▸ hraw)
    rw [found_other (by decide)] at hmark
    exact hmark.trans hfound

/-! ## Piece by piece -/

theorem isMisread_eq_false {quoted : Bool} {kind : PieceKind} {text after : List Char}
    (h : isMisread quoted ⟨kind, place, text⟩ after = false) :
    (kind = .literal → IsKnown quoted text) ∧
      (opensRaw after = true → lastWord (wordBefore quoted) text ∉ [['r'], ['b', 'r']]) := by
  obtain ⟨hstrange, hraw⟩ := Bool.or_eq_false_iff.mp h
  constructor
  · rintro rfl
    exact fun head hhead hprefix =>
      List.any_eq_false.mp hstrange head hhead (List.isPrefixOf_iff_prefix.mpr hprefix)
  · intro hopens hword
    rw [hopens, Bool.true_and, List.contains_iff_mem.mpr hword] at hraw
    nomatch hraw

theorem foundFrom_comment {word text after : List Char} (h : IsComment text after) :
    foundFrom start word place (text ++ after) =
      ⟨markedKind text, String.ofList (dropReturns text), start.offsetBy place⟩ ::
        found start (place.after text) after := by
  have hhead : ∀ c ∈ (text ++ after).head?, isWordPart c = false := by
    cases h <;>
    · rintro c ⟨⟩
      rfl
  rw [foundFrom_of_not hhead, found_comment h]

/-- **One piece.** A piece that is not misread is passed over, or found if it is a comment. -/
theorem foundFrom_piece {quoted : Bool} {kind : PieceKind} {text after : List Char}
    (h : IsPiece kind text after) (hread : isMisread quoted ⟨kind, place, text⟩ after = false) :
    foundFrom start (wordBefore quoted) place (text ++ after) =
      (comment? start ⟨kind, place, text⟩).toList ++
        foundFrom start (wordBefore (isQuote ⟨kind, place, text⟩)) (place.after text) after := by
  obtain ⟨hknown, hraw⟩ := isMisread_eq_false hread
  cases h with
  | blank hc => exact foundFrom_mark (isOther_of_isBlank hc) (isWordPart_of_isBlank hc)
  | comment hcomment => exact foundFrom_comment hcomment
  | documentation hcomment => exact foundFrom_comment hcomment
  | faultMark =>
    have hmark : faultMark ∈ strangeHeads := by decide
    exact absurd List.prefix_rfl (hknown rfl faultMark (List.mem_append_left _ hmark))
  | @delimiter c kind after hc =>
    unfold delimiter? at hc
    split at hc <;> cases hc <;> exact foundFrom_mark (by decide) (by decide)
  | literal hliteral => exact foundFrom_literal hliteral (hknown rfl) hraw
  | quote hafter =>
    rw [foundFrom_of_not (by rintro d ⟨⟩; rfl)]
    exact found_lifetime hafter
  | @punct c after hquote hliteral hc =>
    have hlone : isQuote ⟨.punct (beginsPunct after), place, [c]⟩ = false := by
      simpa [isQuote] using hquote
    rw [hlone]
    rcases isPunct_cases (isPunct_of_beginsPunct hc) with rfl | rfl | ⟨hother, hpart⟩
    · contradiction
    · rw [foundFrom_of_not (by rintro d ⟨⟩; rfl)]
      exact found_slash (head_of_beginsPunct hc)
    · exact foundFrom_mark hother hpart
  | ident hident => exact foundFrom_identifier hident hraw

theorem Lexer.Cuts.eq_flatMap {cs : List Char} {ps : List Piece} (h : Cuts place cs ps) :
    cs = ps.flatMap Piece.text := by
  induction h with
  | nil => rfl
  | cons htext hblank hpiece hlater ih => rw [List.flatMap_cons, ← ih]

theorem foundFrom_cuts {quoted : Bool} {cs : List Char} {ps : List Piece} (h : Cuts place cs ps)
    (hread : noneMisread quoted ps = true) :
    foundFrom start (wordBefore quoted) place cs = ps.filterMap (comment? start) := by
  induction h generalizing quoted with
  | nil => cases quoted <;> exact found_nil
  | @cons place kind text after later htext hblank hpiece hlater ih =>
    obtain ⟨hfirst, hrest⟩ := (Bool.and_eq_true _ _).mp hread
    rw [← hlater.eq_flatMap] at hfirst
    rw [foundFrom_piece hpiece (by simpa using hfirst), ih hrest]
    cases hcomment : comment? start ⟨kind, place, text⟩ with
    | none => rw [List.filterMap_cons_none hcomment]; rfl
    | some c => rw [List.filterMap_cons_some hcomment]; rfl

/-- **The comments of a source** are its pieces that are comments, if no piece is misread. -/
theorem scan_eq_comments {source : List Char} {start : Position} (hfault : (pieces source).2 = none)
    (hread : noneMisread false (pieces source).1 = true) :
    scan source start = (pieces source).1.filterMap (comment? start) := by
  rw [scan_eq_found]
  rcases cuts_pieces hfault with hcuts | ⟨rest, later, rfl, hpieces, hcuts⟩
  · exact foundFrom_cuts hcuts hread
  · rw [hpieces] at hread ⊢
    rw [found_other (by decide)]
    exact foundFrom_cuts hcuts ((Bool.and_eq_true _ _).mp hread).2

/-- Comments of every kind, next to literals with marks of comments, a lifetime and wide letters. -/
def commentedSource : List Char :=
  "/// ß\nf::<'a>(r#\"/*\"#, b\"\\\"//\", '\\'', é) /* a /* b */ */ / 2r // \"end".toList

theorem scan_eq_comments_sample :
    (pieces commentedSource).2 = none ∧ noneMisread false (pieces commentedSource).1 = true ∧
      scan commentedSource .origin =
        [⟨.line, "/// ß", ⟨1, 1⟩⟩, ⟨.block, "/* a /* b */ */", ⟨2, 36⟩⟩,
          ⟨.line, "// \"end", ⟨2, 57⟩⟩] ∧
      scan commentedSource .origin =
        (pieces commentedSource).1.filterMap (comment? .origin) := by
  have hfault : (pieces commentedSource).2 = none := by decide +kernel
  have hread : noneMisread false (pieces commentedSource).1 = true := by decide +kernel
  exact ⟨hfault, hread, by decide +kernel, scan_eq_comments hfault hread⟩

/-- A raw string of characters other than zero, with a quote and the mark of a comment inside. -/
def terminatedRaw : List Char := "cr#\"\" // \"#".toList

/-- **A comment inside a literal.** The source is one literal and has no comment, but the scanner
does not know such literals: to it there are a word, a mark, an empty string, and then a comment. -/
theorem scan_terminatedRaw :
    (Tree.read terminatedRaw).isOk = true ∧
      (pieces terminatedRaw).1.map (fun p => (p.kind, p.text)) = [(.literal, terminatedRaw)] ∧
      (pieces terminatedRaw).1.filterMap (comment? .origin) = [] ∧
      scan terminatedRaw .origin = [⟨.line, "// \"#", ⟨1, 7⟩⟩] := by
  decide +kernel

end PegCheck.Host
