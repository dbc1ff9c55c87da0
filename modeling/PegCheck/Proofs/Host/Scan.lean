import PegCheck.Host.Comments
import PegCheck.Proofs.Host.Pieces
import PegCheck.Proofs.Text.Lines

/-!
# Stepping through a scan

The scanner for comments cuts a text into lexemes of its own, which are often longer than pieces: a
run of blanks and punctuation is one lexeme, and a word may reach beyond a mark that ends a piece. A
scan can still be followed piece by piece, because it finds the same comments when it is started
again inside such a lexeme.

* `found`: the comments from some place on; `foundFrom`: the same, when the rest of a word stands
  first.
* `found_other`, `found_wordStart`: a character that begins no literal can be passed over.
* `lastWord`: the word in which the scanner is at the end of a text.
* **`foundFrom_append`**: a text of letters, digits, points and signs can be passed over, unless the
  word at its end is the head of a raw string.
* `found_comment`, `found_string`, `found_raw`, `found_character`: comments and literals are single
  lexemes; `found_lifetime`: after a lone quote the scanner is in a word.
-/

namespace PegCheck.Comments

open Host

variable {start : Position} {place : Place}

/-- The comment that a lexeme is. -/
def commentOf? (start : Position) (l : LexemeKind × Place × List Char) : Option Comment :=
  l.1.comment?.map fun k => ⟨k, String.ofList (dropReturns l.2.2), start.offsetBy l.2.1⟩

/-- The comments of a text that stands at `place`. -/
def found (start : Position) (place : Place) (cs : List Char) : List Comment :=
  (lexemes place cs).filterMap (commentOf? start)

theorem scan_eq_found (source : List Char) (start : Position) :
    scan source start = found start .origin source := rfl

@[simp] theorem found_nil : found start place [] = [] := by
  rw [found, lexemes]
  rfl

/-! ## One lexeme -/

theorem found_cons (c : Char) (cs : List Char) :
    found start place (c :: cs) =
      (commentOf? start ((lexeme c cs).kind, place, c :: cs.take (lexeme c cs).more)).toList ++
        found start (place.after (c :: cs.take (lexeme c cs).more))
          (cs.drop (lexeme c cs).more) := by
  rw [found, lexemes, List.filterMap_cons]
  cases commentOf? start ((lexeme c cs).kind, place, c :: cs.take (lexeme c cs).more) <;> rfl

/-- A lexeme is passed over as a whole. -/
theorem found_lexeme {c : Char} {text after : List Char} {kind : LexemeKind}
    (h : lexeme c (text ++ after) = ⟨kind, text.length⟩) :
    found start place (c :: text ++ after) =
      (commentOf? start (kind, place, c :: text)).toList ++
        found start (place.after (c :: text)) after := by
  rw [List.cons_append, found_cons, h]
  simp only [List.take_left, List.drop_left]

theorem found_skip {c : Char} {text after : List Char} {kind : LexemeKind}
    (h : lexeme c (text ++ after) = ⟨kind, text.length⟩) (hkind : kind.comment? = none) :
    found start place (c :: text ++ after) = found start (place.after (c :: text)) after := by
  rw [found_lexeme h, commentOf?, hkind]
  rfl

/-- A lexeme that goes on as long as its characters are of one sort. -/
theorem found_takeWhile {c : Char} {cs : List Char} {p : Char → Bool} {kind : LexemeKind}
    (h : lexeme c cs = ⟨kind, (cs.takeWhile p).length⟩) (hkind : kind.comment? = none) :
    found start place (c :: cs) =
      found start (place.after (c :: cs.takeWhile p)) (cs.dropWhile p) := by
  have hskip : found start place (c :: cs.takeWhile p ++ cs.dropWhile p) =
      found start (place.after (c :: cs.takeWhile p)) (cs.dropWhile p) :=
    found_skip (by rw [List.takeWhile_append_dropWhile, h]) hkind
  rwa [List.cons_append, List.takeWhile_append_dropWhile] at hskip

theorem isOther_iff {c : Char} :
    isOther c = true ↔ isWordStart c = false ∧ c ≠ '\'' ∧ c ≠ '"' ∧ c ≠ '/' := by
  simp only [isOther, Bool.not_eq_true', Bool.or_eq_false_iff, beq_eq_false_iff_ne, and_assoc]

theorem lexeme_other {c : Char} (hc : isOther c = true) (cs : List Char) :
    lexeme c cs = ⟨.other, (cs.takeWhile isOther).length⟩ := by
  obtain ⟨hword, hquote, hstring, hslash⟩ := isOther_iff.mp hc
  simp [lexeme, hword, hquote, hstring, hslash]

/-- A character that begins no other lexeme is passed over alone. -/
theorem found_other {c : Char} (hc : isOther c = true) (cs : List Char) :
    found start place (c :: cs) = found start (place.advance c) cs := by
  rw [found_takeWhile (lexeme_other hc cs) rfl, Place.after_cons]
  cases cs with
  | nil => rfl
  | cons d cs =>
    cases hd : isOther d with
    | false =>
      have hd : ¬ isOther d = true := Bool.eq_false_iff.mp hd
      rw [List.takeWhile_cons_of_neg hd, List.dropWhile_cons_of_neg hd]
      rfl
    | true =>
      rw [found_takeWhile (lexeme_other hd cs) rfl, List.takeWhile_cons_of_pos hd,
        List.dropWhile_cons_of_pos hd]

/-! ## Words -/

/-- The comments of a text that stands at `place`, when the rest of a word is passed over first. -/
def foundPastWord (start : Position) (place : Place) (cs : List Char) : List Comment :=
  found start (place.after (cs.takeWhile isWordPart)) (cs.dropWhile isWordPart)

theorem foundPastWord_cons {c : Char} (hc : isWordPart c = true) (cs : List Char) :
    foundPastWord start place (c :: cs) = foundPastWord start (place.advance c) cs := by
  rw [foundPastWord, List.takeWhile_cons_of_pos hc, List.dropWhile_cons_of_pos hc]
  rfl

theorem foundPastWord_of_not {cs : List Char} (h : ∀ c ∈ cs.head?, isWordPart c = false) :
    foundPastWord start place cs = found start place cs := by
  cases cs with
  | nil => rfl
  | cons c cs =>
    have hc : ¬ isWordPart c = true := Bool.eq_false_iff.mp (h c rfl)
    rw [foundPastWord, List.takeWhile_cons_of_neg hc, List.dropWhile_cons_of_neg hc]
    rfl

/-- Does the text begin with the number signs and the quote that open a raw string? -/
def opensRaw (cs : List Char) : Bool := (cs.dropWhile (· == '#')).head? == some '"'

/-- Does the text begin with a raw string, as far as the scanner knows them? -/
def beginsRaw : List Char → Bool
  | 'r' :: cs => opensRaw cs
  | 'b' :: 'r' :: cs => opensRaw cs
  | _ => false

theorem rawLexeme?_eq_none {cs : List Char} (h : opensRaw cs = false) (opened : Nat) :
    rawLexeme? opened cs = none := by
  have hdrop : (cs.takeWhile (· == '#') ++ cs.dropWhile (· == '#')).drop
      (cs.takeWhile (· == '#')).length = cs.dropWhile (· == '#') := List.drop_left
  rw [List.takeWhile_append_dropWhile] at hdrop
  unfold rawLexeme?
  dsimp only
  rw [hdrop]
  unfold opensRaw at h
  split
  · rename_i body heq
    rw [heq] at h
    nomatch h
  · rfl

theorem lexeme_of_isWordStart {c : Char} (hc : isWordStart c = true) (cs : List Char) :
    lexeme c cs = wordLexeme c cs := by
  have hslash : (c == '/') = false := beq_false_of_ne (by rintro rfl; nomatch hc)
  have hstring : (c == '"') = false := beq_false_of_ne (by rintro rfl; nomatch hc)
  have hquote : (c == '\'') = false := beq_false_of_ne (by rintro rfl; nomatch hc)
  simp [lexeme, hc, hslash, hstring, hquote]

/-- The letter before a byte string or character can be passed over: what follows is found to be the
same lexeme. -/
theorem found_lead {c d : Char} {cs : List Char} {kind : LexemeKind} {n : Nat}
    (h : lexeme c (d :: cs) = ⟨kind, n + 1⟩) (hd : lexeme d cs = ⟨kind, n⟩)
    (hkind : kind.comment? = none) :
    found start place (c :: d :: cs) = found start (place.advance c) (d :: cs) := by
  rw [found_cons, found_cons d, h, hd, commentOf?, commentOf?, hkind]
  rfl

/-- Where a word begins, all characters of the word are passed over. -/
theorem found_wordStart {c : Char} {cs : List Char} (hc : isWordStart c = true)
    (hraw : beginsRaw (c :: cs) = false) :
    found start place (c :: cs) = foundPastWord start (place.advance c) cs := by
  have hlexeme := lexeme_of_isWordStart hc cs
  unfold wordLexeme at hlexeme
  dsimp only at hlexeme
  split at hlexeme
  · rw [rawLexeme?_eq_none hraw] at hlexeme
    exact found_takeWhile hlexeme rfl
  · rw [rawLexeme?_eq_none hraw] at hlexeme
    exact found_takeWhile hlexeme rfl
  · rename_i rest
    cases hend : stringTail? rest with
    | none =>
      rw [hend] at hlexeme
      exact found_takeWhile hlexeme rfl
    | some n =>
      rw [hend] at hlexeme
      have hstring : lexeme '"' rest = ⟨.string, n⟩ := by simp [lexeme, hend]
      rw [foundPastWord_of_not (by rintro d ⟨⟩; rfl)]
      exact found_lead hlexeme hstring rfl
  · rename_i rest
    cases hend : characterTail rest with
    | error =>
      rw [hend] at hlexeme
      exact found_takeWhile hlexeme rfl
    | ok n =>
      rw [hend] at hlexeme
      have hcharacter : lexeme '\'' rest = ⟨.character, n⟩ := by simp [lexeme, quoted, hend]
      rw [foundPastWord_of_not (by rintro d ⟨⟩; rfl)]
      exact found_lead hlexeme hcharacter rfl
  · exact found_takeWhile hlexeme rfl

/-! ## Texts without quotes and slashes -/

/-- The word in which the scanner is at the end of a text, if it is in `word` at the beginning. A
digit begins no word. -/
def lastWord (word : List Char) : List Char → List Char
  | [] => word
  | c :: cs =>
    if !word.isEmpty && isWordPart c then lastWord (word ++ [c]) cs
    else if isWordStart c then lastWord [c] cs
    else lastWord [] cs

theorem lastWord_append (word a b : List Char) :
    lastWord word (a ++ b) = lastWord (lastWord word a) b := by
  induction a generalizing word with
  | nil => rfl
  | cons c a ih => simp only [List.cons_append, lastWord, ih, apply_ite (lastWord · b)]

theorem isWordPart_of_start {c : Char} (h : isWordStart c = true) : isWordPart c = true := by
  simp only [isWordPart, isWordStart, Char.isAlphanum, Bool.or_eq_true] at h ⊢
  exact h.imp_left .inl

theorem isWordStart_of_not {c : Char} (h : isWordPart c = false) : isWordStart c = false :=
  Bool.eq_false_iff.mpr fun hc => absurd (isWordPart_of_start hc) (Bool.eq_false_iff.mp h)

/-- A character that is part of no word ends the word. -/
theorem lastWord_of_not {c : Char} (hc : isWordPart c = false) (word a b : List Char) :
    lastWord word (a ++ c :: b) = lastWord [] b := by
  rw [lastWord_append, lastWord, hc, isWordStart_of_not hc, Bool.and_false]
  rfl

/-- The comments of a text that stands at `place`, if the scanner is in `word` there. -/
def foundFrom (start : Position) (word : List Char) (place : Place) (cs : List Char) :
    List Comment :=
  if word = [] then found start place cs else foundPastWord start place cs

theorem foundFrom_of_not {word cs : List Char} (h : ∀ c ∈ cs.head?, isWordPart c = false) :
    foundFrom start word place cs = found start place cs := by
  unfold foundFrom
  split
  · rfl
  · exact foundPastWord_of_not h

theorem isOther_of_isNumberPart {c : Char} (hpart : Literal.isNumberPart c = true)
    (hc : isWordStart c = false) : isOther c = true := by
  refine isOther_iff.mpr ⟨hc, ?_, ?_, ?_⟩ <;>
  · rintro rfl
    revert hpart
    decide

theorem opensRaw_of_isNumberPart {c : Char} (hpart : Literal.isNumberPart c = true)
    (cs : List Char) : opensRaw (c :: cs) = false := by
  have hhash : (c == '#') = false := beq_false_of_ne (by rintro rfl; revert hpart; decide)
  have hquote : c ≠ '"' := by rintro rfl; revert hpart; decide
  rw [opensRaw, List.dropWhile_cons_of_neg (p := (· == '#')) (Bool.eq_false_iff.mp hhash)]
  simpa using hquote

/-- The head of a raw string in a text without quotes is the last word of the text. -/
theorem lastWord_of_beginsRaw {c : Char} {text after : List Char}
    (hparts : ∀ d ∈ text, Literal.isNumberPart d = true)
    (hend : lastWord [c] text ≠ [] → ∀ d ∈ after.head?, isWordPart d = false)
    (h : beginsRaw (c :: (text ++ after)) = true) :
    opensRaw after = true ∧ lastWord [c] text ∈ [['r'], ['b', 'r']] := by
  have hnil : ∀ {text : List Char}, (∀ d ∈ text, Literal.isNumberPart d = true) →
      opensRaw (text ++ after) = true → text = [] := by
    intro text hparts hopens
    cases text with
    | nil => rfl
    | cons d text =>
      rw [List.cons_append, opensRaw_of_isNumberPart (hparts d List.mem_cons_self)] at hopens
      nomatch hopens
  unfold beginsRaw at h
  split at h
  · rename_i cs heq
    obtain ⟨rfl, rfl⟩ := List.cons.inj heq
    obtain rfl := hnil hparts h
    exact ⟨h, by decide⟩
  · rename_i cs heq
    obtain ⟨rfl, hrest⟩ := List.cons.inj heq
    cases text with
    | nil =>
      obtain rfl : after = 'r' :: cs := hrest
      exact absurd (hend (by decide) 'r' rfl) (by decide)
    | cons d text =>
      obtain ⟨rfl, rfl⟩ := List.cons.inj hrest
      obtain rfl := hnil (List.forall_mem_cons.mp hparts).2 h
      exact ⟨h, by decide⟩
  · nomatch h

/-- **Passing over a text** without quotes, slashes and number signs: the word in which the scanner
is at its end must not be the head of a raw string. -/
theorem foundFrom_append {word text after : List Char}
    (hparts : ∀ c ∈ text, Literal.isNumberPart c = true)
    (hend : lastWord word text ≠ [] → ∀ c ∈ after.head?, isWordPart c = false)
    (hraw : opensRaw after = true → lastWord word text ∉ [['r'], ['b', 'r']]) :
    foundFrom start word place (text ++ after) = found start (place.after text) after := by
  induction text generalizing word place with
  | nil =>
    unfold foundFrom
    split
    · rfl
    · rename_i hword
      exact foundPastWord_of_not (hend hword)
  | cons c text ih =>
    obtain ⟨hc, htext⟩ := List.forall_mem_cons.mp hparts
    rw [lastWord] at hend hraw
    rw [List.cons_append, Place.after_cons]
    split at hend
    · -- The scanner stays in its word.
      rename_i hword
      rw [if_pos hword] at hraw
      obtain ⟨hne, hpart⟩ := (Bool.and_eq_true _ _).mp hword
      rw [← ih htext hend hraw, foundFrom, foundFrom, if_neg (by simpa using hne),
        if_neg (by simp), foundPastWord_cons hpart]
    · rename_i hword
      rw [if_neg hword] at hraw
      split at hend
      · -- A word begins, and no raw string with it.
        rename_i hstart
        rw [if_pos hstart] at hraw
        have hempty : word = [] := by simpa [isWordPart_of_start hstart] using hword
        have hbegins : beginsRaw (c :: (text ++ after)) = false :=
          Bool.eq_false_iff.mpr fun h =>
            have ⟨hopens, hhead⟩ := lastWord_of_beginsRaw htext hend h
            hraw hopens hhead
        rw [← ih htext hend hraw, foundFrom, foundFrom, if_pos hempty, if_neg (by simp),
          found_wordStart hstart hbegins]
      · rename_i hstart
        rw [if_neg hstart] at hraw
        have hstart : isWordStart c = false := Bool.eq_false_iff.mpr hstart
        have hfound : foundFrom start word place (c :: (text ++ after)) =
            found start place (c :: (text ++ after)) := by
          by_cases hempty : word = []
          · rw [foundFrom, if_pos hempty]
          · refine foundFrom_of_not fun d hd => ?_
            obtain rfl := Option.some.inj hd
            simpa [hempty] using hword
        rw [← ih htext hend hraw, hfound, found_other (isOther_of_isNumberPart hc hstart),
          foundFrom, if_pos rfl]

/-! ## Comments and literals -/

/-- The kind of a comment, which its mark gives. -/
def markedKind (text : List Char) : CommentKind :=
  if ['/', '*'].isPrefixOf text then .block else .line

theorem lexeme_blockComment {tail : List Char} (h : Lexer.BlockTail tail) (after : List Char) :
    lexeme '/' ('*' :: tail ++ after) = ⟨.blockComment, ('*' :: tail).length⟩ := by
  have hend := Lexer.blockTail?_append h 0 after
  simp [lexeme, hend]

theorem lexeme_slash {cs : List Char} (h : ∀ c ∈ cs.head?, c ≠ '/' ∧ c ≠ '*') :
    lexeme '/' cs = ⟨.slash, 0⟩ := by
  cases cs with
  | nil => rfl
  | cons c cs =>
    obtain ⟨hslash, hstar⟩ := h c rfl
    simp [lexeme, hslash, hstar]

/-- A comment is found. -/
theorem found_comment {text after : List Char} (h : Lexer.IsComment text after) :
    found start place (text ++ after) =
      ⟨markedKind text, String.ofList (dropReturns text), start.offsetBy place⟩ ::
        found start (place.after text) after := by
  cases h with
  | @line body _ hbody hafter =>
    have hline : restOfLine ('/' :: body ++ after) = '/' :: body :=
      restOfLine_append (by simpa using hbody) hafter
    have hlexeme : lexeme '/' ('/' :: body ++ after) = ⟨.lineComment, ('/' :: body).length⟩ := by
      rw [← congrArg List.length hline]
      rfl
    exact found_lexeme hlexeme
  | @block body _ hbody => exact found_lexeme (lexeme_blockComment hbody after)

theorem found_string {closed after : List Char}
    (hend : stringTail? (closed ++ after) = some closed.length) :
    found start place ('"' :: closed ++ after) = found start (place.after ('"' :: closed)) after :=
  have hlexeme : lexeme '"' (closed ++ after) = ⟨.string, closed.length⟩ := by
    simp [lexeme, hend]
  found_skip hlexeme rfl

theorem found_character {closed after : List Char}
    (hend : characterTail (closed ++ after) = .ok closed.length) :
    found start place ('\'' :: closed ++ after) =
      found start (place.after ('\'' :: closed)) after :=
  have hlexeme : lexeme '\'' (closed ++ after) = ⟨.character, closed.length⟩ := by
    simp [lexeme, quoted, hend]
  found_skip hlexeme rfl

theorem rawLexeme?_eq_some {hashes : Nat} {closed after : List Char}
    (hend : rawTail? hashes (closed ++ after) = some closed.length) (opened : Nat) :
    rawLexeme? opened (List.replicate hashes '#' ++ '"' :: (closed ++ after)) =
      some ⟨.rawString, opened + (List.replicate hashes '#' ++ '"' :: closed).length⟩ := by
  have hhashes : (List.replicate hashes '#' ++ '"' :: (closed ++ after)).takeWhile (· == '#') =
      List.replicate hashes '#' := by
    exact takeWhile_append_stop (fun c hc => beq_of_eq (List.eq_of_mem_replicate hc)) (by simp)
  have hdrop : (List.replicate hashes '#' ++ '"' :: (closed ++ after)).drop hashes =
      '"' :: (closed ++ after) := by
    rw [List.drop_left' List.length_replicate]
  unfold rawLexeme?
  dsimp only
  rw [hhashes, List.length_replicate, hdrop]
  simp only [hend]
  simp only [List.length_append, List.length_replicate, List.length_cons, Option.some.injEq,
    Lexeme.mk.injEq, true_and]
  omega

/-- A raw string is one lexeme, unless it is one of characters other than zero. -/
theorem found_raw {lead closed after : List Char} {hashes : Nat}
    (hlead : lead ∈ [['r'], ['b', 'r']])
    (hend : rawTail? hashes (closed ++ after) = some closed.length) :
    found start place (lead ++ (List.replicate hashes '#' ++ '"' :: closed) ++ after) =
      found start (place.after (lead ++ (List.replicate hashes '#' ++ '"' :: closed))) after := by
  have happend : List.replicate hashes '#' ++ '"' :: closed ++ after =
      List.replicate hashes '#' ++ '"' :: (closed ++ after) := List.append_assoc ..
  obtain rfl | hlead := List.mem_cons.mp hlead
  · have hlexeme : lexeme 'r' (List.replicate hashes '#' ++ '"' :: closed ++ after) =
        ⟨.rawString, (List.replicate hashes '#' ++ '"' :: closed).length⟩ := by
      rw [lexeme_of_isWordStart (by decide), happend]
      change (rawLexeme? 0 _).getD _ = _
      rw [rawLexeme?_eq_some hend, Nat.zero_add]
      rfl
    exact found_skip hlexeme rfl
  · obtain rfl := List.mem_singleton.mp hlead
    have hlexeme : lexeme 'b' ('r' :: (List.replicate hashes '#' ++ '"' :: closed) ++ after) =
        ⟨.rawString, ('r' :: (List.replicate hashes '#' ++ '"' :: closed)).length⟩ := by
      rw [lexeme_of_isWordStart (by decide), List.cons_append, happend]
      change (rawLexeme? 1 _).getD _ = _
      rw [rawLexeme?_eq_some hend, Nat.add_comm]
      rfl
    exact found_skip hlexeme rfl

/-- A slash that begins no comment is passed over. -/
theorem found_slash {cs : List Char} (h : ∀ c ∈ cs.head?, c ≠ '/' ∧ c ≠ '*') :
    found start place ('/' :: cs) = found start (place.advance '/') cs := by
  rw [found_cons, lexeme_slash h]
  rfl

/-- In ASCII the characters that begin identifiers are those that begin words. -/
theorem isWordPart_of_identifierStart {c : Char} (h : Text.isIdentifierStart c = true)
    (hc : isWordStart c = false) : isWordPart c = false := by
  refine Bool.eq_false_iff.mpr fun hpart => ?_
  rw [Text.isIdentifierStart, if_pos (Literal.toNat_of_isWordPart hpart).2] at h
  exact Bool.eq_false_iff.mp hc h

/-- A character that no quote follows is not closed. -/
theorem characterTail_lone {c : Char} {rest : List Char} (hquote : c ≠ '\'') (hslash : c ≠ '\\')
    (hnewline : c ≠ '\n') (hrest : rest.head? ≠ some '\'') :
    characterTail (c :: rest) = .error 1 := by
  rw [characterTail.eq_def]
  cases rest with
  | nil => simp [hslash, hquote, hnewline]
  | cons d rest =>
    have hd : d ≠ '\'' := fun heq => hrest (by rw [heq]; rfl)
    simp [hslash, hquote, hnewline, hd]

/-- Where no character begins, a quote has the word after it with it. -/
theorem found_quotedWord {c : Char} {rest : List Char} (hc : isWordStart c = true)
    (hrest : rest.head? ≠ some '\'') :
    found start place ('\'' :: c :: rest) = foundPastWord start (place.advance '\'') (c :: rest) := by
  have hne : ∀ d, isWordStart d = false → c ≠ d := by
    rintro d hd rfl
    rw [hc] at hd
    nomatch hd
  have htail := characterTail_lone (hne '\'' rfl) (hne '\\' rfl) (hne '\n' rfl) hrest
  have hlexeme : lexeme '\'' (c :: rest) =
      ⟨.lifetime, ((c :: rest).takeWhile isWordPart).length⟩ := by
    simp [lexeme, quoted, htail, hc]
  exact found_takeWhile hlexeme rfl

/-- At a lone quote the scanner passes over the quote and then is in a word. -/
theorem found_lifetime {cs : List Char} (h : Lexer.beginsLifetime cs = true) :
    found start place ('\'' :: cs) = foundPastWord start (place.advance '\'') cs := by
  obtain ⟨c, rest, rfl, hc, hrest⟩ := Lexer.exists_of_beginsLifetime h
  cases hword : isWordStart c with
  | true => exact found_quotedWord hword hrest
  | false =>
    have hne : ∀ d, Text.isIdentifierStart d = false → c ≠ d := by
      rintro d hd rfl
      exact Bool.eq_false_iff.mp hd hc
    have hquote := hne '\'' (by decide)
    have htail := characterTail_lone hquote (hne '\\' (by decide)) (hne '\n' (by decide)) hrest
    have hlexeme : lexeme '\'' ([c] ++ rest) = ⟨.unmatched, [c].length⟩ := by
      simp [lexeme, quoted, htail, hword]
    have hpart := isWordPart_of_identifierStart hc hword
    have hother : isOther c = true :=
      isOther_iff.mpr ⟨hword, hquote, hne '"' (by decide), hne '/' (by decide)⟩
    rw [foundPastWord_of_not (by rintro d ⟨⟩; exact hpart), found_other hother]
    exact found_skip hlexeme rfl

end PegCheck.Comments
