import PegCheck.Proofs.Host.Comments

/-!
# Well-formed lexemes

A text that is written as a list of lexemes, one on each line, is read back as that list: no lexeme
ends early, and none reaches into the next one. So the comments of the text are the lexemes that are
comments, whatever stands inside the strings and characters.

* `StringBody`, `CharacterBody`, `IsWritten`: the texts of well-formed lexemes.
* `closes_string`, `closes_rawString`, `characterTail_append`: the scanner finds the closing
  marks that are written.
* **`found_written`**: a lexeme before a newline is passed over, or found if it is a comment.
* **`scan_spell`**: the comments of a list of lexemes.
-/

namespace PegCheck.Comments

open Host

variable {start : Position} {place : Place}

/-! ## The texts of lexemes -/

/-- What stands between the quotes of a string: a backslash has the next character with it. -/
inductive StringBody : List Char → Prop where
  | nil : StringBody []
  | plain {c : Char} {rest : List Char} (hquote : c ≠ '"') (hslash : c ≠ '\\')
      (hrest : StringBody rest) : StringBody (c :: rest)
  | escape {c : Char} {rest : List Char} (hrest : StringBody rest) : StringBody ('\\' :: c :: rest)

/-- What stands between the quotes of a character: one character, or a backslash, the character that
it escapes, and more. -/
inductive CharacterBody : List Char → Prop where
  | plain {c : Char} (hquote : c ≠ '\'') (hslash : c ≠ '\\') (hnewline : c ≠ '\n') :
      CharacterBody [c]
  | escape {c : Char} {more : List Char} (hc : c ≠ '\n') (hmore : ∀ d ∈ more, d ≠ '\'' ∧ d ≠ '\n') :
      CharacterBody ('\\' :: c :: more)

/-- What closes a raw string. -/
def rawClosing (hashes : Nat) : List Char := '"' :: List.replicate hashes '#'

/-- The texts of a well-formed lexeme of some kind. -/
inductive IsWritten : LexemeKind → List Char → Prop where
  | lineComment {body : List Char} (hbody : '\n' ∉ body) :
      IsWritten .lineComment ('/' :: '/' :: body)
  | blockComment {tail : List Char} (htail : Lexer.BlockTail tail) :
      IsWritten .blockComment ('/' :: '*' :: tail)
  | string {lead body : List Char} (hlead : lead ∈ [[], ['b']]) (hbody : StringBody body) :
      IsWritten .string (lead ++ '"' :: (body ++ ['"']))
  | rawString {lead body : List Char} {hashes : Nat} (hlead : lead ∈ [['r'], ['b', 'r']])
      (hbody : ¬ rawClosing hashes <:+: body) :
      IsWritten .rawString
        (lead ++ (List.replicate hashes '#' ++ '"' :: (body ++ rawClosing hashes)))
  | character {lead body : List Char} (hlead : lead ∈ [[], ['b']]) (hbody : CharacterBody body) :
      IsWritten .character (lead ++ '\'' :: (body ++ ['\'']))
  | lifetime {c : Char} {name : List Char} (hc : isWordStart c = true)
      (hname : ∀ d ∈ name, isWordPart d = true) : IsWritten .lifetime ('\'' :: c :: name)
  | word {c : Char} {name : List Char} (hc : isWordStart c = true)
      (hname : ∀ d ∈ name, isWordPart d = true) : IsWritten .word (c :: name)
  | slash : IsWritten .slash ['/']
  | other {text : List Char} (htext : text ≠ []) (hother : ∀ c ∈ text, isOther c = true) :
      IsWritten .other text

/-- A well-formed lexeme. -/
structure Written where
  kind : LexemeKind
  text : List Char
  isWritten : IsWritten kind text

/-! ## Closing marks -/

theorem closes_string {body : List Char} (h : StringBody body) (after : List Char) :
    Literal.Closes stringTail? (body ++ ['"'] ++ after) after := by
  induction h with
  | nil => exact Literal.closes_quote after
  | plain hquote hslash hrest ih => exact ih.cons hquote hslash
  | escape hrest ih => exact ih.escape

/-- Number signs before a text with a quote are before the quote. -/
theorem replicate_prefix {n : Nat} {body after : List Char}
    (h : List.replicate n '#' <+: body ++ '"' :: after) : List.replicate n '#' <+: body := by
  induction body generalizing n with
  | nil =>
    cases n with
    | zero => exact List.nil_prefix
    | succ n => exact absurd (List.cons_prefix_cons.mp h).1 (by decide)
  | cons c body ih =>
    cases n with
    | zero => exact List.nil_prefix
    | succ n =>
      obtain ⟨hc, hrest⟩ := List.cons_prefix_cons.mp h
      exact List.cons_prefix_cons.mpr ⟨hc, ih hrest⟩

theorem closes_rawString {hashes : Nat} {body : List Char} (h : ¬ rawClosing hashes <:+: body)
    (after : List Char) :
    Literal.Closes (rawTail? hashes) (body ++ rawClosing hashes ++ after) after := by
  induction body with
  | nil =>
    have hclosing := Literal.closes_rawMark
      (List.isPrefixOf_iff_prefix.mpr (List.prefix_append (List.replicate hashes '#') after))
    rwa [List.drop_left' List.length_replicate] at hclosing
  | cons c body ih =>
    have hbody : ¬ rawClosing hashes <:+: body := fun hin =>
      h (hin.trans (List.suffix_cons c body).isInfix)
    rw [List.cons_append, List.cons_append]
    refine Literal.Closes.raw (Bool.eq_false_iff.mpr fun hmark => ?_) (ih hbody)
    -- A closing mark that begins here is one inside the body.
    obtain ⟨hquote, hhashes⟩ := (Bool.and_eq_true _ _).mp hmark
    obtain rfl := eq_of_beq hquote
    rw [List.append_assoc] at hhashes
    have hprefix := replicate_prefix (List.isPrefixOf_iff_prefix.mp hhashes)
    exact h (List.cons_prefix_cons.mpr ⟨rfl, hprefix⟩).isInfix

theorem characterTail_append {body : List Char} (h : CharacterBody body) (after : List Char) :
    characterTail (body ++ ['\''] ++ after) = .ok (body ++ ['\'']).length := by
  cases h with
  | plain hquote hslash hnewline => exact Literal.characterTail_plain hquote hslash hnewline after
  | @escape c more hc hmore =>
    have hend := Literal.characterTail_escape hc hmore after
    simpa using hend

/-! ## One lexeme -/

/-- The text goes on with a newline, if it goes on. -/
def EndsLine (after : List Char) : Prop := ∀ c ∈ after.head?, c = '\n'

theorem endsLine_nil : EndsLine [] := by
  rintro c ⟨⟩

theorem endsLine_newline (rest : List Char) : EndsLine ('\n' :: rest) := by
  rintro c ⟨⟩
  rfl

theorem EndsLine.cases {after : List Char} (h : EndsLine after) :
    after = [] ∨ ∃ rest, after = '\n' :: rest := by
  cases after with
  | nil => exact .inl rfl
  | cons c rest =>
    obtain rfl := h c rfl
    exact .inr ⟨rest, rfl⟩

/-- The rest of a word is passed over. -/
theorem foundFrom_word {word name after : List Char} (hname : ∀ d ∈ name, isWordPart d = true)
    (hafter : EndsLine after) :
    foundFrom start word place (name ++ after) = found start (place.after name) after := by
  have hopens : opensRaw after = false := by
    rcases hafter.cases with rfl | ⟨rest, rfl⟩ <;> rfl
  refine foundFrom_append (fun d hd => Literal.isNumberPart_of_isWordPart (hname d hd)) ?_ ?_
  · intro _ c hc
    rw [hafter c hc]
    rfl
  · intro hraw
    rw [hopens] at hraw
    nomatch hraw

/-- A string or a character is passed over with the letter that may stand before it. -/
theorem found_quotes {lead inside after : List Char} {c : Char} (hlead : lead ∈ [[], ['b']])
    (hc : isWordPart c = false)
    (hinside : found start (place.after lead) (c :: inside ++ after) =
      found start ((place.after lead).after (c :: inside)) after) :
    found start place (lead ++ c :: inside ++ after) =
      found start (place.after (lead ++ c :: inside)) after := by
  have hleads : ∀ l ∈ [[], ['b']], l ∈ [[], ['b'], ['c']] := by decide
  have hfound : foundFrom start (Piece.wordBefore false) place (lead ++ c :: inside ++ after) =
      found start (place.after (lead ++ c :: inside)) after :=
    foundFrom_quotes (hleads lead hlead) hc hinside
  exact hfound

theorem found_lifetimeName {c : Char} {name after : List Char} (hc : isWordStart c = true)
    (hname : ∀ d ∈ name, isWordPart d = true) (hafter : EndsLine after) :
    found start place ('\'' :: c :: name ++ after) =
      found start (place.after ('\'' :: c :: name)) after := by
  have hlone : (name ++ after).head? ≠ some '\'' := by
    cases name with
    | nil => rcases hafter.cases with rfl | ⟨rest, rfl⟩ <;> simp
    | cons d name =>
      intro hhead
      obtain rfl := Option.some.inj hhead
      exact absurd (hname '\'' List.mem_cons_self) (by decide)
  have hword : ∀ d ∈ c :: name, isWordPart d = true :=
    List.forall_mem_cons.mpr ⟨isWordPart_of_start hc, hname⟩
  have hrest : foundFrom start ['\''] (place.advance '\'') (c :: name ++ after) =
      found start ((place.advance '\'').after (c :: name)) after := foundFrom_word hword hafter
  exact (found_quotedWord hc hlone).trans hrest

/-- A run of characters that begin no other lexeme is passed over. -/
theorem found_others {text after : List Char} (hother : ∀ c ∈ text, isOther c = true) :
    found start place (text ++ after) = found start (place.after text) after := by
  induction text generalizing place with
  | nil => rfl
  | cons c text ih =>
    obtain ⟨hc, htext⟩ := List.forall_mem_cons.mp hother
    rw [List.cons_append, found_other hc, ih htext, Place.after_cons]

/-- **One lexeme.** Before a newline a lexeme is passed over, or found if it is a comment. -/
theorem found_written {kind : LexemeKind} {text after : List Char} (h : IsWritten kind text)
    (hafter : EndsLine after) :
    found start place (text ++ after) =
      (commentOf? start (kind, place, text)).toList ++ found start (place.after text) after := by
  cases h with
  | lineComment hbody => exact found_comment (.line hbody hafter)
  | blockComment htail => exact found_comment (.block htail)
  | string hlead hbody =>
    exact found_quotes hlead rfl (found_string (closes_string hbody after).tail?_eq)
  | rawString hlead hbody => exact found_raw hlead (closes_rawString hbody after).tail?_eq
  | character hlead hbody =>
    exact found_quotes hlead rfl (found_character (characterTail_append hbody after))
  | lifetime hc hname => exact found_lifetimeName hc hname hafter
  | @word c name hc hname =>
    have hword : ∀ d ∈ c :: name, isWordPart d = true :=
      List.forall_mem_cons.mpr ⟨isWordPart_of_start hc, hname⟩
    have hfound : foundFrom start [] place (c :: name ++ after) =
        found start (place.after (c :: name)) after := foundFrom_word hword hafter
    exact hfound
  | slash =>
    refine found_slash fun c hc => ?_
    rw [hafter c hc]
    decide
  | other htext hother => exact found_others hother

/-! ## Lists of lexemes -/

/-- The text of lexemes, each on lines of its own. -/
def spell (ls : List Written) : List Char := ['\n'].intercalate (ls.map Written.text)

/-- Lexemes with the text before each of them, when `before` stands before the first. -/
def placed (before : List Char) : List Written → List (List Char × Written)
  | [] => []
  | l :: ls => (before, l) :: placed (before ++ (l.text ++ ['\n'])) ls

/-- The comment that a lexeme is, at the position at which the text before it ends. -/
def Written.comment? (start : Position) (before : List Char) (l : Written) : Option Comment :=
  l.kind.comment?.map fun k =>
    ⟨k, String.ofList (dropReturns l.text), endPosition before start⟩

@[simp] theorem spell_singleton (l : Written) : spell [l] = l.text := List.intercalate_singleton

theorem spell_cons_cons (l l' : Written) (ls : List Written) :
    spell (l :: l' :: ls) = l.text ++ '\n' :: spell (l' :: ls) := by
  simp [spell, List.intercalate_cons_cons]

theorem found_cons_written (start : Position) (before : List Char) (l : Written) {after : List Char}
    (hafter : EndsLine after) :
    found start (.after .origin before) (l.text ++ after) =
      (l.comment? start before).toList ++
        found start (.after .origin (before ++ l.text)) after := by
  rw [found_written l.isWritten hafter, Place.after_append]
  rfl

/-- The text before a lexeme is the one that the list gives. -/
theorem exists_after_placed (before : List Char) (ls : List Written) :
    ∀ p ∈ placed before ls, ∃ after, before ++ spell ls = p.1 ++ (p.2.text ++ after) := by
  induction ls generalizing before with
  | nil => nofun
  | cons l ls ih =>
    cases ls with
    | nil => exact List.forall_mem_singleton.mpr ⟨[], by simp⟩
    | cons l' ls =>
      refine List.forall_mem_cons.mpr ⟨⟨'\n' :: spell (l' :: ls), ?_⟩, fun p hp => ?_⟩
      · rw [spell_cons_cons]
      · obtain ⟨after, hafter⟩ := ih _ p hp
        refine ⟨after, ?_⟩
        rw [← hafter, spell_cons_cons]
        simp

/-- The comments that are found in a text of lexemes. -/
theorem found_spell (start : Position) (before : List Char) (ls : List Written) :
    found start (.after .origin before) (spell ls) =
      (placed before ls).filterMap fun p => p.2.comment? start p.1 := by
  induction ls generalizing before with
  | nil => exact found_nil
  | cons l ls ih =>
    rw [placed, List.filterMap_cons]
    cases ls with
    | nil =>
      have hspell : spell [l] = l.text ++ [] := by simp
      rw [hspell, found_cons_written start before l endsLine_nil, found_nil]
      cases l.comment? start before <;> rfl
    | cons l' ls =>
      have hplace : (Place.origin.after (before ++ l.text)).advance '\n' =
          .after .origin (before ++ (l.text ++ ['\n'])) := by
        rw [← List.append_assoc, Place.after_append .origin (before ++ l.text)]
        rfl
      rw [spell_cons_cons, found_cons_written start before l (endsLine_newline _),
        found_other (by decide), hplace, ih]
      cases l.comment? start before <;> rfl

/-- **The comments of a list of lexemes** are the lexemes that are comments, in order, each with the
position at which it begins; whatever stands inside the others is no comment. -/
theorem scan_spell (ls : List Written) (start : Position) :
    scan (spell ls) start = ((placed [] ls).filterMap fun p => p.2.comment? start p.1) ∧
      ∀ p ∈ placed [] ls, ∃ after, spell ls = p.1 ++ (p.2.text ++ after) :=
  ⟨found_spell start [] ls, exists_after_placed [] ls⟩

/-- Marks of comments inside literals, before and after comments. -/
example : scan "br#\"/* \" //\"#\n/* /* ß */ */\n'\\'/*'\n'a\n\"\\\"//\"\n// é\r\r".toList ⟨3, 7⟩ =
    [⟨.block, "/* /* ß */ */", ⟨4, 1⟩⟩, ⟨.line, "// é", ⟨8, 1⟩⟩] := by decide +kernel

end PegCheck.Comments
