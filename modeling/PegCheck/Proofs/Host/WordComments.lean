import PegCheck.Proofs.Host.Words
import PegCheck.Proofs.Text.Snippets
import Mathlib.Data.List.DropRight

/-!
# Words and comments

In the language of words a number sign begins a comment that runs to the end of its line, and what
is not in a comment is code. The two parts of the front end find comments in their own ways: the
scanner begins one at every number sign, also at one inside a comment, and the tokens stop for good
at the first number sign. So they agree with each other, and with the rule, on some sources only.

* `InComment`: the place after a first part of a source is inside a comment.
* `Agree`: the comments and tokens that the rule gives for a source.
* `mem_comments`: what the scanner finds, on every source.
* `exists_run`: a word character is in a run that begins no later, inside a comment or outside it as
  the character is.
* `IsTame`: no line has two number signs, and behind the first number sign all words are in
  comments.
* **`agree_iff`**: the front end keeps to the rule on a source that it accepts exactly if the source
  is tame.
* `not_agree_secondLine`: a source with a word on the line after a comment.
-/

namespace PegCheck.Words

open Text (isWordChar)

/-! ## The rule -/

/-- The last line of a text, or the part of it that the text has. -/
def lastLine (text : List Char) : List Char := text.rtakeWhile (· != '\n')

/-- What follows the text on its last line is inside a comment. -/
def InComment (before : List Char) : Prop := '#' ∈ lastLine before

instance (before : List Char) : Decidable (InComment before) :=
  inferInstanceAs (Decidable ('#' ∈ lastLine before))

/-- The comments and tokens of a source that begins at `start`, by the rule that a number sign
outside comments begins one that runs to the end of its line. -/
structure Agree (source : List Char) (start : Position) (tokens : List HostToken)
    (comments : List Comment) : Prop where
  mem_comments : ∀ c, c ∈ comments ↔
    ∃ before body after, source = before ++ ('#' :: body ++ after) ∧ ¬ InComment before ∧
      '\n' ∉ body ∧ (∀ d ∈ after.head?, d = '\n') ∧
      c = ⟨.line, String.ofList ('#' :: body), endPosition before start⟩
  /-- A comment ends before the next one begins. -/
  comments_apart : comments.Pairwise fun a b => endPosition a.text.toList a.position ≤ b.position
  /-- A comment begins and ends at characters that are in no word, so a run of the text outside
  comments is a run of the source that is not in a comment. -/
  mem_tokens : ∀ t, t ∈ tokens ↔
    ∃ before word after, source = before ++ (word ++ after) ∧ IsRun before word after ∧
      ¬ InComment before ∧ t = ⟨.ident, String.ofList word, endPosition before start⟩
  tokens_ordered : tokens.Pairwise fun a b => a.position < b.position

/-- The sources on which the front end keeps to the rule. -/
structure IsTame (source : List Char) : Prop where
  /-- No line has two number signs. -/
  marks : ∀ before after, source = before ++ '#' :: after → ¬ InComment before
  /-- After the first number sign, word characters are in comments only. -/
  words : ∀ before c after, source = before ++ c :: after → isWordChar c = true →
    '#' ∈ before → InComment before

theorem isTame_iff_take {source : List Char} :
    IsTame source ↔ ∀ n < source.length,
      (source[n]? = some '#' → ¬ InComment (source.take n)) ∧
        (source[n]?.any isWordChar = true → '#' ∈ source.take n → InComment (source.take n)) := by
  constructor
  · intro h n hn
    have hcut : source = source.take n ++ source[n] :: source.drop (n + 1) := by
      rw [List.getElem_cons_drop, List.take_append_drop]
    rw [List.getElem?_eq_getElem hn]
    refine ⟨fun hmark => ?_, fun hword => h.words _ _ _ hcut hword⟩
    rw [Option.some.inj hmark] at hcut
    exact h.marks _ _ hcut
  · intro h
    have hat : ∀ before c after, source = before ++ c :: after →
        (c = '#' → ¬ InComment before) ∧
          (isWordChar c = true → '#' ∈ before → InComment before) := by
      rintro before c after rfl
      simpa using h before.length (by simp)
    exact ⟨fun before after heq => (hat before '#' after heq).1 rfl,
      fun before c after heq => (hat before c after heq).2⟩

instance (source : List Char) : Decidable (IsTame source) := decidable_of_iff _ isTame_iff_take.symm

/-! ## Last lines -/

variable {source before after more : List Char} {start : Position} {place : Place}

theorem lastLine_append (before : List Char) (hmore : '\n' ∉ more) :
    lastLine (before ++ more) = lastLine before ++ more := by
  have hne : ∀ c ∈ more.reverse, (c != '\n') = true := fun c hc =>
    bne_iff_ne.mpr fun heq => hmore (heq ▸ List.mem_reverse.mp hc)
  rw [lastLine, List.rtakeWhile, List.reverse_append, List.takeWhile_append_of_pos hne,
    List.reverse_append, List.reverse_reverse]
  rfl

theorem mem_of_inComment (h : InComment before) : '#' ∈ before :=
  (List.rtakeWhile_suffix _ before).subset h

/-- Characters of words neither begin nor end a comment. -/
theorem inComment_append (hmore : ∀ c ∈ more, isWordChar c = true) :
    InComment (before ++ more) ↔ InComment before := by
  have hnot : ∀ {d}, isWordChar d = false → d ∉ more := fun hd hmem => by
    rw [hmore _ hmem] at hd
    nomatch hd
  rw [InComment, lastLine_append before (hnot (by decide)), List.mem_append,
    or_iff_left (hnot isWordChar_mark)]
  rfl

/-! ## What the scanner finds -/

section Scanner

variable {code : String} {c : Comment} {text : List Char}

theorem mem_commentsFrom :
    c ∈ commentsFrom start place text ↔
      ∃ before rest, text = before ++ '#' :: rest ∧
        c = ⟨.line, String.ofList ('#' :: restOfLine rest),
          start.offsetBy (place.after before)⟩ := by
  induction text generalizing place with
  | nil => simp [commentsFrom]
  | cons d ds ih =>
    have hlater : (∃ before rest, d :: ds = d :: before ++ '#' :: rest ∧
        c = ⟨.line, String.ofList ('#' :: restOfLine rest),
          start.offsetBy (place.after (d :: before))⟩) ↔
        c ∈ commentsFrom start (place.advance d) ds := by
      simp only [ih, List.cons_append, List.cons.injEq, true_and, Place.after_cons]
    constructor
    · intro hmem
      by_cases hd : d = '#'
      · subst hd
        rcases List.mem_cons.mp hmem with rfl | hmem
        · exact ⟨[], ds, rfl, rfl⟩
        · obtain ⟨before, rest, h⟩ := hlater.mpr hmem
          exact ⟨_, rest, h⟩
      · rw [commentsFrom, if_neg (by simpa using hd)] at hmem
        obtain ⟨before, rest, h⟩ := hlater.mpr hmem
        exact ⟨_, rest, h⟩
    · rintro ⟨before, rest, heq, hc⟩
      rcases List.cons_eq_append_iff.mp heq with ⟨rfl, hrest⟩ | ⟨before, rfl, -⟩
      · obtain ⟨rfl, rfl⟩ := List.cons.inj hrest
        exact List.mem_cons.mpr (.inl hc)
      · have hmem := hlater.mp ⟨before, rest, heq, hc⟩
        rw [commentsFrom]
        split
        · exact List.mem_cons_of_mem _ hmem
        · exact hmem

/-- **The scanner begins a comment at every number sign.** -/
theorem mem_comments :
    c ∈ comments code start ↔
      ∃ before body after, code.toList = before ++ ('#' :: body ++ after) ∧ '\n' ∉ body ∧
        (∀ d ∈ after.head?, d = '\n') ∧
        c = ⟨.line, String.ofList ('#' :: body), endPosition before start⟩ := by
  rw [comments, mem_commentsFrom]
  constructor
  · rintro ⟨before, rest, heq, hc⟩
    refine ⟨before, restOfLine rest, rest.dropWhile (· != '\n'), ?_, not_mem_takeWhile_field,
      dropWhile_field, hc⟩
    rw [heq, List.cons_append, restOfLine, List.takeWhile_append_dropWhile]
  · rintro ⟨before, body, after, heq, hbody, hafter, hc⟩
    refine ⟨before, body ++ after, heq, ?_⟩
    rw [restOfLine_append hbody hafter]
    exact hc

/-- The comments are in the order of their number signs. -/
theorem commentsFrom_pairwise (hline : 1 ≤ place.line) :
    (commentsFrom start place text).Pairwise fun a b => a.position < b.position := by
  induction text generalizing place with
  | nil => exact .nil
  | cons d ds ih =>
    have hnext : 1 ≤ (place.advance d).line := by
      rw [show place.advance d = place.after [d] from rfl, Place.line_after]
      exact Nat.le_add_right_of_le hline
    rw [commentsFrom]
    split
    · refine List.pairwise_cons.mpr ⟨fun later hlater => ?_, ih hnext⟩
      obtain ⟨before, -, -, rfl⟩ := mem_commentsFrom.mp hlater
      rw [← Place.after_cons]
      exact start.offsetBy_lt_after hline (List.cons_ne_nil _ _)
    · exact ih hnext

end Scanner

/-! ## Places in a source -/

theorem endPosition_le_append (before more : List Char) (start : Position) :
    endPosition before start ≤ endPosition (before ++ more) start := by
  by_cases hmore : more = []
  · rw [hmore, List.append_nil]
    exact Std.le_refl _
  · exact Std.le_of_lt (endPosition_lt_append before hmore start)

/-- Two first parts of a source are the same if they end at one position. -/
theorem eq_of_endPosition {before' after' : List Char} (heq : before ++ after = before' ++ after')
    (hend : endPosition before start = endPosition before' start) : before = before' := by
  have hsame : ∀ {a more : List Char}, endPosition a start = endPosition (a ++ more) start →
      a ++ more = a := fun {a more} hend => by
    by_cases hmore : more = []
    · rw [hmore, List.append_nil]
    · have hlt := endPosition_lt_append a hmore start
      exact absurd (hend ▸ hlt) (Std.lt_irrefl)
  rcases List.append_eq_append_iff.mp heq with ⟨more, rfl, -⟩ | ⟨more, rfl, -⟩
  · exact (hsame hend).symm
  · exact hsame hend.symm

/-- A word character is in a run that begins no later. -/
theorem exists_run {c : Char} (hc : isWordChar c = true) (before after : List Char) :
    ∃ front more word rest, before = front ++ more ∧ (∀ d ∈ more, isWordChar d = true) ∧
      before ++ c :: after = front ++ (word ++ rest) ∧ IsRun front word rest := by
  have hcut : before = before.rdropWhile isWordChar ++ before.rtakeWhile isWordChar :=
    List.rdropWhile_append_rtakeWhile.symm
  have hmore : ∀ d ∈ before.rtakeWhile isWordChar, isWordChar d = true := fun d hd =>
    List.mem_rtakeWhile_imp hd
  refine ⟨_, _, before.rtakeWhile isWordChar ++ c :: after.takeWhile isWordChar,
    after.dropWhile isWordChar, hcut, hmore, ?_, ?_, ?_, fun d hd => ?_, dropWhile_stop⟩
  · rw [List.append_assoc, List.cons_append, List.takeWhile_append_dropWhile, ← List.append_assoc,
      ← hcut]
  · simp
  · intro d hd
    rcases List.mem_append.mp hd with hd | hd
    · exact hmore d hd
    · rcases List.mem_cons.mp hd with rfl | hd
      · exact hc
      · exact List.mem_takeWhile_imp hd
  · have hne : before.rdropWhile isWordChar ≠ [] := by
      intro hnil
      rw [hnil] at hd
      nomatch hd
    have hlast := List.rdropWhile_last_not isWordChar before hne
    rw [List.getLast?_eq_some_getLast hne, Option.mem_def, Option.some.injEq] at hd
    simpa [hd] using hlast

/-! ## The rule kept -/

section Rule

variable {code : String}

/-- A source without a second number sign on a line has its comments apart. -/
theorem comments_apart (htame : IsTame code.toList) :
    (comments code start).Pairwise fun a b =>
      endPosition a.text.toList a.position ≤ b.position := by
  have hordered : (comments code start).Pairwise fun a b => a.position < b.position :=
    commentsFrom_pairwise (Nat.le_refl 1)
  refine hordered.imp_of_mem fun {a b} ha hb hlt => ?_
  obtain ⟨before, body, after, heq, hbody, -, rfl⟩ := mem_comments.mp ha
  obtain ⟨before', body', after', heq', -, -, rfl⟩ := mem_comments.mp hb
  have hopen : ¬ InComment before' := htame.marks before' _ heq'
  rcases List.append_eq_append_iff.mp (heq.symm.trans heq') with
    ⟨more, rfl, htail⟩ | ⟨more, rfl, -⟩
  · rcases List.append_eq_append_iff.mp htail with ⟨gap, rfl, -⟩ | ⟨gap, hinside, -⟩
    · rw [String.toList_ofList, ← endPosition_append, ← List.append_assoc]
      exact endPosition_le_append _ gap start
    -- The second number sign would be on the line of the first.
    · cases more with
      | nil =>
        rw [List.append_nil] at hlt
        exact absurd hlt Std.lt_irrefl
      | cons d ds =>
        obtain ⟨rfl, rfl⟩ := List.cons.inj hinside
        have hline : '\n' ∉ '#' :: ds := by simpa using fun hmem => hbody (by simp [hmem])
        refine absurd ?_ hopen
        rw [InComment, lastLine_append before hline]
        simp
  · exact absurd hlt (Std.not_lt.mpr (endPosition_le_append before' more start))

/-- A source on which the front end keeps to the rule. -/
theorem agree_of_isTame (htame : IsTame code.toList) :
    Agree code.toList start (tokens code.toList start) (comments code start) where
  mem_comments c := by
    rw [mem_comments]
    constructor
    · rintro ⟨before, body, after, heq, hline⟩
      exact ⟨before, body, after, heq, htame.marks before _ heq, hline⟩
    · rintro ⟨before, body, after, heq, -, hline⟩
      exact ⟨before, body, after, heq, hline⟩
  comments_apart := comments_apart htame
  mem_tokens t := by
    rw [mem_tokens]
    constructor
    · rintro ⟨before, word, after, heq, hrun, hmark, ht⟩
      exact ⟨before, word, after, heq, hrun, mt mem_of_inComment hmark, ht⟩
    · rintro ⟨before, word, after, heq, hrun, hopen, ht⟩
      refine ⟨before, word, after, heq, hrun, fun hmark => ?_, ht⟩
      obtain ⟨c, cs, rfl⟩ := List.exists_cons_of_ne_nil hrun.ne_nil
      exact hopen (htame.words before c _ heq (hrun.isWord c List.mem_cons_self) hmark)
  tokens_ordered := tokens_pairwise _ start

/-- A source on which the front end keeps to the rule has no other number signs and words than those
that the front end finds by its own ways. -/
theorem isTame_of_agree
    (h : Agree code.toList start (tokens code.toList start) (comments code start)) :
    IsTame code.toList where
  marks before after heq := by
    have hfound : ⟨.line, String.ofList ('#' :: restOfLine after), endPosition before start⟩ ∈
        comments code start := mem_commentsFrom.mpr ⟨before, after, heq, rfl⟩
    obtain ⟨before', body, after', heq', hopen, -, -, hsame⟩ := (h.mem_comments _).mp hfound
    have hend : endPosition before start = endPosition before' start :=
      congrArg Comment.position hsame
    rw [eq_of_endPosition (heq.symm.trans heq') hend]
    exact hopen
  words before c after heq hc hmark := by
    by_contra hopen
    obtain ⟨front, more, word, rest, rfl, hmore, hrest, hrun⟩ := exists_run hc before after
    rw [inComment_append hmore] at hopen
    have hfound := (h.mem_tokens _).mpr ⟨front, word, rest, heq.trans hrest, hrun, hopen, rfl⟩
    obtain ⟨front', word', rest', heq', -, hnone, hsame⟩ := mem_tokens.mp hfound
    have hend : endPosition front start = endPosition front' start :=
      congrArg HostToken.position hsame
    rw [← eq_of_endPosition ((heq.trans hrest).symm.trans heq') hend] at hnone
    rcases List.mem_append.mp hmark with hmark | hmark
    · exact hnone hmark
    · have hword := hmore '#' hmark
      rw [isWordChar_mark] at hword
      nomatch hword

/-- **The front end keeps to the rule** on the sources without a second number sign on a line and
without a word behind the first comment and outside comments, and on no others. -/
theorem agree_iff {rejections : List Rejection} (h : rejection? rejections code = none)
    (start : Position) :
    ∃ parsed, (frontEnd rejections).parse code start = .ok parsed ∧
      (Agree code.toList start parsed.tokens ((frontEnd rejections).comments code start) ↔
        IsTame code.toList) := by
  refine ⟨⟨tokens code.toList start, forms code.toList start, endPosition code.toList start⟩, ?_,
    isTame_of_agree, agree_of_isTame⟩
  change parse rejections code start = _
  unfold parse
  rw [h]

/-- A front end that rejects another text, and a source with comments on three of its lines. -/
theorem agree_iff_sample :
    rejection? [⟨"a", true, "no"⟩] "a b_ # ß\n\n# x\n #" = none ∧
      IsTame "a b_ # ß\n\n# x\n #".toList ∧
      ∃ parsed, (frontEnd [⟨"a", true, "no"⟩]).parse "a b_ # ß\n\n# x\n #" ⟨3, 4⟩ = .ok parsed ∧
        Agree "a b_ # ß\n\n# x\n #".toList ⟨3, 4⟩ parsed.tokens
          ((frontEnd [⟨"a", true, "no"⟩]).comments "a b_ # ß\n\n# x\n #" ⟨3, 4⟩) := by
  have haccepted : rejection? [⟨"a", true, "no"⟩] "a b_ # ß\n\n# x\n #" = none := by decide
  have htame : IsTame "a b_ # ß\n\n# x\n #".toList := by decide +kernel
  obtain ⟨parsed, hparsed, hagree⟩ := agree_iff haccepted ⟨3, 4⟩
  exact ⟨haccepted, htame, parsed, hparsed, hagree.mpr htame⟩

/-- The word on the line after a comment is no token. -/
theorem not_agree_secondLine :
    ∃ parsed, (frontEnd []).parse "a # x\nb" .origin = .ok parsed ∧
      parsed.tokens = [⟨.ident, "a", ⟨1, 1⟩⟩] ∧
      ¬ Agree "a # x\nb".toList .origin parsed.tokens
        ((frontEnd []).comments "a # x\nb" .origin) := by
  refine ⟨_, rfl, by decide, fun h => ?_⟩
  have hopen : InComment "a # x\n".toList :=
    (isTame_of_agree h).words "a # x\n".toList 'b' [] (by decide) (by decide) (by decide)
  exact absurd hopen (by decide)

end Rule

end PegCheck.Words
