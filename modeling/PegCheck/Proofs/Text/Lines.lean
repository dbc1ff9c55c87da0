import PegCheck.Proofs.Text.Fields
import PegCheck.Text.Offset
import Mathlib.Data.List.Induction

/-!
# Offsets and positions are inverse

A text is whole lines, each with its newline, followed by the beginning of one more line. The number
of whole lines and the length of that beginning give the position at the end of the text, and from
the position the text is found again by walking over as many newlines and characters.

Results:
* `exists_wholeLines`: every text is whole lines and the beginning of one more.
* `endPosition_wholeLines`, `splitAtLine?_wholeLines`: what the two directions make of that form.
* `splitAtPosition?_endPosition`: the position at the end of the first part of a source cuts the
  source after that part.
* `endPosition_lt_append`, `positionAt?_lt`: positions grow with offsets.
* `exists_endPosition`: every position that is in a text is the one at the end of a first part of
  it.
* **`byteOffset?_positionAt?`**: byte offsets on character boundaries and positions in the text are
  mapped to each other without loss.
-/

namespace PegCheck

/-- A character of the source begins at byte `offset`, or the source ends there. -/
def OnBoundary (source : List Char) (offset : Nat) : Prop :=
  ∃ before after, source = before ++ after ∧ offset = byteLength before

/-- The position is in the text: its line exists and its column is at most one past the end of that
line. -/
def Position.LiesIn (source : List Char) (p : Position) : Prop :=
  1 ≤ p.line ∧ 1 ≤ p.column ∧
    ∃ line, (source.splitOn '\n')[p.line - 1]? = some line ∧ p.column ≤ line.length + 1

/-- The text consists of lines that end in a newline each. -/
def WholeLines (text : List Char) : Prop := text = [] ∨ ∃ lines, text = lines ++ ['\n']

/-! ## Whole lines and the beginning of one more -/

theorem WholeLines.cons {text : List Char} (h : WholeLines text) (line : List Char) :
    WholeLines (line ++ '\n' :: text) := by
  rcases h with rfl | ⟨lines, rfl⟩
  · exact .inr ⟨line, rfl⟩
  · exact .inr ⟨line ++ '\n' :: lines, by simp⟩

/-- Whole lines are none, or a first one and more. -/
theorem WholeLines.cases {text : List Char} (h : WholeLines text) :
    text = [] ∨ ∃ line more, text = line ++ '\n' :: more ∧ '\n' ∉ line ∧ WholeLines more := by
  refine h.imp_right ?_
  rintro ⟨lines, rfl⟩
  obtain ⟨line, more, heq, hline⟩ :=
    List.eq_append_cons_of_mem (show '\n' ∈ lines ++ ['\n'] by simp)
  refine ⟨line, more, heq, hline, ?_⟩
  rcases more.eq_nil_or_concat with rfl | ⟨more, c, rfl⟩
  · exact .inl rfl
  · rw [List.concat_eq_append] at *
    rw [← List.cons_append, ← List.append_assoc] at heq
    obtain rfl := List.singleton_inj.mp (List.append_inj' heq rfl).2
    exact .inr ⟨more, rfl⟩

theorem exists_wholeLines (text : List Char) :
    ∃ lines line, text = lines ++ line ∧ WholeLines lines ∧ '\n' ∉ line := by
  induction text using List.reverseRecOn with
  | nil => exact ⟨[], [], rfl, .inl rfl, List.not_mem_nil⟩
  | append_singleton text c ih =>
    by_cases hc : c = '\n'
    · subst hc
      exact ⟨text ++ ['\n'], [], (List.append_nil _).symm, .inr ⟨text, rfl⟩, List.not_mem_nil⟩
    · obtain ⟨lines, line, rfl, hlines, hline⟩ := ih
      refine ⟨lines, line ++ [c], List.append_assoc .., hlines, fun h => ?_⟩
      rcases List.mem_append.mp h with h | h
      · exact hline h
      · exact hc (List.mem_singleton.mp h).symm

theorem Place.after_of_not_mem {line : List Char} (p : Place) (h : '\n' ∉ line) :
    p.after line = ⟨p.line, p.column + line.length⟩ := by
  induction line generalizing p with
  | nil => rfl
  | cons c cs ih =>
    obtain ⟨hc, hcs⟩ := not_or.mp (mt List.mem_cons.mpr h)
    rw [after_cons, ih _ hcs, advance, if_neg (Ne.symm hc), List.length_cons]
    simp only [Nat.add_assoc, Nat.add_comm 1]

theorem Place.line_after (p : Place) (text : List Char) :
    (p.after text).line = p.line + text.count '\n' := by
  induction text generalizing p with
  | nil => rfl
  | cons c cs ih =>
    rw [after_cons, ih, List.count_cons, advance]
    by_cases hc : c = '\n'
    · simp [hc, Nat.add_assoc, Nat.add_comm 1]
    · simp [hc]

theorem Place.after_wholeLines {lines : List Char} (h : WholeLines lines) :
    Place.origin.after lines = ⟨lines.count '\n' + 1, 0⟩ := by
  rcases h with rfl | ⟨lines, rfl⟩
  · rfl
  · have hline := Place.origin.line_after lines
    rw [after_append, after_cons, after_nil, advance, if_pos rfl, hline, List.count_append]
    simp [origin, Nat.add_comm 1]

/-- The position after whole lines and the beginning of one more. -/
theorem endPosition_wholeLines {lines line : List Char} (hlines : WholeLines lines)
    (hline : '\n' ∉ line) :
    endPosition (lines ++ line) .origin = ⟨lines.count '\n' + 1, line.length + 1⟩ := by
  rw [endPosition, Place.after_append, Place.after_wholeLines hlines,
    Place.after_of_not_mem _ hline, Position.offsetBy]
  simp only [Position.origin, Nat.zero_add]
  split
  · rename_i h
    rw [Position.mk.injEq]
    omega
  · rw [Position.mk.injEq]
    omega

/-! ## Walking over lines -/

theorem takeWhile_line {line : List Char} (h : '\n' ∉ line) (rest : List Char) :
    (line ++ '\n' :: rest).takeWhile (· != '\n') = line ∧
      (line ++ '\n' :: rest).dropWhile (· != '\n') = '\n' :: rest := by
  have hne : ∀ c ∈ line, (c != '\n') = true := fun c hc =>
    bne_iff_ne.mpr fun heq => h (heq ▸ hc)
  rw [List.takeWhile_append_of_pos hne, List.dropWhile_append_of_pos hne]
  exact ⟨List.append_nil _, rfl⟩

/-- The rest of a line ends where the line ends. -/
theorem restOfLine_append {line after : List Char} (hline : '\n' ∉ line)
    (hafter : ∀ c ∈ after.head?, c = '\n') : restOfLine (line ++ after) = line :=
  takeWhile_field hline hafter

theorem take_restOfLine_append {line : List Char} (hline : '\n' ∉ line) (after : List Char) :
    (restOfLine (line ++ after)).take line.length = line := by
  have hne : ∀ c ∈ line, (c != '\n') = true := fun c hc =>
    bne_iff_ne.mpr fun heq => hline (heq ▸ hc)
  rw [restOfLine, List.takeWhile_append_of_pos hne, List.take_left]

/-- As many lines as there are newlines in whole lines are those lines. -/
theorem splitAtLine?_wholeLines {lines : List Char} (h : WholeLines lines) (rest : List Char) :
    splitAtLine? (lines.count '\n') (lines ++ rest) = some (lines, rest) := by
  obtain ⟨n, hn⟩ : ∃ n, lines.count '\n' = n := ⟨_, rfl⟩
  rw [hn]
  induction n generalizing lines with
  | zero =>
    rcases h with rfl | ⟨lines, rfl⟩
    · rfl
    · simp at hn
  | succ n ih =>
    obtain rfl | ⟨line, more, rfl, hline, hmore⟩ := h.cases
    · simp at hn
    · have hcount : more.count '\n' = n := by
        rw [List.count_append, List.count_eq_zero_of_not_mem hline, List.count_cons_self] at hn
        omega
      obtain ⟨htake, hdrop⟩ := takeWhile_line hline (more ++ rest)
      rw [List.append_assoc, List.cons_append, splitAtLine?, hdrop, htake]
      simp only [ih hmore hcount, Option.map_some]

/-- **The end of the first part of a source** is a position at which the source is cut after that
part. -/
theorem splitAtPosition?_endPosition (before after : List Char) :
    splitAtPosition? (before ++ after) (endPosition before .origin) = some (before, after) := by
  obtain ⟨lines, line, rfl, hlines, hline⟩ := exists_wholeLines before
  have hskip := take_restOfLine_append hline after
  rw [endPosition_wholeLines hlines hline, splitAtPosition?]
  simp only [Nat.add_sub_cancel]
  rw [List.append_assoc, splitAtLine?_wholeLines hlines]
  simp only [Option.map_some, hskip, List.drop_left]

/-- A line that exists comes after as many whole lines as its number says. -/
theorem exists_line {source line : List Char} {n : Nat}
    (h : (source.splitOn '\n')[n]? = some line) :
    ∃ lines after, source = lines ++ (line ++ after) ∧ WholeLines lines ∧
      lines.count '\n' = n ∧ '\n' ∉ line := by
  induction n generalizing source with
  | zero =>
    by_cases hmem : '\n' ∈ source
    · obtain ⟨first, more, rfl, hfirst⟩ := List.eq_append_cons_of_mem hmem
      rw [List.splitOn_append_cons_self_of_not_mem hfirst] at h
      obtain rfl := Option.some.inj h
      exact ⟨[], '\n' :: more, rfl, .inl rfl, rfl, hfirst⟩
    · rw [List.splitOn_eq_singleton hmem] at h
      obtain rfl := Option.some.inj h
      exact ⟨[], [], by simp, .inl rfl, rfl, hmem⟩
  | succ n ih =>
    by_cases hmem : '\n' ∈ source
    · obtain ⟨first, more, rfl, hfirst⟩ := List.eq_append_cons_of_mem hmem
      rw [List.splitOn_append_cons_self_of_not_mem hfirst, List.getElem?_cons_succ] at h
      obtain ⟨lines, after, rfl, hlines, hcount, hline⟩ := ih h
      refine ⟨first ++ '\n' :: lines, after, by simp, hlines.cons first, ?_, hline⟩
      rw [List.count_append, List.count_eq_zero_of_not_mem hfirst, List.count_cons_self, hcount]
      omega
    · rw [List.splitOn_eq_singleton hmem] at h
      simp at h

/-- A position that is in the text is the one at the end of a first part of it. -/
theorem exists_endPosition {source : List Char} {p : Position} (h : p.LiesIn source) :
    ∃ before after, source = before ++ after ∧ endPosition before .origin = p := by
  obtain ⟨hl, hc, line, hget, hcol⟩ := h
  obtain ⟨lines, after, rfl, hlines, hcount, hline⟩ := exists_line hget
  refine ⟨lines ++ line.take (p.column - 1), line.drop (p.column - 1) ++ after, ?_, ?_⟩
  · rw [List.append_assoc, ← List.append_assoc (line.take _), List.take_append_drop]
  · have htake : '\n' ∉ line.take (p.column - 1) := fun hmem => hline (List.mem_of_mem_take hmem)
    rw [endPosition_wholeLines hlines htake, hcount, List.length_take, Position.eq_iff]
    simp only
    omega

/-! ## Positions grow -/

namespace Position

theorem offsetBy_lt_advance (start : Position) {p : Place} (hline : 1 ≤ p.line) (c : Char) :
    start.offsetBy p < start.offsetBy (p.advance c) := by
  by_cases hc : c = '\n'
  · have hnext : ¬ p.line + 1 ≤ 1 := by omega
    rw [Place.advance, if_pos hc, offsetBy, offsetBy, if_neg hnext, lt_iff]
    split <;> dsimp only <;> omega
  · rw [Place.advance, if_neg hc, offsetBy, offsetBy, lt_iff]
    dsimp only
    split <;> dsimp only <;> omega

theorem offsetBy_lt_after (start : Position) {p : Place} (hline : 1 ≤ p.line) {text : List Char}
    (htext : text ≠ []) : start.offsetBy p < start.offsetBy (p.after text) := by
  induction text generalizing p with
  | nil => contradiction
  | cons c cs ih =>
    have hfirst := start.offsetBy_lt_advance hline c
    rw [Place.after_cons]
    by_cases hcs : cs = []
    · rw [hcs]
      exact hfirst
    · have hnext : 1 ≤ (p.advance c).line := by
        have hlater : (p.advance c).line = p.line + [c].count '\n' := p.line_after [c]
        omega
      have hrest := ih hnext hcs
      rw [lt_iff] at hfirst hrest ⊢
      omega

end Position

theorem endPosition_lt_append (before : List Char) {text : List Char} (htext : text ≠ [])
    (start : Position) : endPosition before start < endPosition (before ++ text) start := by
  have hline : 1 ≤ (Place.origin.after before).line := by
    rw [Place.line_after]
    exact Nat.le_add_right 1 _
  rw [endPosition, endPosition, Place.after_append]
  exact start.offsetBy_lt_after hline htext

/-- The first part of a source, its length and the position at its end belong together. -/
theorem positionAt?_byteOffset?_append (before after : List Char) :
    positionAt? (before ++ after) (byteLength before) .origin = some (endPosition before .origin) ∧
      byteOffset? (before ++ after) (endPosition before .origin) = some (byteLength before) := by
  rw [positionAt?, beforeByte?_append, byteOffset?, splitAtPosition?_endPosition]
  exact ⟨rfl, rfl⟩

/-- **Offsets and positions are inverse.** A byte offset on a character boundary has a position, and
the offset of that position is the same again; a position that is in the text has an offset, and the
position at that offset is the same again. -/
theorem byteOffset?_positionAt? (source : List Char) :
    (∀ offset, OnBoundary source offset →
      ∃ p, positionAt? source offset .origin = some p ∧ byteOffset? source p = some offset) ∧
    ∀ p : Position, p.LiesIn source →
      ∃ offset, byteOffset? source p = some offset ∧ positionAt? source offset .origin = some p := by
  constructor
  · rintro offset ⟨before, after, rfl, rfl⟩
    exact ⟨_, positionAt?_byteOffset?_append before after⟩
  · intro p hp
    obtain ⟨before, after, rfl, rfl⟩ := exists_endPosition hp
    exact ⟨_, (positionAt?_byteOffset?_append before after).symm⟩

/-- Two lines with a wide character in each, and the empty line after the last newline. -/
def sampleLines : List Char := "aß\n€b\n".toList

theorem byteOffset?_positionAt?_sample :
    OnBoundary sampleLines 7 ∧ Position.LiesIn sampleLines ⟨3, 1⟩ ∧
    (∃ p, positionAt? sampleLines 7 .origin = some p ∧ byteOffset? sampleLines p = some 7) ∧
    ∃ offset, byteOffset? sampleLines ⟨3, 1⟩ = some offset ∧
      positionAt? sampleLines offset .origin = some ⟨3, 1⟩ := by
  have hboundary : OnBoundary sampleLines 7 := ⟨"aß\n€".toList, "b\n".toList, by decide, by decide⟩
  have hlies : Position.LiesIn sampleLines ⟨3, 1⟩ := ⟨by decide, by decide, [], by cbv, by decide⟩
  exact ⟨hboundary, hlies, (byteOffset?_positionAt? sampleLines).1 7 hboundary,
    (byteOffset?_positionAt? sampleLines).2 ⟨3, 1⟩ hlies⟩

end PegCheck
