import PegCheck.Proofs.Text.Lines

/-!
# Snippets inside a text

A block of host code is read on its own, from the position at which it begins in the grammar file.
The positions that come out are those of the same characters in the file, because going through a
text and then through another is going through both: a place of a snippet that itself begins at a
place of a text is a place of that text.

* `Place.offsetBy`: where a place of a snippet lies in the text in which the snippet begins.
* `Place.after_eq_offsetBy`, `Position.offsetBy_offsetBy`: the two ways of going on agree.
* `endPosition_append`, `beforeByte?_append_add`: a text in two parts.
* **`positionAt?_snippet`**: positions computed in a snippet are positions in the file.
-/

namespace PegCheck

/-! ## Going on from a place -/

/-- Where `place` of a snippet lies in the text in which the snippet begins at `start`. Only the
first line of the snippet is shifted sideways. -/
def Place.offsetBy (start place : Place) : Place :=
  if place.line ≤ 1 then ⟨start.line, start.column + place.column⟩
  else ⟨start.line + place.line - 1, place.column⟩

theorem Place.one_le_line_after (text : List Char) : 1 ≤ (origin.after text).line := by
  rw [line_after]
  exact Nat.le_add_right _ _

theorem Place.advance_offsetBy (start : Place) {place : Place} (h : 1 ≤ place.line) (c : Char) :
    (start.offsetBy place).advance c = start.offsetBy (place.advance c) := by
  unfold offsetBy advance
  by_cases hc : c = '\n'
  · have hlater : ¬ place.line + 1 ≤ 1 := by omega
    by_cases hfirst : place.line ≤ 1
    · have hone : place.line = 1 := by omega
      simp [hc, hone]
    · simp only [hc, hfirst, hlater, if_true, if_false, Place.mk.injEq, and_true]
      omega
  · by_cases hfirst : place.line ≤ 1
    · simp [hc, hfirst, Nat.add_assoc]
    · simp [hc, hfirst]

/-- The place after a text is found from the place that the text alone leads to. -/
theorem Place.after_eq_offsetBy (start : Place) (text : List Char) :
    start.after text = start.offsetBy (origin.after text) := by
  induction text using List.reverseRecOn with
  | nil => simp [offsetBy, origin]
  | append_singleton text c ih =>
    have hstep := start.advance_offsetBy (one_le_line_after text) c
    rw [after_append, after_append, ih]
    exact hstep

/-- A snippet of a snippet begins where the one place leads from the other. -/
theorem Position.offsetBy_offsetBy (start : Position) {first second : Place}
    (hfirst : 1 ≤ first.line) :
    (start.offsetBy first).offsetBy second = start.offsetBy (first.offsetBy second) := by
  unfold offsetBy Place.offsetBy
  by_cases hone : second.line ≤ 1
  · by_cases htop : first.line ≤ 1
    · simp [hone, htop, Nat.add_assoc]
    · simp [hone, htop, Nat.add_right_comm]
  · have hlater : ¬ first.line + second.line - 1 ≤ 1 := by omega
    by_cases htop : first.line ≤ 1
    · simp only [hone, htop, hlater, if_true, if_false, Position.mk.injEq, and_true]
      omega
    · simp only [hone, htop, hlater, if_false, Position.mk.injEq, and_true]
      omega

/-! ## A text in two parts -/

theorem endPosition_append (a b : List Char) (start : Position) :
    endPosition (a ++ b) start = endPosition b (endPosition a start) := by
  unfold endPosition
  rw [Place.after_append, Place.after_eq_offsetBy,
    Position.offsetBy_offsetBy start (Place.one_le_line_after a)]

theorem positionAt?_byteLength (before after : List Char) (start : Position) :
    positionAt? (before ++ after) (byteLength before) start = some (endPosition before start) := by
  rw [positionAt?, beforeByte?_append]
  rfl

/-- **Positions in a snippet are positions in the file.** An offset of the second part of a text has
the position that the second part alone gives for it, if it begins where the first part ends. So a
position in a block of code, computed from the start of the block, is that of the same character in
the file around the block, and it is the position from which the file's offset is found again. -/
theorem positionAt?_snippet :
    (∀ (a b : List Char) (start : Position) (offset : Nat), OnBoundary b offset →
      ∃ p, positionAt? (a ++ b) (byteLength a + offset) start = some p ∧
        positionAt? b offset (endPosition a start) = some p) ∧
    ∀ (before block after : List Char) (start : Position) (offset : Nat),
      positionAt? (before ++ block ++ after) (byteLength before) .origin = some start →
      OnBoundary block offset →
      ∃ p, positionAt? block offset start = some p ∧
        positionAt? (before ++ block ++ after) (byteLength before + offset) .origin = some p ∧
        byteOffset? (before ++ block ++ after) p = some (byteLength before + offset) := by
  constructor
  · rintro a _ start _ ⟨read, rest, rfl, rfl⟩
    refine ⟨endPosition (a ++ read) start, ?_, ?_⟩
    · rw [← byteLength_append, ← List.append_assoc]
      exact positionAt?_byteLength _ rest start
    · rw [endPosition_append]
      exact positionAt?_byteLength read rest _
  · rintro before _ after start _ hstart ⟨read, rest, rfl, rfl⟩
    rw [List.append_assoc, positionAt?_byteLength] at hstart
    obtain rfl := Option.some.inj hstart
    have hfile : before ++ (read ++ rest) ++ after = (before ++ read) ++ (rest ++ after) := by simp
    obtain ⟨hposition, hoffset⟩ := positionAt?_byteOffset?_append (before ++ read) (rest ++ after)
    rw [hfile, ← byteLength_append]
    refine ⟨endPosition (before ++ read) .origin, ?_, hposition, hoffset⟩
    rw [endPosition_append]
    exact positionAt?_byteLength read rest _

/-- A file whose block of code begins after wide characters and runs over a line end. -/
def fileBefore : List Char := "é ← x\nß ← x \x7b".toList

/-- The block of code. -/
def fileBlock : List Char := " ü\n€ + y".toList

theorem positionAt?_snippet_sample :
    OnBoundary fileBlock 7 ∧
      positionAt? (fileBefore ++ fileBlock ++ ['}']) (byteLength fileBefore) .origin = some ⟨2, 8⟩ ∧
      (∃ p, positionAt? (fileBefore ++ fileBlock) (byteLength fileBefore + 7) ⟨5, 5⟩ = some p ∧
        positionAt? fileBlock 7 (endPosition fileBefore ⟨5, 5⟩) = some p) ∧
      ∃ p, positionAt? fileBlock 7 ⟨2, 8⟩ = some p ∧
        positionAt? (fileBefore ++ fileBlock ++ ['}']) (byteLength fileBefore + 7) .origin =
          some p ∧
        byteOffset? (fileBefore ++ fileBlock ++ ['}']) p = some (byteLength fileBefore + 7) := by
  have hboundary : OnBoundary fileBlock 7 := ⟨" ü\n€".toList, " + y".toList, by decide, by decide⟩
  have hstart : positionAt? (fileBefore ++ fileBlock ++ ['}']) (byteLength fileBefore) .origin =
      some ⟨2, 8⟩ := by decide
  exact ⟨hboundary, hstart, positionAt?_snippet.1 fileBefore fileBlock ⟨5, 5⟩ 7 hboundary,
    positionAt?_snippet.2 fileBefore fileBlock ['}'] ⟨2, 8⟩ 7 hstart hboundary⟩

end PegCheck
