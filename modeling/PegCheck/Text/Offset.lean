import PegCheck.Position

/-!
# Byte offsets and positions

A source is a list of characters whose bytes are those of its UTF-8 form. `positionAt` turns a byte
offset into a position, `byteOffset` a position into a byte offset, and `spanRange` a position and a
width into the range of bytes that a report marks. Positions are also given in words of 32 bits.

Headlines:
* **`splitAtPosition?_append`**: a position cuts the source in two and loses nothing.
* **`beforeByte?_append`**: the characters before a byte offset on a character boundary are those of
  the part that ends there.
-/

namespace PegCheck

/-- The number of bytes of a text. -/
def byteLength (text : List Char) : Nat := text.foldr (fun c n => c.utf8Size + n) 0

@[simp] theorem byteLength_nil : byteLength [] = 0 := rfl

@[simp] theorem byteLength_cons (c : Char) (cs : List Char) :
    byteLength (c :: cs) = c.utf8Size + byteLength cs := rfl

@[simp] theorem byteLength_append (a b : List Char) :
    byteLength (a ++ b) = byteLength a + byteLength b := by
  induction a with
  | nil => rw [List.nil_append, byteLength_nil, Nat.zero_add]
  | cons c a ih => rw [List.cons_append, byteLength_cons, byteLength_cons, ih, Nat.add_assoc]

/-! ## From offsets to positions -/

/-- The characters before byte `offset`, all of them past the end, and nothing when the offset falls
inside a character. -/
def beforeByte? : List Char → Nat → Option (List Char)
  | _, 0 => some []
  | [], _ + 1 => some []
  | c :: cs, n + 1 =>
    if c.utf8Size ≤ n + 1 then (beforeByte? cs (n + 1 - c.utf8Size)).map (c :: ·) else none

theorem beforeByte?_append (a b : List Char) :
    beforeByte? (a ++ b) (byteLength a) = some a := by
  induction a with
  | nil => cases b <;> simp [beforeByte?]
  | cons c a ih =>
    have hc : 0 < c.utf8Size := c.utf8Size_pos
    obtain ⟨n, hn⟩ : ∃ n, byteLength (c :: a) = n + 1 :=
      ⟨c.utf8Size + byteLength a - 1, by rw [byteLength_cons]; omega⟩
    have hle : c.utf8Size ≤ n + 1 := by simp at hn; omega
    have hsub : n + 1 - c.utf8Size = byteLength a := by simp at hn; omega
    simp [hn, beforeByte?, hle, hsub, ih]

/-- The position just past the last character of a text that begins at `start`. -/
def endPosition (source : List Char) (start : Position) : Position :=
  start.offsetBy (Place.origin.after source)

/-- The position of byte `offset` of a source that begins at `start`, if a character begins there.
An offset past the end stands for the end. -/
def positionAt? (source : List Char) (offset : Nat) (start : Position) : Option Position :=
  (beforeByte? source offset).map fun before => endPosition before start

/-- The position just past the last character of a text that begins at `start`, in words. -/
def endPositionWrapping (source : List Char) (start : Position) : Position :=
  start.offsetWrapping (Place.origin.after source)

/-- The position of byte `offset` of a source that begins at `start`, in words. -/
def positionAtWrapping? (source : List Char) (offset : Nat) (start : Position) : Option Position :=
  (beforeByte? source offset).map fun before => endPositionWrapping before start

/-! ## From positions to offsets -/

/-- The text before line `n` and the text from there on, lines counted from zero; nothing when there
are fewer lines. -/
def splitAtLine? : Nat → List Char → Option (List Char × List Char)
  | 0, text => some ([], text)
  | n + 1, text =>
    match text.dropWhile (· != '\n') with
    | [] => none
    | newline :: rest =>
      (splitAtLine? n rest).map fun (before, line) =>
        (text.takeWhile (· != '\n') ++ newline :: before, line)

/-- The rest of the line that a text begins with. -/
def restOfLine (text : List Char) : List Char := text.takeWhile (· != '\n')

/-- The text before a position and the text from there on; nothing when the line does not exist. A
line or column of zero counts as one, and a column past the line as its end. -/
def splitAtPosition? (source : List Char) (p : Position) : Option (List Char × List Char) :=
  (splitAtLine? (p.line - 1) source).map fun (before, text) =>
    let skipped := (restOfLine text).take (p.column - 1)
    (before ++ skipped, text.drop skipped.length)

/-- The byte offset of a position, nothing past the last line. -/
def byteOffset? (source : List Char) (p : Position) : Option Nat :=
  (splitAtPosition? source p).map fun (before, _) => byteLength before

/-- The bytes of `width` characters from a position on, cut at the end of the line. An empty range
is widened by one byte inside the source, and a line that does not exist gives the last byte. -/
def spanRange (source : List Char) (p : Position) (width : Nat) : Nat × Nat :=
  match splitAtPosition? source p with
  | none => (byteLength source - 1, byteLength source)
  | some (before, rest) =>
    let first := byteLength before
    let marked := byteLength ((restOfLine rest).take width)
    if marked = 0 then (first, min (first + 1) (byteLength source)) else (first, first + marked)

theorem splitAtLine?_append {n : Nat} {text before line : List Char}
    (h : splitAtLine? n text = some (before, line)) : before ++ line = text := by
  induction n generalizing text before with
  | zero => simp [splitAtLine?] at h; simp [h.1, h.2]
  | succ n ih =>
    unfold splitAtLine? at h
    split at h
    · simp at h
    · rename_i newline rest hrest
      obtain ⟨⟨b, l⟩, hs, he⟩ := Option.map_eq_some_iff.mp h
      simp only [Prod.mk.injEq] at he
      obtain ⟨rfl, rfl⟩ := he
      have := ih hs
      rw [List.append_assoc, List.cons_append, this, ← hrest, List.takeWhile_append_dropWhile]

theorem isPrefix_take_restOfLine (text : List Char) (n : Nat) : (restOfLine text).take n <+: text :=
  (List.take_prefix _ _).trans (List.takeWhile_prefix _)

/-- **A position cuts the source in two.** -/
theorem splitAtPosition?_append {source before rest : List Char} {p : Position}
    (h : splitAtPosition? source p = some (before, rest)) : before ++ rest = source := by
  obtain ⟨⟨b, text⟩, hs, he⟩ := Option.map_eq_some_iff.mp h
  simp only [Prod.mk.injEq] at he
  obtain ⟨rfl, rfl⟩ := he
  rw [List.append_assoc, List.prefix_iff_eq_append.mp (isPrefix_take_restOfLine text _),
    splitAtLine?_append hs]

end PegCheck
