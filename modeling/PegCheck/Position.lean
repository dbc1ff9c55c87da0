/-!
# Positions in a grammar source

A `Position` is a line and a column of the grammar source, both counted from one; a `Place` is a
line and a column inside a snippet of it, the line counted from one and the column from zero.

A line or a column is any number here. A running program keeps them in words of 32 bits, and what it
computes is what is counted here as long as the sums fit into such words.

Headlines:
* **`Position.offsetBy`**: where a place of a snippet lies in the text around the snippet. Only the
  first line of the snippet is shifted sideways.
* **`Position.offsetWrapping`**: the same in words, where sums wrap around;
  **`Position.offsetWrapping_eq`**: without overflow it is no different.
* **`Position.le_iff`**: the order is by line first and by column second, which is what "the first
  declared rule" and "the occurrences in ascending order" mean.
-/

namespace PegCheck

/-- A line and a column of the grammar source. -/
structure Position where
  line : Nat
  column : Nat
  deriving DecidableEq, Repr, Inhabited

/-- A line and a column inside a snippet: lines count from one, columns from zero. -/
structure Place where
  line : Nat
  column : Nat
  deriving DecidableEq, Repr, Inhabited

namespace Place

/-- The first character of a snippet. -/
def origin : Place := ⟨1, 0⟩

/-- The place one character later: a newline opens a line, any other character a column. -/
def advance (p : Place) (c : Char) : Place :=
  if c = '\n' then ⟨p.line + 1, 0⟩ else ⟨p.line, p.column + 1⟩

/-- The place after a whole text. -/
def after (p : Place) (text : List Char) : Place :=
  text.foldl advance p

@[simp] theorem after_nil (p : Place) : p.after [] = p := rfl

@[simp] theorem after_cons (p : Place) (c : Char) (cs : List Char) :
    p.after (c :: cs) = (p.advance c).after cs := rfl

theorem after_append (p : Place) (a b : List Char) : p.after (a ++ b) = (p.after a).after b := by
  simp [after]

end Place

namespace Position

/-- The first character of a source. -/
def origin : Position := ⟨1, 1⟩

/-- Where `place` of a snippet lies in the text in which the snippet begins at `start`. -/
def offsetBy (start : Position) (place : Place) : Position :=
  if place.line ≤ 1 then ⟨start.line, start.column + place.column⟩
  else ⟨start.line + place.line - 1, place.column + 1⟩

@[simp] theorem offsetBy_origin (start : Position) : start.offsetBy .origin = start := by
  simp [offsetBy, Place.origin]

/-! ## The order -/

instance : LE Position where
  le a b := a.line < b.line ∨ a.line = b.line ∧ a.column ≤ b.column

instance : LT Position where
  lt a b := a.line < b.line ∨ a.line = b.line ∧ a.column < b.column

theorem le_iff (a b : Position) :
    a ≤ b ↔ a.line < b.line ∨ a.line = b.line ∧ a.column ≤ b.column := Iff.rfl

theorem lt_iff (a b : Position) :
    a < b ↔ a.line < b.line ∨ a.line = b.line ∧ a.column < b.column := Iff.rfl

instance : DecidableLE Position := fun a b => decidable_of_iff _ (le_iff a b).symm

instance : DecidableLT Position := fun a b => decidable_of_iff _ (lt_iff a b).symm

theorem eq_iff (a b : Position) : a = b ↔ a.line = b.line ∧ a.column = b.column := by
  cases a; cases b; simp

instance : Std.IsLinearOrder Position where
  le_refl a := by rw [le_iff]; omega
  le_trans a b c := by simp only [le_iff]; omega
  le_antisymm a b := by simp only [le_iff, eq_iff]; omega
  le_total a b := by simp only [le_iff]; omega

instance : Std.LawfulOrderLT Position where
  lt_iff a b := by simp only [le_iff, lt_iff]; omega

/-! ## Words of 32 bits -/

/-- Where `place` of a snippet lies in the text in which the snippet begins at `start`, in words:
the place is cut to fit into them, and sums wrap around. -/
def offsetWrapping (start : Position) (place : Place) : Position :=
  let line := place.line.toUInt32
  let column := place.column.toUInt32
  if line ≤ 1 then ⟨start.line, (start.column.toUInt32 + column).toNat⟩
  else ⟨(start.line.toUInt32 + line - 1).toNat, (column + 1).toNat⟩

/-- From `start`, the place is reached in words without overflow: the words hold the place, and all
sums on the way to its position. -/
def Reaches (start : Position) (place : Place) : Prop :=
  place.line < UInt32.size ∧
    if place.line ≤ 1 then start.column + place.column < UInt32.size
    else start.line + place.line < UInt32.size ∧ place.column + 1 < UInt32.size

instance (start : Position) (place : Place) : Decidable (start.Reaches place) := by
  unfold Reaches; infer_instance

/-- **Without overflow** words hold the position. -/
theorem offsetWrapping_eq {start : Position} {place : Place} (h : start.Reaches place) :
    start.offsetWrapping place = start.offsetBy place := by
  obtain ⟨hline, hsums⟩ := h
  have hword : place.line.toUInt32.toNat = place.line := Nat.mod_eq_of_lt hline
  have hfirst : place.line.toUInt32 ≤ 1 ↔ place.line ≤ 1 := by
    rw [UInt32.le_iff_toNat_le, hword]
    rfl
  unfold offsetWrapping offsetBy
  dsimp only
  by_cases hle : place.line ≤ 1
  · rw [if_pos hle] at hsums
    rw [if_pos hle, if_pos (hfirst.mpr hle), eq_iff]
    refine ⟨rfl, ?_⟩
    simp only [UInt32.toNat_add, Nat.toUInt32, UInt32.toNat_ofNat', UInt32.size] at *
    omega
  · rw [if_neg hle] at hsums
    rw [if_neg hle, if_neg (hle ∘ hfirst.mp), eq_iff]
    simp only [UInt32.toNat_add, UInt32.toNat_sub, UInt32.toNat_one, Nat.toUInt32,
      UInt32.toNat_ofNat', UInt32.size] at *
    omega

/-- The place of a snippet that begins at the origin at which a position lies. -/
def place (p : Position) : Place := ⟨p.line, p.column - 1⟩

/-- Where a position of a text that begins at the origin lies, in words, when the text begins at
`start`. -/
def relocateWrapping (start p : Position) : Position := start.offsetWrapping p.place

theorem place_offsetBy (place : Place) :
    (origin.offsetBy place).place = ⟨max 1 place.line, place.column⟩ := by
  unfold offsetBy
  split
  · simp [origin, Position.place, Nat.max_eq_left ‹_›]
  · have hline : 1 ≤ place.line := by omega
    simp [origin, Position.place, Nat.max_eq_right hline]

/-- The places of a snippet are told from their positions, but for a line zero. -/
theorem offsetBy_place (start : Position) (place : Place) :
    start.offsetBy (origin.offsetBy place).place = start.offsetBy place := by
  rw [place_offsetBy]
  by_cases hline : place.line ≤ 1
  · simp [offsetBy, hline]
  · simp [offsetBy, Nat.max_eq_right (Nat.le_of_not_le hline)]

theorem relocateWrapping_offsetBy (start : Position) (place : Place) :
    start.relocateWrapping (origin.offsetBy place) = start.offsetWrapping place := by
  rw [relocateWrapping, place_offsetBy]
  by_cases hline : place.line ≤ 1
  · -- A line with the number zero is taken for the first one.
    have hfirst : place.line = 0 ∨ place.line = 1 := by omega
    rcases hfirst with h | h <;> simp [offsetWrapping, h]
  · simp [offsetWrapping, Nat.max_eq_right (Nat.le_of_not_le hline)]

/-! ## Text -/

/-- A position in print: the line, a colon and the column. -/
def render (p : Position) : String :=
  toString p.line ++ ":" ++ toString p.column

instance : ToString Position := ⟨render⟩

end Position

end PegCheck
