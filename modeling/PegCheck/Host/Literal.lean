import PegCheck.Text.Identifier

/-!
# Literals of the host language

Each scanner takes the text after the opening of a literal and gives the text after its end, or
nothing when no such literal stands there. Literals are strings, byte strings and strings ended by a
zero byte, each plain or raw, then bytes, characters and numbers. Any of them may carry a suffix
that has the form of an identifier.

Headlines:
* **`Literal.rest?`**: the text after the literal that a text begins with.
* **`Literal.unit?_length`**: every character of a string takes at least one character of the text.
-/

namespace PegCheck.Host

/-- The text after an identifier without a raw marker. -/
def identifierRest? : List Char → Option (List Char)
  | c :: rest =>
    if Text.isIdentifierStart c then some (rest.dropWhile Text.isIdentifierContinue) else none
  | [] => none

namespace Literal

/-- The three families of strings: of characters, of bytes, and of characters other than zero. -/
inductive Family where
  | text
  | bytes
  | terminated
  deriving DecidableEq, Repr, Inhabited

/-- Is the character a hexadecimal digit? -/
def isHex (c : Char) : Bool :=
  c.isDigit || ('a' ≤ c && c ≤ 'f') || ('A' ≤ c && c ≤ 'F')

/-- The value of a hexadecimal digit. -/
def hexValue (c : Char) : Nat :=
  if c.isDigit then c.toNat - 48 else if 'a' ≤ c then c.toNat - 87 else c.toNat - 55

/-- The text after an optional suffix. -/
def afterSuffix (cs : List Char) : List Char := (identifierRest? cs).getD cs

/-- Reads the digits of a braced character number and its closing brace; `taken` digits with the
given value have been read. At most six digits are read, and the number has to be that of a
character. -/
def bracedRest? (taken value : Nat) : List Char → Option (Nat × List Char)
  | [] => none
  | c :: rest =>
    if isHex c then
      if taken = 6 then none else bracedRest? (taken + 1) (value * 16 + hexValue c) rest
    else if taken = 0 then none
    else if c = '_' then bracedRest? taken value rest
    else if c = '}' && value.isValidChar then some (value, rest)
    else none

/-- The text after the part of an escape that follows the backslash. -/
def escapeRest? (f : Family) : List Char → Option (List Char)
  | 'x' :: a :: b :: rest =>
    let allowed := match f with
      | .text => '0' ≤ a && a ≤ '7' && isHex b
      | .bytes => isHex a && isHex b
      | .terminated => isHex a && isHex b && !(a == '0' && b == '0')
    if allowed then some rest else none
  | 'u' :: '{' :: rest =>
    match f, bracedRest? 0 0 rest with
    | .bytes, _ => none
    | .terminated, some (value, rest) => if value = 0 then none else some rest
    | .text, some (_, rest) => some rest
    | _, none => none
  | c :: rest =>
    if c == 'n' || c == 'r' || c == 't' || c == '\\' || c == '\'' || c == '"'
      || (c == '0' && f != .terminated) then some rest
    else none
  | [] => none

/-- The text after one character of a string, escaped or not. A carriage return has to be followed
by a newline, and a line may end in a backslash. -/
def unit? (f : Family) : List Char → Option (List Char)
  | '\r' :: '\n' :: rest => some rest
  | '\r' :: _ => none
  | '\\' :: '\n' :: rest => some rest
  | '\\' :: '\r' :: '\n' :: rest => some rest
  | '\\' :: rest => escapeRest? f rest
  | c :: rest =>
    match f with
    | .text => some rest
    | .bytes => if c.toNat < 128 then some rest else none
    | .terminated => if c.toNat = 0 then none else some rest
  | [] => none

theorem bracedRest?_length {taken value n : Nat} {cs rest : List Char}
    (h : bracedRest? taken value cs = some (n, rest)) : rest.length < cs.length := by
  induction cs generalizing taken value with
  | nil => simp [bracedRest?] at h
  | cons c cs ih =>
    unfold bracedRest? at h
    split at h
    · split at h
      · simp at h
      · have := ih h; simp; omega
    · split at h
      · simp at h
      · split at h
        · have := ih h; simp; omega
        · split at h
          · simp_all
          · simp at h

theorem escapeRest?_length {f : Family} {cs rest : List Char} (h : escapeRest? f cs = some rest) :
    rest.length < cs.length := by
  unfold escapeRest? at h
  split at h
  · have := Option.ite_none_right_eq_some.mp h
    simp_all; omega
  · split at h
    · simp at h
    · rename_i hb
      have := bracedRest?_length hb
      split at h <;> simp_all; omega
    · rename_i hb
      have := bracedRest?_length hb
      simp_all; omega
    · simp at h
  · split at h <;> simp_all
  · simp at h

theorem unit?_length {f : Family} {cs rest : List Char} (h : unit? f cs = some rest) :
    rest.length < cs.length := by
  unfold unit? at h
  split at h
  · obtain rfl := Option.some.inj h
    simp only [List.length_cons]
    omega
  · simp at h
  · obtain rfl := Option.some.inj h
    simp only [List.length_cons]
    omega
  · obtain rfl := Option.some.inj h
    simp only [List.length_cons]
    omega
  · have := escapeRest?_length h
    simp only [List.length_cons]
    omega
  · split at h
    · simp_all
    · split at h <;> simp_all
    · split at h <;> simp_all
  · simp at h

/-- The text after the closing quote of a string. -/
def stringRest? (f : Family) : List Char → Option (List Char)
  | [] => none
  | c :: cs =>
    if c = '"' then some (afterSuffix cs)
    else
      match _h : unit? f (c :: cs) with
      | some rest => stringRest? f rest
      | none => none
termination_by cs => cs.length
decreasing_by exact unit?_length ‹_›

/-- The text after the body of a raw string that was opened with some number of hashes. -/
def rawBodyRest? (f : Family) (hashes : Nat) : List Char → Option (List Char)
  | [] => none
  | '\r' :: '\n' :: rest => rawBodyRest? f hashes rest
  | '\r' :: _ => none
  | c :: rest =>
    if c == '"' && (List.replicate hashes '#').isPrefixOf rest then
      some (afterSuffix (rest.drop hashes))
    else if (f == .bytes && c.toNat ≥ 128) || (f == .terminated && c.toNat = 0) then none
    else rawBodyRest? f hashes rest

/-- The text after a raw string, from its hashes on; there are at most 255 of them. -/
def rawRest? (f : Family) (cs : List Char) : Option (List Char) :=
  let hashes := (cs.takeWhile (· == '#')).length
  match cs.drop hashes with
  | '"' :: body => if hashes > 255 then none else rawBodyRest? f hashes body
  | _ => none

/-- The text after the closing quote of a byte or a character. -/
def characterRest? (f : Family) (cs : List Char) : Option (List Char) :=
  let after := match cs with
    | '\\' :: rest => escapeRest? f rest
    | c :: rest => if f == .bytes && c.toNat ≥ 128 then none else some rest
    | [] => none
  match after with
  | some ('\'' :: rest) => some (afterSuffix rest)
  | _ => none

/-! ## Numbers -/

/-- A digit or an underscore. -/
def isDigitOrGap (c : Char) : Bool := c.isDigit || c == '_'

/-- The text after an exponent, from its sign on. Where there is no exponent the number ends at
`otherwise`, if anywhere. -/
def exponentRest? (otherwise : Option (List Char)) (sign digits : Bool) :
    List Char → Option (List Char)
  | [] => if digits then some [] else otherwise
  | c :: rest =>
    if (c == '+' || c == '-') && !digits then
      if sign then otherwise else exponentRest? otherwise true digits rest
    else if c.isDigit then exponentRest? otherwise sign true rest
    else if c == '_' then exponentRest? otherwise sign digits rest
    else if digits then some (c :: rest) else otherwise

/-- The text after the digits of a number with a fraction or an exponent. -/
def floatDigitsRest? (cs : List Char) : Option (List Char) :=
  match cs.dropWhile isDigitOrGap with
  | '.' :: rest =>
    let stops := match rest with
      | c :: _ => c == '.' || Text.isIdentifierStart c
      | [] => false
    if stops then none
    else
      let after := rest.dropWhile isDigitOrGap
      match after with
      | c :: exponent =>
        if c == 'e' || c == 'E' then exponentRest? (some after) false false exponent else some after
      | [] => some []
  | c :: rest => if c == 'e' || c == 'E' then exponentRest? none false false rest else none
  | [] => none

/-- The text after the digits of a number in some base. A decimal digit beyond the base is no digit
of any number, and a number that has no base marker does not begin with an underscore. -/
def digitsRest? (base : Nat) (seen : Bool) : List Char → Option (List Char)
  | [] => if seen then some [] else none
  | c :: rest =>
    if c.isDigit then
      if hexValue c ≥ base then none else digitsRest? base true rest
    else if isHex c && hexValue c < base then digitsRest? base true rest
    else if c == '_' then
      if !seen && base == 10 then none else digitsRest? base seen rest
    else if seen then some (c :: rest) else none

/-- The text after the digits of a whole number, its base marker included. -/
def wholeDigitsRest? : List Char → Option (List Char)
  | '0' :: 'x' :: rest => digitsRest? 16 false rest
  | '0' :: 'o' :: rest => digitsRest? 8 false rest
  | '0' :: 'b' :: rest => digitsRest? 2 false rest
  | cs => digitsRest? 10 false cs

/-- The text after the suffix of a number; the number has to end there. -/
def afterNumber? (cs : List Char) : Option (List Char) :=
  match afterSuffix cs with
  | c :: rest => if Text.isIdentifierContinue c then none else some (c :: rest)
  | [] => some []

/-- The text after a number. -/
def numberRest? (cs : List Char) : Option (List Char) :=
  match cs with
  | c :: _ =>
    if c.isDigit then
      ((floatDigitsRest? cs).bind afterNumber?).or ((wholeDigitsRest? cs).bind afterNumber?)
    else none
  | [] => none

/-- The text after the literal that a text begins with. -/
def rest? : List Char → Option (List Char)
  | '"' :: cs => stringRest? .text cs
  | 'r' :: cs => rawRest? .text cs
  | 'b' :: '"' :: cs => stringRest? .bytes cs
  | 'b' :: 'r' :: cs => rawRest? .bytes cs
  | 'b' :: '\'' :: cs => characterRest? .bytes cs
  | 'c' :: '"' :: cs => stringRest? .terminated cs
  | 'c' :: 'r' :: cs => rawRest? .terminated cs
  | '\'' :: cs => characterRest? .text cs
  | cs => numberRest? cs

end Literal

end PegCheck.Host
