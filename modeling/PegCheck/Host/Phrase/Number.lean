/-!
# Numbers in literals

A number in a literal is an integer when all before its suffix are digits of its base; any other
number is a float. A float after a dot stands for one or two indices of fields.

Headlines:
* **`Number.integer?`**: the value of an integer and the length of its suffix.
* **`Number.indices`**: the texts of the indices that a float stands for, and whether a dot ends it.
-/

namespace PegCheck.Host.Number

/-- The value of a digit, if the base has letters among its digits also of a letter. -/
def digit? (base : Nat) (c : Char) : Option Nat :=
  if c.isDigit then some (c.toNat - 48)
  else if base > 10 ∧ 'a' ≤ c ∧ c ≤ 'f' then some (c.toNat - 87)
  else if base > 10 ∧ 'A' ≤ c ∧ c ≤ 'F' then some (c.toNat - 55)
  else none

/-- Does the text after an `e` make it an exponent: underscores and at least one digit, or a sign?
-/
def isExponent (digits : Bool) : List Char → Bool
  | [] => digits
  | '_' :: cs => isExponent digits cs
  | '+' :: _ => true
  | '-' :: _ => true
  | c :: cs => if c.isDigit then isExponent true cs else digits

/-- The value of the digits that a text begins with and the length of what follows them. `value?` is
the value of the digits before, if there were any. -/
def digits? (base : Nat) (value? : Option Nat) : List Char → Option (Nat × Nat)
  | [] => value?.map fun value => (value, 0)
  | c :: cs =>
    match digit? base c with
    | some d =>
      if d < base then digits? base (some (value?.getD 0 * base + d)) cs else none
    | none =>
      if c = '_' then digits? base value? cs
      else if base = 10 ∧ c = '.' then none
      else if base = 10 ∧ (c = 'e' ∨ c = 'E') ∧ isExponent false cs then none
      else value?.map fun value => (value, cs.length + 1)

/-- The value of an integer and the length of its suffix, if the text is that of an integer. -/
def integer? : List Char → Option (Nat × Nat)
  | '0' :: 'x' :: cs => digits? 16 none cs
  | '0' :: 'o' :: cs => digits? 8 none cs
  | '0' :: 'b' :: cs => digits? 2 none cs
  | c :: cs => if c.isDigit then digits? 10 none (c :: cs) else none
  | [] => none

/-- Is the text that of a number which is no integer? -/
def isFloat (text : List Char) : Bool :=
  (text.head?.map Char.isDigit).getD false && (integer? text).isNone

/-- The pieces of a text between its dots, the one in hand having the characters `piece`. -/
def splitDots (piece : List Char) : List Char → List (List Char)
  | [] => [piece]
  | '.' :: cs => piece :: splitDots [] cs
  | c :: cs => splitDots (piece ++ [c]) cs

/-- The texts of the indices that a float stands for, and whether a dot ends it. -/
def indices (text : List Char) : List (List Char) × Bool :=
  if text.getLast? = some '.' then (splitDots [] text.dropLast, true)
  else (splitDots [] text, false)

end PegCheck.Host.Number
