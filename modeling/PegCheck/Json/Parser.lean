import PegCheck.Json.Basic
import PegCheck.Decimal.Shortest

/-!
# Reading JSON text

`Json.parse` reads one value and says whether only blanks follow it. Reading never fails: a fault in
the text becomes a `malformed` leaf and ends the reading (see `Json`). Values nest at most 127 deep.

An integer that fits in 64 bits, signed or not, stays an integer; any other number, minus zero
included, is a double. A double is computed as the digits up to 64 bits times a power of ten, and is
a fault when it is infinite.
-/

namespace PegCheck.Json

/-- The blanks of JSON. -/
def isSpace (c : Char) : Bool := c == ' ' || c == '\n' || c == '\t' || c == '\r'

/-- The text after its leading blanks. -/
def skipSpace (cs : List Char) : List Char := cs.dropWhile isSpace

/-- The value of a hexadecimal digit. -/
def hexDigit? (c : Char) : Option Nat :=
  if '0' ≤ c && c ≤ '9' then some (c.toNat - '0'.toNat)
  else if 'a' ≤ c && c ≤ 'f' then some (c.toNat - 'a'.toNat + 10)
  else if 'A' ≤ c && c ≤ 'F' then some (c.toNat - 'A'.toNat + 10)
  else none

/-- The value of four hexadecimal digits. -/
def hex4? (a b c d : Char) : Option Nat := do
  return (((← hexDigit? a) * 16 + (← hexDigit? b)) * 16 + (← hexDigit? c)) * 16 + (← hexDigit? d)

/-- The character that a one-letter escape stands for. -/
def shortEscape? : Char → Option Char
  | '"' => some '"'
  | '\\' => some '\\'
  | '/' => some '/'
  | 'b' => some '\x08'
  | 'f' => some '\x0c'
  | 'n' => some '\n'
  | 'r' => some '\r'
  | 't' => some '\t'
  | _ => none

/-- The characters up to the closing quote and the text after it. `high` is the first half of a
character written as two escapes; its second half has to follow at once. -/
def readText (high : Option Nat) : List Char → Option (List Char × List Char)
  | [] => none
  | '"' :: rest => if high.isSome then none else some ([], rest)
  | '\\' :: 'u' :: a :: b :: c :: d :: rest =>
    match hex4? a b c d, high with
    | none, _ => none
    | some v, some h =>
      if 0xDC00 ≤ v && v < 0xE000 then
        (readText none rest).map fun (cs, r) =>
          (Char.ofNat (0x10000 + (h - 0xD800) * 0x400 + (v - 0xDC00)) :: cs, r)
      else none
    | some v, none =>
      if 0xD800 ≤ v && v < 0xDC00 then readText (some v) rest
      else if 0xDC00 ≤ v && v < 0xE000 then none
      else (readText none rest).map fun (cs, r) => (Char.ofNat v :: cs, r)
  | '\\' :: c :: rest =>
    match shortEscape? c, high with
    | some e, none => (readText none rest).map fun (cs, r) => (e :: cs, r)
    | _, _ => none
  | c :: rest =>
    if high.isSome || c == '\\' || c.toNat < 0x20 then none
    else (readText none rest).map fun (cs, r) => (c :: cs, r)

/-! ## Numbers -/

/-- The largest significand that is kept exactly. -/
def maxSignificand : Nat := UInt64.size - 1

/-- The largest exponent that is read. -/
def maxExponent : Nat := Nat.pow 2 31 - 1

/-- Digits taken into a significand while it fits: the significand, how many digits were taken and
the text from the first digit that was not. -/
def takeDigits (significand taken : Nat) : List Char → Nat × Nat × List Char
  | [] => (significand, taken, [])
  | c :: cs =>
    if c.isDigit then
      let next := significand * 10 + (c.toNat - '0'.toNat)
      if next > maxSignificand then (significand, taken, c :: cs)
      else takeDigits next (taken + 1) cs
    else (significand, taken, c :: cs)

/-- The double `significand · 10 ^ exponent`, unless it is infinite. -/
def scaled? (significand : Nat) (exponent : Int) : Option Float :=
  let f := significand.toUInt64.toFloat
  if significand == 0 then some f
  else if exponent > 308 then none
  else if exponent ≥ 0 then
    let r := f * Float.ofScientific 1 false exponent.toNat
    if r.isFinite then some r else none
  else if exponent ≥ -308 then some (f / Float.ofScientific 1 false (-exponent).toNat)
  else
    let g := f / Float.ofScientific 1 false 308
    if exponent ≥ -616 then some (g / Float.ofScientific 1 false (-exponent - 308).toNat)
    else some 0.0

/-- A double as a value. -/
def ofDouble (negative : Bool) (x : Float) : Json :=
  .fraction (Decimal.render (if negative then -x else x))

/-- Reads the exponent, if the text has one, and finishes the number. -/
def readExponent (negative : Bool) (significand : Nat) (exponent : Int) (cs : List Char) :
    Option (Json × List Char) :=
  let finish (e : Int) (rest : List Char) : Option (Json × List Char) :=
    (scaled? significand e).map fun x => (ofDouble negative x, rest)
  match cs with
  | [] => finish exponent []
  | c :: after =>
    if c == 'e' || c == 'E' then
      let (down, digits) := match after with
        | '+' :: r => (false, r)
        | '-' :: r => (true, r)
        | r => (false, r)
      let size := digits.takeWhile Char.isDigit
      let rest := digits.dropWhile Char.isDigit
      if size.isEmpty then none
      else
        let e := size.foldl (fun n c => n * 10 + (c.toNat - '0'.toNat)) 0
        if e > maxExponent then
          if significand != 0 && !down then none else some (ofDouble negative 0.0, rest)
        else finish (if down then exponent - e else exponent + e) rest
    else finish exponent (c :: after)

/-- Reads the fraction, if the text has one, and finishes the number. -/
def readFraction (negative : Bool) (significand : Nat) (exponent : Int) (cs : List Char) :
    Option (Json × List Char) :=
  match cs with
  | '.' :: after =>
    let (s, taken, rest) := takeDigits significand 0 after
    match rest with
    | c :: _ =>
      if c.isDigit then readExponent negative s (exponent - taken) (rest.dropWhile Char.isDigit)
      else if taken == 0 then none
      else readExponent negative s (exponent - taken) rest
    | [] => if taken == 0 then none else readExponent negative s (exponent - taken) []
  | _ => readExponent negative significand exponent cs

/-- Does the text go on as a fraction or an exponent? -/
def goesOn : List Char → Bool
  | c :: _ => c == '.' || c == 'e' || c == 'E'
  | [] => false

/-- Reads a number whose sign has been read. -/
def readNumber (negative : Bool) (cs : List Char) : Option (Json × List Char) :=
  let leadingZero := match cs with
    | '0' :: c :: _ => c.isDigit
    | _ => false
  let (s, taken, rest) := takeDigits 0 0 cs
  let tooLong := match rest with
    | c :: _ => c.isDigit
    | [] => false
  if leadingZero || taken == 0 then none
  else if tooLong then
    let more := (rest.takeWhile Char.isDigit).length
    readFraction negative s more (rest.dropWhile Char.isDigit)
  else if goesOn rest then readFraction negative s 0 rest
  else if !negative then some (.integer s, rest)
  else if s == 0 || s > Nat.pow 2 63 then some (ofDouble true s.toUInt64.toFloat, rest)
  else some (.integer (-(s : Int)), rest)

/-! ## Values -/

/-- The text after a word, if it begins with the word. -/
def dropWord? (word cs : List Char) : Option (List Char) :=
  if word.isPrefixOf cs then some (cs.drop word.length) else none

/-- A value without parts, where one begins. -/
def readScalar (cs : List Char) : Option (Json × List Char) :=
  match cs with
  | '"' :: r => (readText none r).map fun (s, rest) => (.text (String.ofList s), rest)
  | 'n' :: r => (dropWord? ['u', 'l', 'l'] r).map fun rest => (.null, rest)
  | 't' :: r => (dropWord? ['r', 'u', 'e'] r).map fun rest => (.bool true, rest)
  | 'f' :: r => (dropWord? ['a', 'l', 's', 'e'] r).map fun rest => (.bool false, rest)
  | '-' :: r => readNumber true r
  | c :: r => if c.isDigit then readNumber false (c :: r) else none
  | [] => none

mutual

/-- Reads one value. The rest of the text is missing when the value has a fault; `depth` is the
number of levels still allowed and `fuel` bounds the steps. -/
def readValue (depth : Nat) (cs : List Char) : Nat → Json × Option (List Char)
  | 0 => (.malformed, none)
  | fuel + 1 =>
    match skipSpace cs, depth with
    | '[' :: r, d + 1 =>
      match skipSpace r with
      | ']' :: rest => (.array [], some rest)
      | r => let (items, rest) := readItems d r fuel; (.array items, rest)
    | '{' :: r, d + 1 =>
      match skipSpace r with
      | '}' :: rest => (.object [], some rest)
      | r => let (fields, rest) := readFields d r fuel; (.object fields, rest)
    | r, _ =>
      match readScalar r with
      | some (v, rest) => (v, some rest)
      | none => (.malformed, none)

/-- Reads the items of an array up to its closing bracket. -/
def readItems (depth : Nat) (cs : List Char) : Nat → List Json × Option (List Char)
  | 0 => ([.malformed], none)
  | fuel + 1 =>
    match readValue depth cs fuel with
    | (v, none) => ([v], none)
    | (v, some r) =>
      match skipSpace r with
      | ']' :: rest => ([v], some rest)
      | ',' :: r => let (vs, rest) := readItems depth r fuel; (v :: vs, rest)
      | _ => ([v, .malformed], none)

/-- Reads the fields of an object up to its closing brace. -/
def readFields (depth : Nat) (cs : List Char) : Nat → List (String × Json) × Option (List Char)
  | 0 => ([("", .malformed)], none)
  | fuel + 1 =>
    match skipSpace cs with
    | '"' :: r =>
      match readText none r with
      | none => ([("", .malformed)], none)
      | some (key, r) =>
        match skipSpace r with
        | ':' :: r =>
          let key := String.ofList key
          match readValue depth r fuel with
          | (v, none) => ([(key, v)], none)
          | (v, some r) =>
            match skipSpace r with
            | '}' :: rest => ([(key, v)], some rest)
            | ',' :: r => let (fs, rest) := readFields depth r fuel; ((key, v) :: fs, rest)
            | _ => ([(key, v), ("", .malformed)], none)
        | _ => ([(String.ofList key, .malformed)], none)
    | _ => ([("", .malformed)], none)

end

/-- The number of levels to which values may nest. -/
def maxDepth : Nat := 127

/-- The value that a text begins with, and whether only blanks follow it. -/
def parse (text : String) : Json × Bool :=
  let cs := text.toList
  match readValue maxDepth cs (2 * cs.length + 2) with
  | (v, some rest) => (v, (skipSpace rest).isEmpty)
  | (v, none) => (v, false)

end PegCheck.Json
