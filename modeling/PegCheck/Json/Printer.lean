import PegCheck.Json.Basic

/-!
# Writing JSON text

`Json.render` writes a value without blanks. A quote, a backslash and the control characters are
escaped and all other characters stand for themselves.
-/

namespace PegCheck.Json

/-- The hexadecimal digits of a number below 256. -/
def hexPair (n : Nat) : List Char :=
  let digit (d : Nat) : Char := if d < 10 then Char.ofNat (48 + d) else Char.ofNat (87 + d)
  [digit (n / 16 % 16), digit (n % 16)]

/-- A character as it stands between quotes. -/
def escape (c : Char) : List Char :=
  match c with
  | '"' => ['\\', '"']
  | '\\' => ['\\', '\\']
  | '\n' => ['\\', 'n']
  | '\r' => ['\\', 'r']
  | '\t' => ['\\', 't']
  | c =>
    if c.toNat < 0x20 || c.toNat == 0x7F then '\\' :: 'u' :: '0' :: '0' :: hexPair c.toNat
    else [c]

/-- A text between quotes. -/
def quote (s : String) : String :=
  String.ofList ('"' :: (s.toList.flatMap escape ++ ['"']))

mutual

/-- The value in print. -/
def render : Json → String
  | .null => "null"
  | .bool true => "true"
  | .bool false => "false"
  | .integer n => toString n
  | .fraction shown => shown
  | .text s => quote s
  | .array items => "[" ++ ",".intercalate (renderItems items) ++ "]"
  | .object fields => "\x7b" ++ ",".intercalate (renderFields fields) ++ "\x7d"
  | .malformed => "null"

/-- The items of an array in print. -/
def renderItems : List Json → List String
  | [] => []
  | v :: vs => v.render :: renderItems vs

/-- The fields of an object in print. -/
def renderFields : List (String × Json) → List String
  | [] => []
  | (key, v) :: fs => (quote key ++ ":" ++ v.render) :: renderFields fs

end

end PegCheck.Json
