import PegCheck.Grammar.Basic
import PegCheck.Text.Offset

/-!
# Comments of host code

Comments are found in the raw text, whether or not the text is made of tokens. The text is cut into
lexemes, each the longest that begins at its place; strings and characters are lexemes so that a
comment marker inside them is not taken for a comment. A place at which no lexeme begins is passed
over: an unclosed block comment or raw string by its opening alone, anything else by the longest
beginning of a lexeme that stands there.

Headlines:
* **`Comments.lexeme`**: the lexeme that a text begins with, and how many characters it has.
* **`Comments.blockTail?`**: block comments nest, so an inner opening needs a closing of its own.
* **`Comments.scan`**: the comments of a text with their places.
-/

namespace PegCheck.Comments

/-- The kinds of lexeme; `unmatched` is a stretch that is passed over. -/
inductive LexemeKind where
  | lineComment
  | blockComment
  | string
  | rawString
  | character
  | lifetime
  | word
  | slash
  | other
  | unmatched
  deriving DecidableEq, Repr, Inhabited

/-- A kind of lexeme and the number of its characters after the first. -/
structure Lexeme where
  kind : LexemeKind
  more : Nat
  deriving DecidableEq, Repr, Inhabited

/-- A letter of the English alphabet or an underscore. -/
def isWordStart (c : Char) : Bool := c.isAlpha || c == '_'

/-- A character inside a word. -/
def isWordPart (c : Char) : Bool := c.isAlphanum || c == '_'

/-- A character that begins no other lexeme. -/
def isOther (c : Char) : Bool := !(isWordStart c || c == '\'' || c == '"' || c == '/')

/-- How many characters of a text are the rest of a block comment that is open, with `depth` more
open around it. -/
def blockTail? (depth : Nat) : List Char → Option Nat
  | '/' :: '*' :: rest => (blockTail? (depth + 1) rest).map (· + 2)
  | '*' :: '/' :: rest =>
    match depth with
    | 0 => some 2
    | depth + 1 => (blockTail? depth rest).map (· + 2)
  | _ :: rest => (blockTail? depth rest).map (· + 1)
  | [] => none

/-- How many characters of a text are the rest of a string after its opening quote. -/
def stringTail? : List Char → Option Nat
  | '"' :: _ => some 1
  | '\\' :: _ :: rest => (stringTail? rest).map (· + 2)
  | '\\' :: [] => none
  | _ :: rest => (stringTail? rest).map (· + 1)
  | [] => none

/-- How many characters of a text are the rest of a raw string whose opening has `hashes` hashes. -/
def rawTail? (hashes : Nat) : List Char → Option Nat
  | [] => none
  | c :: rest =>
    if c == '"' && (List.replicate hashes '#').isPrefixOf rest then some (hashes + 1)
    else (rawTail? hashes rest).map (· + 1)

/-- How many characters follow the first quote of a character: the rest of the character, its
closing quote included, or as many as could begin one. -/
def characterTail : List Char → Except Nat Nat
  | [] => .error 0
  | '\\' :: c :: rest =>
    if c == '\n' then .error 1
    else
      let body := (rest.takeWhile fun d => d != '\'' && d != '\n').length
      match rest.drop body with
      | '\'' :: _ => .ok (body + 3)
      | _ => .error (body + 2)
  | c :: rest =>
    if c == '\\' then .error 1
    else if c == '\'' || c == '\n' then .error 0
    else
      match rest with
      | '\'' :: _ => .ok 2
      | _ => .error 1

/-- The lexeme of a text that begins with a quote: a character or, failing that, a lifetime. -/
def quoted (rest : List Char) : Lexeme :=
  match characterTail rest, rest with
  | .ok n, _ => ⟨.character, n⟩
  | .error stuck, c :: _ =>
    if isWordStart c then ⟨.lifetime, (rest.takeWhile isWordPart).length⟩ else ⟨.unmatched, stuck⟩
  | .error stuck, [] => ⟨.unmatched, stuck⟩

/-- The lexeme of a raw string whose hashes and quotes begin `rest`, `opened` characters after its
first one, if there is an opening. -/
def rawLexeme? (opened : Nat) (rest : List Char) : Option Lexeme :=
  let hashes := (rest.takeWhile (· == '#')).length
  match rest.drop hashes with
  | '"' :: body =>
    let opening := opened + hashes + 1
    match rawTail? hashes body with
    | some n => some ⟨.rawString, opening + n⟩
    | none => some ⟨.unmatched, opening⟩
  | _ => none

/-- The lexeme of a text that begins with a word character: a word, unless the letters are the head
of a raw string, a byte string or a byte character. -/
def wordLexeme (c : Char) (rest : List Char) : Lexeme :=
  let word : Lexeme := ⟨.word, (rest.takeWhile isWordPart).length⟩
  match c, rest with
  | 'r', rest => (rawLexeme? 0 rest).getD word
  | 'b', 'r' :: rest => (rawLexeme? 1 rest).getD word
  | 'b', '"' :: rest => ((stringTail? rest).map fun n => ⟨.string, n + 1⟩).getD word
  | 'b', '\'' :: rest =>
    match characterTail rest with
    | .ok n => ⟨.character, n + 1⟩
    | .error _ => word
  | _, _ => word

/-- The lexeme that the text `c :: rest` begins with. -/
def lexeme (c : Char) (rest : List Char) : Lexeme :=
  if c == '/' then
    match rest with
    | '/' :: _ => ⟨.lineComment, (restOfLine rest).length⟩
    | '*' :: body =>
      match blockTail? 0 body with
      | some n => ⟨.blockComment, n + 1⟩
      | none => ⟨.unmatched, 1⟩
    | _ => ⟨.slash, 0⟩
  else if c == '"' then
    match stringTail? rest with
    | some n => ⟨.string, n⟩
    | none => ⟨.unmatched, rest.length⟩
  else if c == '\'' then quoted rest
  else if isWordStart c then wordLexeme c rest
  else ⟨.other, (rest.takeWhile isOther).length⟩

/-- The kind of comment that a kind of lexeme is. -/
def LexemeKind.comment? : LexemeKind → Option CommentKind
  | .lineComment => some .line
  | .blockComment => some .block
  | _ => none

/-- The lexemes of a text from `place` on, with their places and texts. -/
def lexemes (place : Place) : List Char → List (LexemeKind × Place × List Char)
  | [] => []
  | c :: rest =>
    let l := lexeme c rest
    let text := c :: rest.take l.more
    (l.kind, place, text) :: lexemes (place.after text) (rest.drop l.more)
termination_by text => text.length
decreasing_by
  simp only [List.length_cons, List.length_drop]
  omega

/-- A text without the carriage returns at its end. -/
def dropReturns (text : List Char) : List Char :=
  (text.reverse.dropWhile (· == '\r')).reverse

/-- The comments of a text that begins at `start`. -/
def scan (source : List Char) (start : Position) : List Comment :=
  (lexemes .origin source).filterMap fun (kind, place, text) =>
    kind.comment?.map fun k => ⟨k, String.ofList (dropReturns text), start.offsetBy place⟩

end PegCheck.Comments
