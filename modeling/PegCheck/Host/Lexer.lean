import PegCheck.Host.Literal
import PegCheck.Position
import PegCheck.Text.Blank

/-!
# Cutting host code into pieces

A source is cut into pieces from left to right: blanks, comments, documentation comments,
delimiters, identifiers, punctuation and literals. Cutting stops at the first place where no piece
begins.

Headlines:
* **`Lexer.piece?`**: the piece that a text begins with, and how many characters it has.
* **`Lexer.pieces`**: all pieces with their places, and the place of the fault if there is one. The
  texts of the pieces, put together, are the source up to the fault.
-/

namespace PegCheck.Host

/-- The kinds of delimiter; an invisible one groups tokens without showing in the text. -/
inductive Delimiter where
  | parenthesis
  | bracket
  | brace
  | invisible
  deriving DecidableEq, Repr, Inhabited

/-- The kinds of piece. A punctuation character is joint when another follows it at once. A
documentation comment is inner when it documents what encloses it; its body is without the marks. -/
inductive PieceKind where
  | blank
  | comment
  | documentation (inner : Bool) (body : List Char)
  | opening (d : Delimiter)
  | closing (d : Delimiter)
  | ident
  | punct (joint : Bool)
  | literal
  deriving DecidableEq, Repr, Inhabited

/-- A piece of a source. -/
structure Piece where
  kind : PieceKind
  place : Place
  text : List Char
  deriving DecidableEq, Repr, Inhabited

namespace Lexer

/-- Is the character a blank of the host language? The two direction marks count as blanks. -/
def isBlank (c : Char) : Bool := Text.isBlank c || c == '\u200e' || c == '\u200f'

/-- The body of a line comment and the text after it. The body ends before the newline, and before a
carriage return that stands before the newline; the text after it begins at the newline. -/
def splitLine : List Char → List Char × List Char
  | [] => ([], [])
  | '\n' :: rest => ([], '\n' :: rest)
  | '\r' :: '\n' :: rest => ([], '\n' :: rest)
  | c :: rest => let (body, after) := splitLine rest; (c :: body, after)

/-- The text after a block comment that is open, with `depth` more open around it. -/
def blockRest? (depth : Nat) : List Char → Option (List Char)
  | '/' :: '*' :: rest => blockRest? (depth + 1) rest
  | '*' :: '/' :: rest =>
    match depth with
    | 0 => some rest
    | depth + 1 => blockRest? depth rest
  | _ :: rest => blockRest? depth rest
  | [] => none

/-- The body of a block comment, from its opening mark on, and the text after it. -/
def splitBlock? (cs : List Char) : Option (List Char × List Char) :=
  (blockRest? 0 cs).map fun after => (cs.take (cs.length - after.length - 2), after)

/-- Is every carriage return followed by a newline? -/
def returnsPaired : List Char → Bool
  | [] => true
  | '\r' :: '\n' :: rest => returnsPaired rest
  | '\r' :: _ => false
  | _ :: rest => returnsPaired rest

/-- The punctuation characters. -/
def isPunct (c : Char) : Bool := "~!@#$%^&*-=+|;:,<.>/?'".toList.contains c

/-- Does a punctuation character stand here, and no comment? -/
def beginsPunct : List Char → Bool
  | '/' :: '/' :: _ => false
  | '/' :: '*' :: _ => false
  | c :: _ => isPunct c
  | [] => false

/-- The text after an identifier, raw or not. A raw one has to have a name of its own. -/
def anyIdentifierRest? : List Char → Option (List Char)
  | 'r' :: '#' :: cs =>
    (identifierRest? cs).bind fun rest =>
      let name := String.ofList (cs.take (cs.length - rest.length))
      if name ∈ ["_", "super", "self", "Self", "crate"] then none else some rest
  | cs => identifierRest? cs

/-- Does the text begin like a string or a byte literal? -/
def beginsQuoted : List Char → Bool
  | 'r' :: '"' :: _ => true
  | 'r' :: '#' :: '"' :: _ => true
  | 'r' :: '#' :: '#' :: _ => true
  | 'b' :: '"' :: _ => true
  | 'b' :: '\'' :: _ => true
  | 'b' :: 'r' :: c :: _ => c == '"' || c == '#'
  | 'c' :: '"' :: _ => true
  | 'c' :: 'r' :: c :: _ => c == '"' || c == '#'
  | _ => false

/-- Does a lifetime follow its quote here: an identifier that no quote follows, nor a hash unless
the identifier is raw? -/
def beginsLifetime (cs : List Char) : Bool :=
  match anyIdentifierRest? cs with
  | none => false
  | some ('\'' :: _) => false
  | some ('#' :: _) => ['r', '#'].isPrefixOf cs
  | some _ => true

/-- Whether the documentation comment at which the text stands is an inner one and whether it is a
block, with the text after its mark. -/
def documentationMark? : List Char → Option (Bool × Bool × List Char)
  | '/' :: '/' :: '!' :: rest => some (true, false, rest)
  | '/' :: '*' :: '!' :: rest => some (true, true, rest)
  | '/' :: '/' :: '/' :: '/' :: _ => none
  | '/' :: '/' :: '/' :: rest => some (false, false, rest)
  | '/' :: '*' :: '*' :: '*' :: _ => none
  | '/' :: '*' :: '*' :: '/' :: _ => none
  | '/' :: '*' :: '*' :: rest => some (false, true, rest)
  | _ => none

/-- A documentation comment: whether it is an inner one, its body, and the text after it. -/
def documentation? (cs : List Char) : Option (Bool × List Char × List Char) := do
  let (inner, isBlock, text) ← documentationMark? cs
  let (body, after) ← if isBlock then splitBlock? text else some (splitLine text)
  if returnsPaired body then some (inner, body, after) else none

/-- The delimiter that a character opens or closes. -/
def delimiter? : Char → Option PieceKind
  | '(' => some (.opening .parenthesis)
  | '[' => some (.opening .bracket)
  | '{' => some (.opening .brace)
  | ')' => some (.closing .parenthesis)
  | ']' => some (.closing .bracket)
  | '}' => some (.closing .brace)
  | _ => none

/-- The kind of the piece that a text begins with, and the text after it: what is left when blanks,
comments and delimiters are excluded. -/
def token? (cs : List Char) : Option (PieceKind × List Char) :=
  match Literal.rest? cs with
  | some rest => some (.literal, rest)
  | none =>
    match cs with
    | '\'' :: rest => if beginsLifetime rest then some (.punct true, rest) else none
    | c :: rest =>
      if beginsPunct (c :: rest) then some (.punct (beginsPunct rest), rest)
      else if beginsQuoted (c :: rest) then none
      else (anyIdentifierRest? (c :: rest)).map fun rest => (.ident, rest)
    | [] => none

/-- The text that a token stream shows in place of a fault; it is read back as one literal. -/
def faultMark : List Char := "(/*ERROR*/)".toList

/-- The kind of the piece that the text `c :: rest` begins with, and the text after it. -/
def split? (c : Char) (rest : List Char) : Option (PieceKind × List Char) :=
  if isBlank c then some (.blank, rest)
  else
    match documentationMark? (c :: rest) with
    | some _ =>
      (documentation? (c :: rest)).map fun (inner, body, after) => (.documentation inner body, after)
    | none =>
      match c, rest with
      | '/', '/' :: body => some (.comment, (splitLine body).2)
      | '/', '*' :: body => (blockRest? 0 body).map fun after => (.comment, after)
      | _, _ =>
        if faultMark.isPrefixOf (c :: rest) then some (.literal, (c :: rest).drop faultMark.length)
        else
          match delimiter? c with
          | some kind => some (kind, rest)
          | none => token? (c :: rest)

/-- The kind of the piece that the text `c :: rest` begins with, and the number of its characters
after the first. -/
def piece? (c : Char) (rest : List Char) : Option (PieceKind × Nat) :=
  (split? c rest).map fun (kind, after) => (kind, rest.length - after.length)

/-- The pieces of a text from `place` on, and the place at which no piece begins. -/
def piecesFrom (place : Place) : List Char → List Piece × Option Place
  | [] => ([], none)
  | c :: rest =>
    match piece? c rest with
    | none => ([], some place)
    | some (kind, more) =>
      let text := c :: rest.take more
      let (later, fault) := piecesFrom (place.after text) (rest.drop more)
      (⟨kind, place, text⟩ :: later, fault)
termination_by text => text.length
decreasing_by
  simp only [List.length_cons, List.length_drop]
  omega

/-- The pieces of a source. A byte order mark at its very beginning is a blank. -/
def pieces : List Char → List Piece × Option Place
  | '\ufeff' :: source =>
    let (later, fault) := piecesFrom (Place.origin.advance '\ufeff') source
    (⟨.blank, .origin, ['\ufeff']⟩ :: later, fault)
  | source => piecesFrom .origin source

end Lexer

end PegCheck.Host
