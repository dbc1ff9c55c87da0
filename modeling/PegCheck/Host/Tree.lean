import PegCheck.Host.Lexer
import PegCheck.Host.Code
import PegCheck.Text.Unprintable

/-!
# Token trees of host code

The pieces of a source, blanks and comments aside, form trees: a delimiter and its partner enclose
the trees between them. A documentation comment stands for an attribute that carries its text.

Headlines:
* **`Tree.read`**: the trees of a source, or the place at which it is not made of tokens.
* **`Tree.flatten`**: the tokens of the trees in order, delimiters included.
-/

namespace PegCheck.Host

/-- A token, or a group of them between delimiters with the places of both. -/
inductive Tree where
  | ident (text : String) (place : Place)
  | punct (char : Char) (joint : Bool) (place : Place)
  | literal (text : String) (place : Place)
  | group (delimiter : Delimiter) (content : List Tree) (opened closed : Place)
  deriving Repr, Inhabited

/-- The marks with which a delimiter opens and closes, if it is visible. -/
def Delimiter.marks? : Delimiter → Option (String × String)
  | .parenthesis => some ("(", ")")
  | .bracket => some ("[", "]")
  | .brace => some ("\x7b", "\x7d")
  | .invisible => none

namespace Tree

/-- Where a tree begins. -/
def place : Tree → Place
  | ident _ place => place
  | punct _ _ place => place
  | literal _ place => place
  | group _ _ opened _ => opened

/-- The place of the last character of a text that begins at `place`. -/
def lastPlace (place : Place) (text : List Char) : Place := place.after text.dropLast

/-- The trees of a documentation comment: an attribute with the text as a string. -/
def ofDocumentation (inner : Bool) (body : List Char) (first last : Place) : List Tree :=
  let text := String.ofList (Text.stringLiteral body)
  let content := group .bracket [ident "doc" first, punct '=' false first, literal text first]
    first last
  punct '#' false first :: (if inner then [punct '!' false first] else []) ++ [content]

/-- The trees of a piece that is neither an opening nor a closing delimiter. -/
def ofPiece (p : Piece) : List Tree :=
  let text := String.ofList p.text
  match p.kind with
  | .ident => [ident text p.place]
  | .literal => [literal text p.place]
  | .punct joint => p.text.map fun c => punct c joint p.place
  | .documentation inner body => ofDocumentation inner body p.place (lastPlace p.place p.text)
  | _ => []

/-- An open group: its delimiter and place, and the trees before it. -/
structure Frame where
  delimiter : Delimiter
  opened : Place
  before : List Tree

/-- Builds trees from pieces. `frames` are the open groups, innermost first, and `done` the trees of
the innermost one, last first. A closing delimiter without its partner is a fault, and so is, at the
end, a group that is still open. -/
def nest (frames : List Frame) (done : List Tree) (fault : Option Place) :
    List Piece → Except Place (List Tree)
  | [] =>
    match fault, frames with
    | some place, _ => .error place
    | none, [] => .ok done.reverse
    | none, f :: _ => .error f.opened
  | p :: ps =>
    match p.kind with
    | .opening d => nest (⟨d, p.place, done⟩ :: frames) [] fault ps
    | .closing d =>
      match frames with
      | [] => .error p.place
      | f :: fs =>
        if f.delimiter = d then
          nest fs (group d done.reverse f.opened p.place :: f.before) fault ps
        else .error p.place
    | _ => nest frames ((ofPiece p).reverse ++ done) fault ps

/-- The trees of a source, or the place at which it is not made of tokens. -/
def read (source : List Char) : Except Place (List Tree) :=
  let (pieces, fault) := Lexer.pieces source
  nest [] [] fault pieces

mutual

/-- The tokens of a tree that is part of a snippet that begins at `start`. -/
def flatten (start : Position) : Tree → List HostToken
  | ident text place => [⟨.ident, text, start.offsetBy place⟩]
  | punct c _ place => [⟨.punct, String.singleton c, start.offsetBy place⟩]
  | literal text place => [⟨.literal, text, start.offsetBy place⟩]
  | group d content opened closed =>
    let inside := flattenAll start content
    match d.marks? with
    | some (opening, close) =>
      ⟨.delimiter, opening, start.offsetBy opened⟩ ::
        (inside ++ [⟨.delimiter, close, start.offsetBy closed⟩])
    | none => inside

/-- The tokens of a list of trees. -/
def flattenAll (start : Position) : List Tree → List HostToken
  | [] => []
  | t :: ts => t.flatten start ++ flattenAll start ts

/-- The number of tokens of a tree, a group counting as two more than its content. -/
def size : Tree → Nat
  | group _ content _ _ => sizeAll content + 2
  | _ => 1

/-- The number of tokens of a list of trees. -/
def sizeAll : List Tree → Nat
  | [] => 0
  | t :: ts => t.size + sizeAll ts

end

end Tree

end PegCheck.Host
