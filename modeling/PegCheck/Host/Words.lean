import PegCheck.Host.Code
import PegCheck.Text.Alphanumeric
import PegCheck.Text.Blank
import PegCheck.Text.Offset

/-!
# A front end for plain words

The language of words accepts every text but those that are registered as rejected. Its tokens are
the maximal runs of word characters before the first number sign; the trimmed text before that sign
is its one form; and every number sign begins a comment that runs to the end of its line.

Headlines:
* **`Words.frontEnd`**: the front end with its rejections.
* **`Words.runs`**: the maximal runs of word characters with the text before each.
-/

namespace PegCheck.Words

/-- A text that is rejected, with the wording of the fault and whether it is one of tokens. -/
structure Rejection where
  code : String
  isLexical : Bool
  message : String
  deriving DecidableEq, Repr

/-- The fault of a rejected text that begins at `start`. -/
def Rejection.fault (r : Rejection) (start : Position) : HostError :=
  if r.isLexical then .lexical r.message start else .grammatical r.message start

/-- The rejection of a text, the one registered last if there are several. -/
def rejection? (rejections : List Rejection) (code : String) : Option Rejection :=
  rejections.reverse.find? (·.code == code)

/-- The words of a text from `place` on; `word` is the open word with the place of its first
character. -/
def runs (place : Place) (word : Option (Place × List Char)) : List Char → List (Place × List Char)
  | [] => word.toList
  | c :: cs =>
    if Text.isWordChar c then
      let word := match word with
        | none => (place, [c])
        | some (p, w) => (p, w ++ [c])
      runs (place.advance c) (some word) cs
    else word.toList ++ runs (place.advance c) none cs

/-- The text before the first number sign. -/
def codePart (source : List Char) : List Char := source.takeWhile (· != '#')

/-- The words of the code of a text. -/
def tokens (source : List Char) (start : Position) : List HostToken :=
  (runs .origin none (codePart source)).map fun (p, w) =>
    ⟨.ident, String.ofList w, start.offsetBy p⟩

/-- The trimmed code of a text as a form, unless it is blank. -/
def forms (source : List Char) (start : Position) : List HostForm :=
  match Text.trim (codePart source) with
  | [] => []
  | text => [⟨.expression, String.ofList text, start⟩]

/-- Accepts a text unless it is rejected. -/
def parse (rejections : List Rejection) (code : String) (start : Position) :
    Except HostError ParsedCode :=
  match rejection? rejections code with
  | some r => .error (r.fault start)
  | none =>
    let source := code.toList
    .ok ⟨tokens source start, forms source start, endPosition source start⟩

/-- The comments of a text from `place` on, one from each number sign to the end of its line. -/
def commentsFrom (start : Position) (place : Place) : List Char → List Comment
  | [] => []
  | c :: cs =>
    let rest := commentsFrom start (place.advance c) cs
    if c == '#' then ⟨.line, String.ofList (restOfLine (c :: cs)), start.offsetBy place⟩ :: rest
    else rest

/-- The comments of a text. -/
def comments (code : String) (start : Position) : List Comment :=
  commentsFrom start .origin code.toList

/-- The front end of the language of words. -/
def frontEnd (rejections : List Rejection) : FrontEnd := ⟨parse rejections, comments⟩

end PegCheck.Words
