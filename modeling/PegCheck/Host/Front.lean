import PegCheck.Host.Comments
import PegCheck.Host.Form

/-!
# The default front end

The default host language is read in three steps: a source is cut into token trees, the trees are
read as statements, and the statements are printed as forms. Its comments are found apart from that.

Headlines:
* **`Host.frontEnd`**: the front end of the default host language.
-/

namespace PegCheck.Host

/-- What is said of a source that is not made of tokens. -/
def lexicalMessage : String := "cannot parse string into token stream"

/-- Reads a snippet that begins at `start`. -/
def parse (code : String) (start : Position) : Except HostError ParsedCode :=
  let source := code.toList
  match Tree.read source with
  | .error place => .error (.lexical lexicalMessage (start.offsetBy place))
  | .ok trees =>
    match formsOf trees start with
    | .error fault => .error (.grammatical fault.message (start.offsetBy fault.place))
    | .ok forms => .ok ⟨Tree.flattenAll start trees, forms, endPosition source start⟩

/-- The front end of the default host language. -/
def frontEnd : FrontEnd where
  parse := parse
  comments code start := Comments.scan code.toList start

end PegCheck.Host
