import PegCheck.Grammar.Basic
import PegCheck.Finding

/-!
# Host code

Action code is written in a host language. All that analysis needs of the language is a front end:
it turns a snippet into tokens and forms, or says why it cannot, and it finds the comments of the
snippet.

Headlines:
* **`FrontEnd`**: the two functions of a front end. Positions in their results are those of the
  grammar source in which the snippet begins at the given start.
* **`ParsedCode.move`** and its companions: a map of positions applied to all positions of a value.
* **`FrontEnd.wrapping`**: the front end as it runs, with its positions in words of 32 bits.
* **`ImplicitParams.usedIn`**: the parameters that code refers to are those among its identifiers.
-/

namespace PegCheck

/-- The kinds of host token. -/
inductive TokenKind where
  | ident
  | punct
  | literal
  | delimiter
  deriving DecidableEq, Repr, Inhabited

/-- A token of host code. -/
structure HostToken where
  kind : TokenKind
  text : String
  position : Position
  deriving DecidableEq, Repr, Inhabited

/-- Why host code is refused: it is not made of tokens, or its tokens are not a list of forms. -/
inductive HostError where
  | lexical (info : String) (location : Position)
  | grammatical (reason : String) (location : Position)
  deriving DecidableEq, Repr, Inhabited

namespace HostError

/-- Where the fault lies. -/
def location : HostError → Position
  | .lexical _ location => location
  | .grammatical _ location => location

/-- The fault in words. -/
def message : HostError → String
  | .lexical info _ => info
  | .grammatical reason _ => reason

/-- The finding that reports the fault. -/
def toFinding : HostError → Finding
  | .lexical info location => .ofCause (.hostSyntaxError info location)
  | .grammatical reason location => .ofCause (.hostParseError reason location)

end HostError

/-- What a front end finds in a valid snippet: all its tokens, delimiters included, its top-level
forms and the position after its last character. -/
structure ParsedCode where
  tokens : List HostToken
  forms : List HostForm
  finish : Position
  deriving DecidableEq, Repr

/-- A host language, as far as analysis needs it. -/
structure FrontEnd where
  parse : String → Position → Except HostError ParsedCode
  comments : String → Position → List Comment

/-! ## Moving positions -/

section Move

variable (f : Position → Position)

/-- The token, moved. -/
def HostToken.move (t : HostToken) : HostToken := { t with position := f t.position }

/-- The form, moved. -/
def HostForm.move (form : HostForm) : HostForm := { form with position := f form.position }

/-- The comment, moved. -/
def Comment.move (c : Comment) : Comment := { c with position := f c.position }

/-- The result with all its positions moved. -/
def ParsedCode.move (r : ParsedCode) : ParsedCode where
  tokens := r.tokens.map (HostToken.move f)
  forms := r.forms.map (HostForm.move f)
  finish := f r.finish

/-- The fault, moved. -/
def HostError.move : HostError → HostError
  | .lexical info location => .lexical info (f location)
  | .grammatical reason location => .grammatical reason (f location)

end Move

/-- The front end with its positions in words of 32 bits: what it finds in a snippet that begins at
the origin is moved to where the snippet begins, and sums wrap around on the way. -/
def FrontEnd.wrapping (frontEnd : FrontEnd) : FrontEnd where
  parse code start :=
    match frontEnd.parse code .origin with
    | .ok parsed => .ok (parsed.move start.relocateWrapping)
    | .error e => .error (e.move start.relocateWrapping)
  comments code start :=
    (frontEnd.comments code .origin).map (Comment.move start.relocateWrapping)

/-- The names that action code may use without declaring them. -/
structure ImplicitParams where
  names : OrderedSet String
  deriving DecidableEq, Repr

namespace ImplicitParams

/-- The parameters of a list of names. -/
def ofList (names : List String) : ImplicitParams := ⟨.ofList names⟩

/-- The matched text and the offset at which the match begins. -/
def standard : ImplicitParams := ofList ["node", "idx"]

instance : Inhabited ImplicitParams := ⟨standard⟩

/-- Is the name a parameter? -/
def contains (p : ImplicitParams) (name : String) : Bool := p.names.contains name

/-- The parameters among the identifiers of a list of tokens. -/
def usedIn (p : ImplicitParams) (tokens : List HostToken) : OrderedSet String :=
  .ofList ((tokens.filter fun t => t.kind == .ident && p.contains t.text).map (·.text))

end ImplicitParams

end PegCheck
