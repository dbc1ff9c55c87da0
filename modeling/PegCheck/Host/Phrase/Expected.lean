import PegCheck.Host.Tree

/-!
# What can be expected of host code

Whoever reads token trees looks for marks, words, identifiers, lifetimes, literals and groups. An
expectation is met by the first one or more trees of a list or it is not; when it is not, it has a
wording for the complaint.

Headlines:
* **`Expected.split?`**: the trees that meet an expectation, as they are printed, and those after
  them.
* **`Expected.wording`**: how a complaint names what was expected.
-/

namespace PegCheck.Host

/-- The words that are no identifiers; the lone underscore is one of them. -/
def keywords : List String :=
  ["_", "abstract", "as", "async", "await", "become", "box", "break", "const", "continue", "crate",
   "do", "dyn", "else", "enum", "extern", "false", "final", "fn", "for", "if", "impl", "in", "let",
   "loop", "macro", "match", "mod", "move", "mut", "override", "priv", "pub", "ref", "return",
   "Self", "self", "static", "struct", "super", "trait", "true", "try", "type", "typeof", "unsafe",
   "unsized", "use", "virtual", "where", "while", "yield"]

/-- Is the word a keyword? -/
def isKeyword (word : String) : Bool := keywords.contains word

/-- What may be expected: an identifier, any word at all, a lifetime, a literal (numbers with a sign
and truth values included), a string, a whole group, one word, or one mark of joint punctuation. -/
inductive Expected where
  | ident
  | anyWord
  | lifetime
  | literal
  | string
  | group (d : Delimiter)
  | word (text : String)
  | mark (text : String)
  deriving DecidableEq, Repr, Inhabited

/-- How a group is named. -/
def Delimiter.wording : Delimiter → String
  | .parenthesis => "parentheses"
  | .bracket => "square brackets"
  | .brace => "curly braces"
  | .invisible => "invisible group"

namespace Expected

/-- How a complaint names what was expected. -/
def wording : Expected → String
  | ident => "identifier"
  | anyWord => "ident"
  | lifetime => "lifetime"
  | literal => "literal"
  | string => "string literal"
  | group d => d.wording
  | word text => "`" ++ text ++ "`"
  | mark text => "`" ++ text ++ "`"

/-- Is the text that of a number? -/
def isNumber (text : String) : Bool := (text.toList.head?.map Char.isDigit).getD false

/-- Is the text that of a string of characters? -/
def isString (text : String) : Bool :=
  match text.toList with
  | '"' :: _ => true
  | 'r' :: _ => true
  | _ => false

/-- Splits off the characters of a mark. All but the last have to be joint, and the last one is
printed apart from what follows. -/
def splitMark? : List Char → List Tree → Option (List Tree × List Tree)
  | [c], .punct c' _ place :: rest => if c = c' then some ([.punct c false place], rest) else none
  | c :: cs, .punct c' true place :: rest =>
    if c = c' then
      (splitMark? cs rest).map fun (taken, rest) => (.punct c true place :: taken, rest)
    else none
  | _, _ => none

/-- The trees that meet an expectation, as they are printed, and the trees after them. -/
def split? : Expected → List Tree → Option (List Tree × List Tree)
  | ident, .ident text place :: rest =>
    if isKeyword text then none else some ([.ident text place], rest)
  | anyWord, .ident text place :: rest => some ([.ident text place], rest)
  | word text, .ident text' place :: rest =>
    if text = text' then some ([.ident text place], rest) else none
  | lifetime, .punct '\'' true place :: .ident text place' :: rest =>
    some ([.punct '\'' true place, .ident text place'], rest)
  | literal, .literal text place :: rest => some ([.literal text place], rest)
  | literal, .ident text place :: rest =>
    if text = "true" ∨ text = "false" then some ([.ident text place], rest) else none
  | literal, .punct '-' _ place :: .literal text _ :: rest =>
    if isNumber text then some ([.punct '-' false place, .literal text place], rest) else none
  | string, .literal text place :: rest =>
    if isString text then some ([.literal text place], rest) else none
  | group d, .group d' content opened closed :: rest =>
    if d = d' then some ([.group d content opened closed], rest) else none
  | mark text, trees => splitMark? text.toList trees
  | _, _ => none

/-- Is the expectation met by the beginning of a list of trees? -/
def stands (e : Expected) (trees : List Tree) : Bool := (e.split? trees).isSome

end Expected

/-- The trees after the first one, a lifetime counting as one. -/
def skipTree : List Tree → List Tree
  | .punct '\'' true _ :: .ident _ _ :: rest => rest
  | _ :: rest => rest
  | [] => []

/-! ## Complaints -/

/-- What a cast may not be followed by. -/
inductive AfterCast where
  | await
  | methodCall
  | fieldAccess
  | question
  | indexing
  | call
  deriving DecidableEq, Repr, Inhabited

/-- How a complaint names what follows a cast. -/
def AfterCast.wording : AfterCast → String
  | await => "`.await`"
  | methodCall => "a method call"
  | fieldAccess => "a field access"
  | question => "`?`"
  | indexing => "indexing"
  | call => "a function call"

/-- What is wrong with a list of token trees. -/
inductive Complaint where
  | alternatives (failed : List Expected)
  | keyword (word : String)
  | expression
  | unterminated
  | unusedContent (d : Delimiter)
  | chainedComparison
  | cast (next : AfterCast)
  | member
  | integer
  | suffixedIndex
  | negativeIndex
  | largeIndex
  | elementOrLength
  | labelled
  | labelledBreak
  | attributedRange
  | macroDelimiter
  | pathSegment
  | nestedAttribute
  | whereGenerics
  | rangeEnd
  | openRange
  | secondReceiver
  | lateReceiver
  | objectWithoutTrait
  | implementationWithoutTrait
  | importedName
  | capture
  | constBound
  | maybeConstBound
  | optionalBinder
  | negativeInherent
  | depth
  deriving DecidableEq, Repr, Inhabited

/-- A complaint in words. -/
def Complaint.message : Complaint → String
  | alternatives [] => "unexpected token"
  | alternatives [a] => "expected " ++ a.wording
  | alternatives [a, b] => "expected " ++ a.wording ++ " or " ++ b.wording
  | alternatives failed => "expected one of: " ++ ", ".intercalate (failed.map Expected.wording)
  | keyword word => "expected identifier, found keyword `" ++ word ++ "`"
  | expression => "expected an expression"
  | unterminated => "unexpected token, expected `;`"
  | unusedContent d =>
    match d.marks? with
    | some (_, close) => "unexpected token, expected `" ++ close ++ "`"
    | none => "unexpected token"
  | chainedComparison => "comparison operators cannot be chained"
  | cast next => "casts cannot be followed by " ++ next.wording
  | member => "expected identifier or integer"
  | integer => "expected integer literal"
  | suffixedIndex => "expected unsuffixed integer"
  | negativeIndex => "invalid digit found in string"
  | largeIndex => "number too large to fit in target type"
  | elementOrLength => "expected `,` or `;`"
  | labelled => "expected loop or block expression"
  | labelledBreak => "parentheses required"
  | attributedRange => "attributes are not allowed on range expressions starting with `..`"
  | macroDelimiter => "expected delimiter"
  | pathSegment => "expected path segment after `::`"
  | nestedAttribute => "unexpected attribute inside of attribute"
  | whereGenerics => "generic parameters on `where` clauses are reserved for future use"
  | rangeEnd => "expected range upper bound"
  | openRange => "range pattern is not allowed unparenthesized inside slice pattern"
  | secondReceiver => "unexpected second method receiver"
  | lateReceiver => "unexpected method receiver"
  | objectWithoutTrait => "at least one trait is required for an object type"
  | implementationWithoutTrait => "at least one trait must be specified"
  | importedName => "expected identifier or underscore"
  | capture => "`use<...>` precise capturing syntax is not allowed here"
  | constBound => "`const` is not allowed here"
  | maybeConstBound => "`[const]` is not allowed here"
  | optionalBinder => "`for<...>` binder not allowed with `?` trait polarity modifier"
  | negativeInherent => "inherent impls cannot be negative"
  | depth => "nesting limit exceeded"

/-- A complaint with its place; at the end of a group or of the whole text the wording says so. -/
structure Fault where
  complaint : Complaint
  atEnd : Bool
  place : Place
  deriving DecidableEq, Repr

/-- A fault in words. -/
def Fault.message (f : Fault) : String :=
  match f.complaint, f.atEnd with
  | .alternatives [], true => "unexpected end of input"
  | c, true => "unexpected end of input, " ++ c.message
  | c, false => c.message

end PegCheck.Host
