import PegCheck.Host.Phrase.Pattern
import PegCheck.Host.Phrase.TypeExpr

/-!
# Items

An item declares something: a function, a constant, a type, a module, an import, a trait or its
implementation, or it calls a macro. An item that lacks a part, such as a function without a body,
is printed as it stands in the source.

Headlines:
* **`Phrase.itemAfterAttributes`**: an item without its attributes, and whether it is printed as it
  stands.
* **`Phrase.item`**: an item with its attributes.
-/

namespace PegCheck.Host.Phrase

open Reader

/-! ## Functions -/

/-- The receiver of a method. -/
def receiver (p : Phrases) : Reader Unit := do
  let byReference ← accept (mark "&")
  if byReference then allow .lifetime
  allow (word "mut")
  expect (word "self")
  if ← acceptIf (!byReference) (mark ":") then discard (p.type true)

/-- What an argument of a function is. -/
inductive ArgumentClass where
  | receiver (self : Place)
  | typed
  | variadic
  deriving DecidableEq, Repr, Inhabited

/-- The place of the word `self` in the receiver ahead. -/
def receiverPlace : Reader Place := do
  let trees ← ahead
  return ((trees.find? fun t => (word "self").stands [t]).map Tree.place).getD (← place)

/-- An argument of a function: a receiver, or a pattern and a type. A type with arguments stands for
itself without a pattern. -/
def functionArgument (p : Phrases) : Reader ArgumentClass := do
  let start ← receiverPlace
  if (← attempt (receiver p)).isSome then return .receiver start
  if (← sees .ident) && (← seesSecond (mark "<")) then
    write [.ident "_" start, .punct ':' false start]
    discard (p.type true)
    return .typed
  discard p.pattern
  expect (mark ":")
  if ← accept (mark "...") then return .variadic
  discard (p.type true)
  return .typed

/-- The arguments of a function. Only the first can be a receiver, and only the last can stand for
any number of arguments. -/
def functionArguments (p : Phrases) : Reader Unit := do
  let endVariadic : Reader (Option (Bool × Bool)) := do
    unless ← atEnd do expect (mark ",")
    return none
  discard <| iterate (fun (isFirst, received) => do
    if ← atEnd then return none
    outerAttributes p
    if ← accept (mark "...") then return ← endVariadic
    let isReceiver ← do
      match ← functionArgument p with
      | .variadic => return ← endVariadic
      | .receiver start =>
        if received then failAt start .secondReceiver
        unless isFirst do failAt start .lateReceiver
        pure true
      | .typed => pure false
    if ← atEnd then return none
    expect (mark ",")
    return some (false, received || isReceiver)) (true, false)

/-- The head of a function, up to its conditions; `allowSafe` admits the word that marks a foreign
function as safe. Answers whether that word is there. Unused content of the parentheses counts last.
-/
def signature (p : Phrases) (allowSafe : Bool) : Reader Bool := do
  allow (word "const")
  allow (word "async")
  let isSafe ← acceptIf allowSafe (word "safe")
  unless isSafe do allow (word "unsafe")
  callingConvention
  expect (word "fn")
  expect .ident
  discard (generics p)
  let (_, unused) ← enclosed .parenthesis (functionArguments p)
  resultType p true
  discard (whereClause p)
  leave unused
  return isSafe

/-- Is the head of a function ahead? -/
def seesSignature (allowSafe : Bool) : Reader Bool := do
  let answer ← preview do
    allow (word "const")
    allow (word "async")
    unless ← acceptIf allowSafe (word "safe") do allow (word "unsafe")
    callingConvention
    expect (word "fn")
  return answer.isSome

/-- A function; answers whether it lacks a body. -/
def function (p : Phrases) : Reader Bool := do
  discard visibility
  discard (signature p false)
  if ← accept (mark ";") then return true
  body p
  return false

/-! ## Fields and declarations of data -/

/-- Is the body of a struct or a union ahead that stands in the place of a type? -/
def seesFieldsType : Reader Bool := do
  if ← sees (word "struct") then return true
  return (← sees (word "union")) && (← seesSecond (.group .brace))

/-- A field with a name. If that is an underscore, the fields of a struct or a union may stand in
the place of the type, and are printed as they stand. -/
def namedField (p : Phrases) : Reader Unit := do
  outerAttributes p
  discard visibility
  let isUnnamed ← accept (word "_")
  unless isUnnamed do expect .ident
  expect (mark ":")
  if isUnnamed && (← seesFieldsType) then
    asWritten do
      expect .anyWord
      p.namedFields
  else discard (p.type true)

/-- Fields with names in braces. -/
def namedFields (p : Phrases) : Reader Unit := inside .brace (commaSeparated (namedField p))

/-- Fields without names in parentheses. -/
def unnamedFields (p : Phrases) : Reader Unit := inside .parenthesis <| commaSeparated do
  outerAttributes p
  discard visibility
  discard (p.type true)

/-- The fields of a struct with its conditions. -/
def structFields (p : Phrases) : Reader Unit := do
  let conditioned ← whereClause p
  if !conditioned && (← sees (.group .parenthesis)) then
    unnamedFields p
    let conditioned ← whereClause p
    unless ← accept (mark ";") do
      refuse (if conditioned then [mark ";"] else [word "where", mark ";"])
  else if ← sees (.group .brace) then namedFields p
  else unless ← accept (mark ";") do
    refuse ((if conditioned then [] else [word "where", .group .parenthesis])
      ++ [.group .brace, mark ";"])

/-- A struct. -/
def structItem (p : Phrases) : Reader Unit := do
  discard visibility
  expect (word "struct")
  expect .ident
  discard (generics p)
  structFields p

/-- A variant of an enumeration; its visibility is left out in print. -/
def variant (p : Phrases) : Reader Unit := do
  outerAttributes p
  discard (captured visibility)
  expect .ident
  if ← sees (.group .brace) then namedFields p
  else if ← sees (.group .parenthesis) then unnamedFields p
  if ← accept (mark "=") then discard (p.expression true)

/-- An enumeration. -/
def enumItem (p : Phrases) : Reader Unit := do
  discard visibility
  expect (word "enum")
  expect .ident
  discard (generics p)
  discard (whereClause p)
  inside .brace (commaSeparated (variant p))

/-- A union. -/
def unionItem (p : Phrases) : Reader Unit := do
  discard visibility
  expect (word "union")
  expect .ident
  discard (generics p)
  discard (whereClause p)
  namedFields p

/-! ## Constants and types -/

/-- The name of a constant, which may be an underscore. -/
def constantName : Reader Unit := do
  unless ← acceptAny [.ident, word "_"] do refuse [.ident, word "_"]

/-- What a constant has of the parts that it may have. -/
structure ConstantShape where
  hasValue : Bool
  isGeneric : Bool
  deriving DecidableEq, Repr

/-- A constant from its name on. -/
def constantTail (p : Phrases) : Reader ConstantShape := do
  constantName
  let hasGenerics ← generics p
  expect (mark ":")
  discard (p.type true)
  let hasValue ← accept (mark "=")
  if hasValue then discard (p.expression true)
  let hasConditions ← whereClause p
  expect (mark ";")
  return ⟨hasValue, hasGenerics || hasConditions⟩

/-- A constant; answers whether it is printed as it stands. -/
def constant (p : Phrases) : Reader Bool := do
  discard visibility
  expect (word "const")
  let shape ← constantTail p
  return !shape.hasValue || shape.isGeneric

/-- A static variable; answers whether it lacks its type or its value. -/
def static (p : Phrases) : Reader Bool := do
  discard visibility
  expect (word "static")
  allow (word "mut")
  expect .ident
  if ← accept (mark "=") then
    discard (p.expression true)
    expect (mark ";")
    return true
  expect (mark ":")
  discard (p.type true)
  if ← accept (mark ";") then return true
  expect (mark "=")
  discard (p.expression true)
  expect (mark ";")
  return false

/-- Bounds after a colon with plus signs between them, up to a stop. -/
def bounds (p : Phrases) (stop : Reader Bool) : Reader Unit :=
  separatedUntil stop (mark "+") (discard (p.bound false true))

/-- Where the conditions of a type alias may stand. -/
inductive ConditionPlace where
  | before
  | after
  | either
  deriving DecidableEq, Repr, Inhabited

/-- What a type alias has of the parts that it may have. -/
structure AliasShape where
  isVisible : Bool
  hasColon : Bool
  hasDefinition : Bool
  deriving DecidableEq, Repr

/-- A type alias; its bounds are left out in print, with their colon, if there are none. -/
def typeAlias (p : Phrases) (allowDefault : Bool) (conditions : ConditionPlace) :
    Reader AliasShape := do
  let isVisible ← visibility
  if allowDefault then allow (word "default")
  expect (word "type")
  expect .ident
  discard (generics p)
  let (hasColon, trees) ← captured do
    unless ← accept (mark ":") do return false
    bounds p (seesAny [word "where", mark "=", mark ";"])
    return true
  if trees.length > 1 then write trees
  let conditioned ← if conditions == .after then pure false else whereClause p
  let hasDefinition ← accept (mark "=")
  if hasDefinition then discard (p.type true)
  unless conditions == .before || conditioned do discard (whereClause p)
  expect (mark ";")
  return ⟨isVisible, hasColon, hasDefinition⟩

/-- A type alias as an item; answers whether it has bounds or lacks a definition. -/
def typeItem (p : Phrases) : Reader Bool := do
  let shape ← typeAlias p false .before
  return shape.hasColon || !shape.hasDefinition

/-! ## Modules, imports and macros -/

/-- A macro call as an item, possibly with a name; it ends with a semicolon unless its group is one
of braces. -/
def macroItem (allowName : Bool) : Reader Unit := do
  plainPath
  expect (mark "!")
  if allowName then
    unless ← accept (word "try") do allow .ident
  unless ← wholeGroup do expect (mark ";")

/-- A macro that is declared by its transformation; it is printed as it stands. -/
def macroDefinition : Reader Unit := do
  discard visibility
  expect (word "macro")
  expect .ident
  let hasArguments ← accept (.group .parenthesis)
  unless ← accept (.group .brace) do
    refuse ((if hasArguments then [] else [.group .parenthesis]) ++ [.group .brace])

/-- A module. -/
def moduleItem (p : Phrases) : Reader Unit := do
  discard visibility
  allow (word "unsafe")
  expect (word "mod")
  unless ← accept (word "try") do expect .ident
  if ← accept (mark ";") then return
  unless ← sees (.group .brace) do refuse [mark ";", .group .brace]
  inside .brace do
    innerAttributes p
    untilEnd p.item

/-- The import of a whole library. -/
def externalLibrary : Reader Unit := do
  discard visibility
  expect (word "extern")
  expect (word "crate")
  unless ← accept (word "self") do expect .ident
  if ← accept (word "as") then
    unless ← accept (word "_") do expect .ident
  expect (mark ";")

/-- The names that an import tree can begin with. -/
def importBeginnings : List Expected :=
  [.ident, word "self", word "super", word "crate", word "try", mark "*", .group .brace]

/-- The trees of imported names in braces; answers whether one of their paths begins at the root. -/
def importGroup (p : Phrases) (allowRoot : Bool) : Reader Bool := inside .brace do
  let (rooted, _) ← iterate (fun (rooted, more) => do
    unless more && !(← atEnd) do return none
    let isRooted ← acceptIf allowRoot (mark "::")
    let isInnerRooted ← p.importTree (allowRoot && !isRooted)
    let ends ← atEnd
    unless ends do expect (mark ",")
    return some (rooted || isRooted || isInnerRooted, !ends)) (false, true)
  return rooted

/-- A tree of imported names; answers whether one of its paths begins at the root, which only those
in braces at the beginning can, and then only if it is allowed. -/
def importTree (p : Phrases) (allowRoot : Bool) : Reader Bool := do
  if ← accept (mark "*") then return false
  if ← sees (.group .brace) then return ← importGroup p allowRoot
  unless ← seesAny importBeginnings do refuse importBeginnings
  expect .anyWord
  if ← accept (mark "::") then return ← p.importTree false
  if ← accept (word "as") then
    unless ← acceptAny [.ident, word "_"] do fail .importedName
  return false

/-- An import; answers whether it is printed as it stands. -/
def importItem (p : Phrases) : Reader Bool := do
  discard visibility
  expect (word "use")
  let rooted ← accept (mark "::")
  let kept ← p.importTree (!rooted)
  expect (mark ";")
  return kept

/-! ## Foreign items -/

/-- A static variable of foreign code; answers whether it has a mark of safety or a value. -/
def foreignStatic (p : Phrases) : Reader Bool := do
  discard visibility
  let isMarked ← do
    if ← accept (word "unsafe") then pure true else accept (word "safe")
  expect (word "static")
  allow (word "mut")
  expect .ident
  expect (mark ":")
  discard (p.type true)
  let hasValue ← accept (mark "=")
  if hasValue then discard (p.expression true)
  expect (mark ";")
  return isMarked || hasValue

/-- A function of foreign code; answers whether it is marked as safe or has a body. -/
def foreignFunction (p : Phrases) : Reader Bool := do
  discard visibility
  let isSafe ← signature p true
  if ← sees (.group .brace) then
    body p
    return true
  expect (mark ";")
  return isSafe

/-- The beginnings of a macro call where items are expected. -/
def macroBeginnings : List Expected := [.ident, word "self", word "super", word "crate", mark "::"]

/-- The trees after a visibility, and whether there is one. -/
def afterVisibility : Reader (List Tree × Bool) := do
  let answer ← preview do
    let isVisible ← visibility
    return (← ahead, isVisible)
  return answer.getD (← ahead, false)

/-- Complains about what follows a visibility: none of the expectations is met there. -/
def refuseAfterVisibility (es : List Expected) : Reader α := do
  discard visibility
  refuse es

/-- Is the head of a function ahead, behind a visibility? -/
def seesFunction (allowSafe : Bool) : Reader Bool := do
  let answer ← preview do
    discard visibility
    seesSignature allowSafe
  return answer.getD false

/-- An item of foreign code. -/
def foreignItem (p : Phrases) : Reader Unit := keeping do
  outerAttributes p
  let (trees, isVisible) ← afterVisibility
  let marked := [word "unsafe", word "safe"].any (·.stands trees)
    && (word "static").stands (skipTree trees)
  if ← seesFunction true then return ((), ← foreignFunction p)
  if (word "static").stands trees || marked then return ((), ← foreignStatic p)
  if (word "type").stands trees then
    let shape ← typeAlias p false .either
    return ((), shape.hasColon || shape.hasDefinition)
  if !isVisible && macroBeginnings.any (·.stands trees) then
    macroItem false
    return ((), false)
  refuseAfterVisibility ([word "fn", word "static", word "type"]
    ++ if isVisible then [] else macroBeginnings)

/-- A block of foreign items. -/
def foreignBlock (p : Phrases) : Reader Unit := do
  allow (word "unsafe")
  expect (word "extern")
  allow .string
  inside .brace do
    innerAttributes p
    untilEnd (foreignItem p)

/-! ## Traits -/

/-- A method of a trait, with or without a body. -/
def traitMethod (p : Phrases) : Reader Unit := do
  discard (signature p false)
  if ← sees (.group .brace) then body p
  else unless ← accept (mark ";") do refuse [.group .brace, mark ";"]

/-- What can begin a part of a trait after the word `const`. -/
def afterConst : List Expected :=
  [.ident, word "_", word "async", word "unsafe", word "extern", word "fn"]

/-- A part of a trait. One with a visibility or a default is printed as it stands. -/
def traitPart (p : Phrases) : Reader Unit := keeping do
  outerAttributes p
  let isVisible ← visibility
  let isDefault ← accept (word "default")
  let isMarked := isVisible || isDefault
  if ← seesSignature false then
    traitMethod p
    return ((), isMarked)
  if ← accept (word "const") then
    if ← seesAny [word "async", word "unsafe", word "extern", word "fn"] then
      traitMethod p
      return ((), isMarked)
    unless ← seesAny [.ident, word "_"] do refuse afterConst
    let shape ← constantTail p
    return ((), isMarked || shape.isGeneric)
  if ← sees (word "type") then
    let shape ← typeAlias p false .after
    return ((), isMarked || shape.isVisible)
  if !isMarked && (← seesAny macroBeginnings) then
    macroItem false
    return ((), false)
  refuse ([word "fn", word "const", word "type"] ++ if isMarked then [] else macroBeginnings)

/-- A trait from the bounds of its implementors on. -/
def traitTail (p : Phrases) : Reader Unit := do
  let (_, trees) ← captured do
    if ← accept (mark ":") then bounds p (seesAny [word "where", .group .brace])
  if trees.length > 1 then write trees
  discard (whereClause p)
  inside .brace do
    innerAttributes p
    untilEnd (traitPart p)

/-- A trait that may be unsafe or automatic. -/
def markedTrait (p : Phrases) : Reader Unit := do
  discard visibility
  allow (word "unsafe")
  allow (word "auto")
  expect (word "trait")
  expect .ident
  discard (generics p)
  traitTail p

/-- A trait, or an alias of a sum of traits. -/
def traitItem (p : Phrases) : Reader Unit := do
  discard visibility
  expect (word "trait")
  expect .ident
  discard (generics p)
  if ← accept (mark "=") then
    bounds p (seesAny [word "where", mark ";"])
    discard (whereClause p)
    expect (mark ";")
  else
    unless ← seesAny [.group .brace, mark ":", word "where"] do
      refuse [.group .brace, mark ":", word "where", mark "="]
    traitTail p

/-! ## Implementations -/

/-- A method of an implementation; answers whether it lacks a body. -/
def method (p : Phrases) : Reader Bool := do
  discard visibility
  allow (word "default")
  discard (signature p false)
  if ← accept (mark ";") then return true
  body p
  return false

/-- The trees of a part of an implementation after its visibility and its default, and whether it
has one of them. -/
def afterMarks : Reader (List Tree × Bool × Bool) := do
  let answer ← preview do
    let isVisible ← visibility
    let isDefault ← if ← seesSecond (mark "!") then pure false else accept (word "default")
    return (← ahead, isVisible, isDefault)
  return answer.getD (← ahead, false, false)

/-- A part of an implementation. -/
def implementationPart (p : Phrases) : Reader Unit := keeping do
  outerAttributes p
  let (trees, isVisible, isDefault) ← afterMarks
  let isFunction ← preview do
    discard visibility
    unless ← seesSecond (mark "!") do allow (word "default")
    seesSignature false
  if isFunction.getD false then return ((), ← method p)
  if (word "const").stands trees then
    discard visibility
    allow (word "default")
    expect (word "const")
    let shape ← constantTail p
    return ((), !shape.hasValue || shape.isGeneric)
  if (word "type").stands trees then
    let shape ← typeAlias p true .after
    return ((), shape.hasColon || !shape.hasDefinition)
  let plain := !isVisible && !isDefault
  if plain && macroBeginnings.any (·.stands trees) then
    macroItem false
    return ((), false)
  discard visibility
  unless ← seesSecond (mark "!") do allow (word "default")
  refuse ((if isDefault then [] else [word "default"]) ++ [word "fn", word "const", word "type"]
    ++ if plain then macroBeginnings else [])

/-- An implementation; answers whether it is printed as it stands: when it has a visibility, is
constant, or is for a trait that is no path. Only one for a trait can be negative. -/
def implementation (p : Phrases) : Reader Bool := do
  let isVisible ← visibility
  allow (word "default")
  allow (word "unsafe")
  expect (word "impl")
  if ← seesGenerics then discard (generics p)
  let optional := (← sees (mark "?")) && (← seesSecond (word "const"))
  let isConst := optional || (← sees (word "const"))
  if optional then expect (mark "?")
  if isConst then expect (word "const")
  let start ← place
  let isNegative := (← sees (mark "!")) && !(← seesSecond (.group .brace))
  if isNegative then expect (mark "!")
  let class_ ← p.type true
  let isTrait ← accept (word "for")
  if isTrait then discard (p.type true)
  else if isNegative then failAt start .negativeInherent
  discard (whereClause p)
  inside .brace do
    innerAttributes p
    untilEnd (implementationPart p)
  let isPath := class_ == .name || class_ == .path
  return isVisible || isConst || (isTrait && !isPath)

/-! ## Items -/

/-- What an item can begin with. -/
def itemBeginnings : List Expected :=
  [word "fn", word "extern", word "use", word "static", word "const", word "unsafe", word "mod",
   word "type", word "struct", word "enum", word "union", word "trait", word "auto", word "impl",
   word "default", word "macro"]

/-- Says that an item is not printed as it stands. -/
def plainly (r : Reader Unit) : Reader Bool := do
  r
  return false

/-- An item that begins with the word `extern` after its visibility, and is no function. -/
def externItem (p : Phrases) (rest : List Tree) : Reader Bool := do
  if (word "crate").stands rest then plainly externalLibrary
  else if (Expected.group .brace).stands rest then plainly (foreignBlock p)
  else if Expected.string.stands rest then
    if (Expected.group .brace).stands (skipTree rest) then plainly (foreignBlock p)
    else
      discard visibility
      expect (word "extern")
      expect .string
      refuse [.group .brace]
  else
    discard visibility
    expect (word "extern")
    refuse [word "crate", .group .brace, .string]

/-- An item that begins with the word `unsafe` after its visibility, and is no function. -/
def unsafeItem (p : Phrases) (rest : List Tree) : Reader Bool := do
  let automatic := (word "auto").stands rest && (word "trait").stands (skipTree rest)
  if (word "trait").stands rest || automatic then plainly (markedTrait p)
  else if (word "impl").stands rest then implementation p
  else if (word "extern").stands rest then plainly (foreignBlock p)
  else if (word "mod").stands rest then plainly (moduleItem p)
  else
    discard visibility
    expect (word "unsafe")
    refuse [word "trait", word "auto", word "impl", word "extern", word "mod"]

/-- An item without its attributes; answers whether it is printed as it stands. -/
def itemAfterAttributes (p : Phrases) : Reader Bool := do
  let (trees, isVisible) ← afterVisibility
  let begins (text : String) : Bool := (word text).stands trees
  let second := skipTree trees
  if ← seesFunction false then function p
  else if begins "extern" then externItem p second
  else if begins "use" then importItem p
  else if begins "static" then static p
  else if begins "const" then constant p
  else if begins "unsafe" then unsafeItem p second
  else if begins "mod" then plainly (moduleItem p)
  else if begins "type" then typeItem p
  else if begins "struct" then plainly (structItem p)
  else if begins "enum" then plainly (enumItem p)
  else if begins "union" && Expected.ident.stands second then plainly (unionItem p)
  else if begins "trait" then plainly (traitItem p)
  else if begins "auto" && (word "trait").stands second then plainly (markedTrait p)
  else if begins "impl" || (begins "default" && !(mark "!").stands second) then implementation p
  else if begins "macro" then do
    macroDefinition
    return true
  else if !isVisible && macroBeginnings.any (·.stands trees) then plainly (macroItem true)
  else refuseAfterVisibility (itemBeginnings ++ if isVisible then [] else macroBeginnings)

/-- An item with its attributes. -/
def item (p : Phrases) : Reader Unit := keeping do
  outerAttributes p
  return ((), ← itemAfterAttributes p)

end PegCheck.Host.Phrase
