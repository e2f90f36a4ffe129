import BlogGraph.GraphQL.Document
import BlogGraph.GraphQL.Token

/-!
# Reading documents

A document is read from its tokens by recursive descent. Recursion is bounded by a count that
starts above the number of tokens; every level of nesting takes at least one token, so the
bound is never met.
-/

namespace BlogGraph.GraphQL

/-- A reader of some part of a document. -/
abbrev Parser := StateT Tokens (Except SyntaxFault)

namespace Parser

/-- The next token. -/
def current : Parser Token := do
  match (← get).current with
  | .ok t => pure t
  | .error e => throw e

/-- The token after the next one. -/
def following : Parser Token := do
  match (← get).advance.current with
  | .ok t => pure t
  | .error e => throw e

/-- Passes over the next token. -/
def advance : Parser Unit := modify Tokens.advance

/-- A fault at a token. -/
def fault {α : Type} (t : Token) (reason : String) : Parser α := throw (.atPos t.pos reason)

/-- The fault of a token that fits nowhere. -/
def unexpected {α : Type} (t : Token) : Parser α := fault t ("Unexpected " ++ t.description ++ ".")

/-- The next token is of this kind. -/
def peek (kind : TokenKind) : Parser Bool := do
  return (← current).kind = kind

/-- A token of this kind. -/
def expect (kind : TokenKind) : Parser Token := do
  let t ← current
  if t.kind = kind then
    advance
    return t
  else fault t ("Expected " ++ kind.description ++ ", found " ++ t.description ++ ".")

/-- Passes over a token of this kind if it is next. -/
def skip? (kind : TokenKind) : Parser Bool := do
  if ← peek kind then
    advance
    return true
  else return false

/-- A token is this word. -/
def isWord (t : Token) (word : String) : Bool := t.kind = .name && t.value = some word

/-- This word. -/
def expectWord (word : String) : Parser Unit := do
  let t ← current
  if isWord t word then advance
  else fault t ("Expected '" ++ word ++ "', found " ++ t.description ++ ".")

/-- Passes over this word if it is next. -/
def skipWord? (word : String) : Parser Bool := do
  if isWord (← current) word then
    advance
    return true
  else return false

/-- Items up to a closing token; the count of tokens bounds their number. -/
def itemsUntil {α : Type} (close : TokenKind) (item : Parser α) : Nat → Parser (List α)
  | 0 => pure []
  | fuel + 1 => do
    if ← skip? close then return []
    else
      let a ← item
      return a :: (← itemsUntil close item fuel)

/-- How many tokens are left. -/
def remaining : Parser Nat := do
  return (← get).list.length + 1

/-- Any number of items between two tokens. -/
def any {α : Type} («open» close : TokenKind) (item : Parser α) : Parser (List α) := do
  let _ ← expect «open»
  itemsUntil close item (← remaining)

/-- One item or more between two tokens. -/
def many {α : Type} («open» close : TokenKind) (item : Parser α) : Parser (List α) := do
  let _ ← expect «open»
  let a ← item
  return a :: (← itemsUntil close item (← remaining))

/-- One item or more between two tokens, or nothing. -/
def optionalMany {α : Type} («open» close : TokenKind) (item : Parser α) : Parser (List α) := do
  if ← peek «open» then many «open» close item else return []

/-- The items after the first one, each after a separator. -/
def separatedRest {α : Type} (separator : TokenKind) (item : Parser α) : Nat → Parser (List α)
  | 0 => pure []
  | fuel + 1 => do
    if ← skip? separator then
      let a ← item
      return a :: (← separatedRest separator item fuel)
    else return []

/-- One item or more with separators between them; one may also stand before the first. -/
def separated {α : Type} (separator : TokenKind) (item : Parser α) : Parser (List α) := do
  let _ ← skip? separator
  let a ← item
  return a :: (← separatedRest separator item (← remaining))

/-- A name. -/
def name : Parser Name := do
  let t ← expect .name
  return ⟨t.value.getD "", t.pos⟩

/-- A variable, from its sign on. -/
def variableName : Parser Name := do
  let _ ← expect .dollar
  name

/-! ## Values -/

/-- A value; with `constant` no variables may stand in it. -/
def value (constant : Bool) : Nat → Parser Literal
  | 0 => do unexpected (← current)
  | fuel + 1 => do
    let t ← current
    let text := t.value.getD ""
    match t.kind with
    | .bracketL => return .list t.pos (← any .bracketL .bracketR (value constant fuel))
    | .braceL =>
      let field : Parser (Name × Literal) := do
        let n ← name
        let _ ← expect .colon
        return (n, ← value constant fuel)
      return .object t.pos (← any .braceL .braceR field)
    | .int => advance; return .int t.pos text
    | .float => advance; return .float t.pos text
    | .string => advance; return .string t.pos text false
    | .blockString => advance; return .string t.pos text true
    | .name =>
      advance
      match text with
      | "true" => return .boolean t.pos true
      | "false" => return .boolean t.pos false
      | "null" => return .null t.pos
      | _ => return .enum t.pos text
    | .dollar =>
      if constant then
        advance
        let next ← current
        if next.kind = .name then
          fault t ("Unexpected variable '$" ++ next.value.getD "" ++ "' in constant value.")
        else unexpected t
      else return .var t.pos (← variableName)
    | _ => unexpected t

/-- A value of any depth. -/
def literal (constant : Bool) : Parser Literal := do
  value constant (← remaining)

/-- An argument. -/
def argument (constant : Bool) : Parser Argument := do
  let n ← name
  let _ ← expect .colon
  return ⟨n, ← literal constant⟩

/-- The arguments of a field or a directive. -/
def arguments (constant : Bool) : Parser (List Argument) :=
  optionalMany .parenL .parenR (argument constant)

/-- The directives that follow, at most `fuel` of them. -/
def directivesUpTo (constant : Bool) : Nat → Parser (List Directive)
  | 0 => pure []
  | fuel + 1 => do
    let t ← current
    if t.kind = .atSign then
      advance
      let n ← name
      let args ← arguments constant
      return ⟨t.pos, n, args⟩ :: (← directivesUpTo constant fuel)
    else return []

/-- The directives that follow. -/
def directives (constant : Bool) : Parser (List Directive) := do
  directivesUpTo constant (← remaining)

/-! ## Types -/

/-- A type of bounded depth. -/
def typeUpTo : Nat → Parser TypeRef
  | 0 => do unexpected (← current)
  | fuel + 1 => do
    let t ← current
    let inner ←
      if t.kind = .bracketL then do
        advance
        let item ← typeUpTo fuel
        let _ ← expect .bracketR
        pure (TypeRef.list t.pos item)
      else do pure (TypeRef.named (← name))
    if ← skip? .bang then return .nonNull t.pos inner
    else return inner

/-- A type. -/
def typeRef : Parser TypeRef := do
  typeUpTo (← remaining)

/-! ## Selections -/

/-- The name of a fragment, which is not the word `on`. -/
def fragmentName : Parser Name := do
  let t ← current
  if t.value = some "on" then unexpected t else name

/-- One selection of bounded depth. A selection set may be empty. -/
def selection : Nat → Parser Selection
  | 0 => do unexpected (← current)
  | fuel + 1 => do
    let set : Parser (List Selection) := any .braceL .braceR (selection fuel)
    let here : Parser Nat := do return (← current).pos
    let t ← current
    if t.kind = .spread then
      advance
      let conditional ← skipWord? "on"
      if !conditional && (← peek .name) then
        let n ← fragmentName
        return .spread t.pos n (← directives false)
      else
        let condition ← if conditional then do pure (some (← name)) else pure none
        let ds ← directives false
        return .inline t.pos condition ds (← here) (← set)
    else
      let first ← name
      let (responseName, fieldName) ←
        if ← skip? .colon then do pure (some first, ← name) else pure (none, first)
      let args ← arguments false
      let ds ← directives false
      if ← peek .braceL then return .field responseName fieldName args ds (some (← here)) (← set)
      else return .field responseName fieldName args ds none []

/-- A selection set, with the place of its opening brace. -/
def selectionSet : Parser (Nat × List Selection) := do
  let start ← current
  return (start.pos, ← any .braceL .braceR (selection (← remaining)))

/-! ## Executable definitions -/

/-- A description is next. -/
def peekDescription : Parser Bool := do
  let t ← current
  return t.kind = .string || t.kind = .blockString

/-- Passes over a description if one is next. -/
def skipDescription : Parser Unit := do
  if ← peekDescription then advance

/-- The word for a kind of operation. -/
def operationKind : Parser OperationKind := do
  let t ← expect .name
  match t.value.getD "" with
  | "query" => return .query
  | "mutation" => return .mutation
  | "subscription" => return .subscription
  | _ => unexpected t

/-- The declaration of a variable. -/
def variableDefinition : Parser VariableDefinition := do
  let start ← current
  skipDescription
  let n ← variableName
  let _ ← expect .colon
  let t ← typeRef
  let d ← if ← skip? .equals then do pure (some (← literal true)) else pure none
  return ⟨start.pos, n, t, d, ← directives true⟩

/-- An operation. -/
def operation : Parser Definition := do
  let start ← current
  if start.kind = .braceL then
    let (brace, selections) ← selectionSet
    return .operation ⟨start.pos, .query, none, [], [], brace, selections⟩
  else
    skipDescription
    let kind ← operationKind
    let n ← if ← peek .name then do pure (some (← name)) else pure none
    let vars ← optionalMany .parenL .parenR variableDefinition
    let ds ← directives false
    let (brace, selections) ← selectionSet
    return .operation ⟨start.pos, kind, n, vars, ds, brace, selections⟩

/-- A named fragment. -/
def fragment : Parser Definition := do
  let start ← current
  skipDescription
  expectWord "fragment"
  let n ← fragmentName
  expectWord "on"
  let condition ← name
  let ds ← directives false
  let (brace, selections) ← selectionSet
  return .fragment ⟨start.pos, n, condition, ds, brace, selections⟩

/-! ## Type system definitions -/

/-- The operation type of a schema. -/
def operationType : Parser (OperationKind × Name) := do
  let kind ← operationKind
  let _ ← expect .colon
  return (kind, ← name)

/-- The interfaces that a type implements. -/
def interfaces : Parser (List Name) := do
  if ← skipWord? "implements" then separated .amp name else return []

/-- The declaration of an argument or an input field. -/
def inputDefinition : Parser InputDefinition := do
  skipDescription
  let n ← name
  let _ ← expect .colon
  let t ← typeRef
  let d ← if ← skip? .equals then do pure (some (← literal true)) else pure none
  return ⟨n, t, d, ← directives true⟩

/-- The declarations of arguments. -/
def argumentDefinitions : Parser (List InputDefinition) :=
  optionalMany .parenL .parenR inputDefinition

/-- The declaration of a field. -/
def fieldDefinition : Parser FieldDefinition := do
  skipDescription
  let n ← name
  let args ← argumentDefinitions
  let _ ← expect .colon
  let t ← typeRef
  return ⟨n, args, t, ← directives true⟩

/-- The declarations of fields. -/
def fieldDefinitions : Parser (List FieldDefinition) :=
  optionalMany .braceL .braceR fieldDefinition

/-- The declaration of an enum value. -/
def enumValue : Parser (Name × List Directive) := do
  skipDescription
  let t ← current
  if t.value = some "true" || t.value = some "false" || t.value = some "null" then
    fault t (t.description ++ " is reserved and cannot be used for an enum value.")
  else
    let n ← name
    return (n, ← directives true)

/-- The places where a directive may stand. -/
def directiveLocations : List String := [
  "QUERY", "MUTATION", "SUBSCRIPTION", "FIELD", "FRAGMENT_DEFINITION", "FRAGMENT_SPREAD",
  "INLINE_FRAGMENT", "VARIABLE_DEFINITION", "FRAGMENT_VARIABLE_DEFINITION", "SCHEMA", "SCALAR",
  "OBJECT", "FIELD_DEFINITION", "ARGUMENT_DEFINITION", "INTERFACE", "UNION", "ENUM", "ENUM_VALUE",
  "INPUT_OBJECT", "INPUT_FIELD_DEFINITION"]

/-- A place where a directive may stand. -/
def directiveLocation : Parser String := do
  let t ← current
  let n ← name
  if directiveLocations.contains n.value then return n.value else unexpected t

/-- The definiens of a named type of some sort, and the directives before it. -/
def definiens (sort : String) : Parser (List Directive × Definiens) := do
  match sort with
  | "scalar" => return (← directives true, .scalar)
  | "type" | "interface" =>
    let implemented ← interfaces
    let ds ← directives true
    let fields ← fieldDefinitions
    return (ds, if sort = "type" then .object implemented fields else .interface implemented fields)
  | "union" =>
    let ds ← directives true
    let types ← if ← skip? .equals then separated .pipe name else pure []
    return (ds, .union types)
  | "enum" =>
    let ds ← directives true
    return (ds, .enum (← optionalMany .braceL .braceR enumValue))
  | _ =>
    let ds ← directives true
    return (ds, .input (← optionalMany .braceL .braceR inputDefinition))

/-- Nothing is said about a type beyond its name. -/
def isBare (ds : List Directive) : Definiens → Bool
  | .schema operations => ds.isEmpty && operations.isEmpty
  | .scalar => ds.isEmpty
  | .object implemented fields | .interface implemented fields =>
    ds.isEmpty && implemented.isEmpty && fields.isEmpty
  | .union types => ds.isEmpty && types.isEmpty
  | .enum values => ds.isEmpty && values.isEmpty
  | .input fields => ds.isEmpty && fields.isEmpty
  | .directive _ _ _ => false

/-- The sorts of named type. -/
def typeSorts : List String := ["scalar", "type", "interface", "union", "enum", "input"]

/-- The definition of a named type, from its sort on. -/
def namedType (start : Token) (isExtension : Bool) (sort : String) : Parser Definition := do
  expectWord sort
  let n ← name
  let (ds, d) ← definiens sort
  if isExtension && isBare ds d then unexpected (← current)
  return .system ⟨start.pos, isExtension, some n, ds, d⟩

/-- The definition of a schema, from its word on. -/
def schemaType (start : Token) (isExtension : Bool) : Parser Definition := do
  expectWord "schema"
  let ds ← directives true
  let operations ←
    if isExtension then optionalMany .braceL .braceR operationType
    else many .braceL .braceR operationType
  if isExtension && ds.isEmpty && operations.isEmpty then unexpected (← current)
  return .system ⟨start.pos, isExtension, none, ds, .schema operations⟩

/-- The definition of a directive, from its word on. -/
def directiveType (start : Token) : Parser Definition := do
  expectWord "directive"
  let _ ← expect .atSign
  let n ← name
  let args ← argumentDefinitions
  let repeatable ← skipWord? "repeatable"
  expectWord "on"
  let locations ← separated .pipe directiveLocation
  return .system ⟨start.pos, false, some n, [], .directive args repeatable locations⟩

/-- An extension of the type system. -/
def extension : Parser Definition := do
  let start ← current
  let t ← following
  expectWord "extend"
  let word := if t.kind = .name then t.value.getD "" else ""
  if word = "schema" then schemaType start true
  else if typeSorts.contains word then namedType start true word
  else unexpected t

/-! ## Documents -/

/-- A definition that starts with a word, perhaps after a description. -/
def worded (start keyword : Token) (described : Bool) : Parser Definition := do
  let word := keyword.value.getD ""
  if word = "schema" then
    skipDescription
    schemaType start false
  else if typeSorts.contains word then
    skipDescription
    namedType start false word
  else if word = "directive" then
    skipDescription
    directiveType start
  else if word = "query" || word = "mutation" || word = "subscription" then operation
  else if word = "fragment" then fragment
  else if described then
    fault start "Unexpected description, only GraphQL definitions support descriptions."
  else if word = "extend" then extension
  else unexpected keyword

/-- A definition. -/
def definition : Parser Definition := do
  if ← peek .braceL then operation
  else
    let start ← current
    let described ← peekDescription
    let keyword ← if described then following else current
    if described && keyword.kind = .braceL then
      fault start "Unexpected description, descriptions are not supported on shorthand queries."
    else if keyword.kind = .name then worded start keyword described
    else unexpected keyword

/-- A document: one definition or more. -/
def document : Parser Document := do
  let first ← definition
  return ⟨first :: (← itemsUntil .eof definition (← remaining))⟩

end Parser

/-- The document that a text is, or the first fault in it. -/
def Document.parse (text : String) : Except SyntaxFault Document :=
  match Parser.document.run (Tokens.scan text.toList) with
  | .ok (d, _) => .ok d
  | .error e => .error e

end BlogGraph.GraphQL
