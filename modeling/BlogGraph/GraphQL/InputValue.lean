import BlogGraph.GraphQL.Error
import BlogGraph.GraphQL.LiteralText
import BlogGraph.GraphQL.MetaSchema
import BlogGraph.Json.Shown
import BlogGraph.Text.EditDistance

/-!
# Input values

Values that clients send, as data or written in a document, are checked against the types of
a schema and brought into the form that the program works with. Bringing into form says yes
or no; telling what is wrong is a function of its own, which lists every fault with its path.

A single value stands for a list of one. An input object must have its required fields and no
unknown ones, and its other fields fall back on their defaults. A whole number with a zero
fraction counts as an integer, and an integer as an identifier.
-/

namespace BlogGraph.GraphQL

/-- The values that the variables of an operation have; one without a value is absent. -/
abbrev Variables := Named Json

/-! ## How messages show values -/

/-- The longest text of a value in a message. -/
def maxShownLength : Nat := 240

/-- A text cut in the middle to the greatest length. -/
def cutText (s : String) : String :=
  if s.length > maxShownLength then
    let front := (maxShownLength - 3) / 2
    let back := maxShownLength - 3 - front
    let cs := s.toList
    String.ofList (cs.take front ++ ['.', '.', '.'] ++ cs.drop (cs.length - back))
  else s

/-- Ten items at most: of more, the first five and the last four. -/
def cutItems (items : List String) : List String :=
  if items.length > 10 then items.take 5 ++ ["..."] ++ items.drop (items.length - 4) else items

mutual

/-- The text of a value in a message. Two levels of lists and objects are shown. -/
def inspect (depth : Nat) : Json → String
  | .int n => cutText (toString n)
  | .text s => cutText (Text.quoted s)
  | .list items =>
    if items.isEmpty then "[]"
    else if depth < 2 then
      "[" ++ ", ".intercalate (cutItems (inspectItems (depth + 1) items)) ++ "]"
    else "[...]"
  | .object fields =>
    if fields.isEmpty then "\x7b\x7d"
    else if depth < 2 then
      "\x7b" ++ ", ".intercalate (cutItems (inspectFields (depth + 1) fields)) ++ "\x7d"
    else "\x7b...\x7d"
  | v => v.shown

/-- The texts of items in a message. -/
def inspectItems (depth : Nat) : List Json → List String
  | [] => []
  | v :: rest => inspect depth v :: inspectItems depth rest

/-- The texts of fields in a message. -/
def inspectFields (depth : Nat) : List (String × Json) → List String
  | [] => []
  | (name, v) :: rest =>
    (cutText (Text.quoted name) ++ ": " ++ inspect depth v) :: inspectFields depth rest

end

/-! ## Scalars -/

/-- The scalars that the schema of the blog uses. -/
inductive Scalar where
  | int
  | string
  | boolean
  | id
deriving DecidableEq, Repr

namespace Scalar

/-- The scalar of a name. -/
def ofName? : String → Option Scalar
  | "Int" => some int
  | "String" => some string
  | "Boolean" => some boolean
  | "ID" => some id
  | _ => none

/-- A whole number of 32 bits with a sign. -/
def isInt32 (n : Int) : Bool := -2147483648 ≤ n && n ≤ 2147483647

/-- The whole number that a value is. -/
def wholeNumber? : Json → Option Int
  | .int n => some n
  | .float x => x.toInt?
  | _ => none

/-- A value in the form of a scalar, or what is wrong with it. -/
def ofValue (s : Scalar) (v : Json) : Except String Json :=
  match s with
  | int =>
    match wholeNumber? v with
    | none => .error ("Int cannot represent non-integer value: " ++ inspect 0 v)
    | some n =>
      if isInt32 n then .ok (.int n)
      else .error ("Int cannot represent non 32-bit signed integer value: " ++ inspect 0 v)
  | string =>
    match v with
    | .text t => .ok (.text t)
    | _ => .error ("String cannot represent a non string value: " ++ inspect 0 v)
  | boolean =>
    match v with
    | .bool b => .ok (.bool b)
    | _ => .error ("Boolean cannot represent a non boolean value: " ++ inspect 0 v)
  | id =>
    match v with
    | .text t => .ok (.text t)
    | _ =>
      match wholeNumber? v with
      | some n => .ok (.text (toString n))
      | none => .error ("ID cannot represent value: " ++ inspect 0 v)

/-- The number that a numeral of a document stands for. -/
def numeral (digits : String) : Int :=
  match digits.toList with
  | '-' :: ds => -(natural ds : Int)
  | ds => natural ds
where
  /-- The number of a run of digits. -/
  natural (ds : List Char) : Nat := ds.foldl (fun n d => n * 10 + (d.toNat - 48)) 0

/-- A written value in the form of a scalar, or what is wrong with it. -/
def ofLiteral (s : Scalar) (l : Literal) : Except String Json :=
  match s, l with
  | int, .int _ digits =>
    if isInt32 (numeral digits) then .ok (.int (numeral digits))
    else .error ("Int cannot represent non 32-bit signed integer value: " ++ digits)
  | int, _ => .error ("Int cannot represent non-integer value: " ++ l.text)
  | string, .string _ t _ => .ok (.text t)
  | string, _ => .error ("String cannot represent a non string value: " ++ l.text)
  | boolean, .boolean _ b => .ok (.bool b)
  | boolean, _ => .error ("Boolean cannot represent a non boolean value: " ++ l.text)
  | id, .string _ t _ => .ok (.text t)
  | id, .int _ digits => .ok (.text digits)
  | id, _ => .error ("ID cannot represent a non-string and non-integer value: " ++ l.text)

end Scalar

/-! ## Leaves -/

/-- A written value of an enum, or what is wrong with it. -/
def enumOfLiteral (type : String) (values : List String) (l : Literal) : Except String Json :=
  match l with
  | .enum _ name =>
    if values.contains name then .ok (.text name)
    else
      .error ("Value '" ++ name ++ "' does not exist in '" ++ type ++ "' enum." ++
        suggestion name)
  | _ =>
    .error ("Enum '" ++ type ++ "' cannot represent non-enum value: " ++ l.text ++ "." ++
      suggestion l.text)
where
  /-- The question whether a near value was meant. -/
  suggestion (name : String) : String :=
    match (Text.nearNames name values).take 5 with
    | [] => ""
    | near => " Did you mean the enum value " ++
        Text.choices (near.map fun s => "'" ++ s ++ "'") ++ "?"

/-- A value of an enum, or what is wrong with it. -/
def enumOfValue (type : String) (values : List String) (v : Json) : Except String Json :=
  match v with
  | .text name =>
    if values.contains name then .ok v
    else
      .error ("Value '" ++ name ++ "' does not exist in '" ++ type ++ "' enum." ++
        enumOfLiteral.suggestion values name)
  | _ =>
    .error ("Enum '" ++ type ++ "' cannot represent non-string value: " ++ inspect 0 v ++ "." ++
      enumOfLiteral.suggestion values (inspect 0 v))

namespace TypeSpec

/-- A value in the form of a leaf type, or what is wrong with it. -/
def leafOfValue (t : TypeSpec) (v : Json) : Except String Json :=
  match t.body, Scalar.ofName? t.name with
  | .enum values, _ => enumOfValue t.name (values.map (·.1)) v
  | _, some s => s.ofValue v
  | _, none => .ok v

/-- A written value in the form of a leaf type, or what is wrong with it. -/
def leafOfLiteral (t : TypeSpec) (l : Literal) : Except String Json :=
  match t.body, Scalar.ofName? t.name with
  | .enum values, _ => enumOfLiteral t.name (values.map (·.1)) l
  | _, some s => s.ofLiteral l
  | _, none => .error l.text

end TypeSpec

/-! ## Variables inside literals -/

/-- A data value as a document writes it. -/
def literalOfValue : Nat → Json → Literal
  | 0, _ => .null 0
  | fuel + 1, v =>
    match v with
    | .null => .null 0
    | .bool b => .boolean 0 b
    | .int n => .int 0 (toString n)
    | .float x => .float 0 (FloatStyle.shown.text x)
    | .text s => .string 0 s false
    | .list items => .list 0 (items.map (literalOfValue fuel))
    | .object fields => .object 0 (fields.map fun f => (⟨f.1, 0⟩, literalOfValue fuel f.2))

mutual

/-- A literal with the values of variables in their places. A field of an object whose
variable has no value is left out; elsewhere such a variable stands for the missing value. -/
def fillVariables (vars : Variables) : Literal → Literal
  | .var _ n =>
    match vars.get? n.value with
    | some v => literalOfValue 3 v
    | none => .null 0
  | .list p items => .list p (fillItems vars items)
  | .object p fields => .object p (fillFields vars fields)
  | l => l

/-- The items of a list with values in the places of variables. -/
def fillItems (vars : Variables) : List Literal → List Literal
  | [] => []
  | l :: rest => fillVariables vars l :: fillItems vars rest

/-- The fields of an object with values in the places of variables. -/
def fillFields (vars : Variables) : List (Name × Literal) → List (Name × Literal)
  | [] => []
  | (n, l) :: rest =>
    match l with
    | .var _ v =>
      if (vars.get? v.value).isNone then fillFields vars rest
      else (n, fillVariables vars l) :: fillFields vars rest
    | _ => (n, fillVariables vars l) :: fillFields vars rest

end

/-! ## Bringing values into form -/

mutual

/-- A data value in the form of a type, if it fits. -/
def coerceValue (s : Schema) : Nat → Ty → Json → Option Json
  | 0, _, _ => none
  | fuel + 1, type, v =>
    match type, v with
    | .nonNull _, .null => none
    | .nonNull t, v => coerceValue s fuel t v
    | _, .null => some .null
    | .list t, .list items => (coerceItems s fuel t items).map .list
    | .list t, v => (coerceValue s fuel t v).map fun i => .list [i]
    | .named n, v =>
      match s.type? n with
      | none => none
      | some spec =>
        match spec.body, v with
        | .input fields, .object given =>
          if given.all fun g => fields.any fun f => f.name = g.1 then
            (coerceFields s fuel given fields).map .object
          else none
        | .input _, _ => none
        | .object _, _ => none
        | _, v => (spec.leafOfValue v).toOption

/-- Items in the form of a type, if all fit. -/
def coerceItems (s : Schema) : Nat → Ty → List Json → Option (List Json)
  | 0, _, _ => none
  | _, _, [] => some []
  | fuel + 1, type, v :: rest =>
    match coerceValue s fuel type v, coerceItems s fuel type rest with
    | some a, some as => some (a :: as)
    | _, _ => none

/-- The fields of an input object in the form of their types, if all fit. -/
def coerceFields (s : Schema) : Nat → Named Json → List InputSpec →
    Option (Named Json)
  | 0, _, _ => none
  | _, _, [] => some []
  | fuel + 1, given, f :: rest =>
    match coerceFields s fuel given rest with
    | none => none
    | some others =>
      match given.get? f.name with
      | some v => (coerceValue s fuel f.type v).map fun a => (f.name, a) :: others
      | none =>
        if f.isRequired then none
        else some (f.defaultValue.elim others fun d => (f.name, d) :: others)

end

mutual

/-- A written value in the form of a type, if it fits. Variables have been checked against
their own types and are taken as they are. -/
def coerceLiteral (s : Schema) (vars : Variables) : Nat → Ty → Literal → Option Json
  | 0, _, _ => none
  | fuel + 1, type, l =>
    match type, l with
    | t, .var _ n =>
      match vars.get? n.value with
      | none => none
      | some .null => if t.isNonNull then none else some .null
      | some v => some v
    | .nonNull _, .null _ => none
    | .nonNull t, l => coerceLiteral s vars fuel t l
    | _, .null _ => some .null
    | .list t, .list _ items => (coerceLiteralItems s vars fuel t items).map .list
    | .list t, l => (coerceLiteral s vars fuel t l).map fun i => .list [i]
    | .named n, l =>
      match s.type? n with
      | none => none
      | some spec =>
        match spec.body, l with
        | .input fields, .object _ given =>
          if given.all fun g => fields.any fun f => f.name = g.1.value then
            (coerceLiteralFields s vars fuel given fields).map .object
          else none
        | .input _, _ => none
        | .object _, _ => none
        | _, l => (spec.leafOfLiteral (fillVariables vars l)).toOption

/-- Items in the form of a type, if all fit. A variable without a value is a missing item. -/
def coerceLiteralItems (s : Schema) (vars : Variables) : Nat → Ty → List Literal →
    Option (List Json)
  | 0, _, _ => none
  | _, _, [] => some []
  | fuel + 1, type, l :: rest =>
    let item :=
      match coerceLiteral s vars fuel type l with
      | some v => some v
      | none => if l.isVar && !type.isNonNull then some .null else none
    match item, coerceLiteralItems s vars fuel type rest with
    | some a, some as => some (a :: as)
    | _, _ => none

/-- The fields of an input object in the form of their types, if all fit. A variable without
a value stands for no field at all. -/
def coerceLiteralFields (s : Schema) (vars : Variables) : Nat → List (Name × Literal) →
    List InputSpec → Option (Named Json)
  | 0, _, _ => none
  | _, _, [] => some []
  | fuel + 1, given, f :: rest =>
    match coerceLiteralFields s vars fuel given rest with
    | none => none
    | some others =>
      let written :=
        match (given.reverse.find? fun g => g.1.value = f.name).map (·.2) with
        | some (.var p n) => if (vars.get? n.value).isNone then none else some (Literal.var p n)
        | l => l
      match written with
      | some l => (coerceLiteral s vars fuel f.type l).map fun a => (f.name, a) :: others
      | none =>
        if f.isRequired then none
        else some (f.defaultValue.elim others fun d => (f.name, d) :: others)

end

/-! ## Telling what is wrong -/

/-- The message about an unknown field. -/
def unknownField (type field : String) (known : List String) (shown : String) : String :=
  let suggestion := Text.didYouMean (Text.nearNames field known)
  "Expected value of type '" ++ type ++ "' not to include unknown field '" ++ field ++ "'" ++
    (if suggestion.isEmpty then ", found" else "." ++ suggestion ++ " Found") ++ ": " ++ shown ++
    "."

/-- The message about a field that is missing. -/
def missingField (type field shown : String) : String :=
  "Expected value of type '" ++ type ++ "' to include required field '" ++ field ++ "', found: " ++
    shown ++ "."

/-- A fault of an input value: where inside the value, and what it is. -/
abbrev ValueFault := List PathKey × String

mutual

/-- What is wrong with a data value; `none` stands for no value at all. -/
def valueFaults (s : Schema) : Nat → List PathKey → Ty → Option Json → List ValueFault
  | 0, _, _, _ => []
  | fuel + 1, path, type, v =>
    match type, v with
    | .nonNull t, none =>
      [(path, "Expected a value of non-null type '" ++ (Ty.nonNull t).text ++ "' to be provided.")]
    | .nonNull t, some .null =>
      [(path, "Expected value of non-null type '" ++ (Ty.nonNull t).text ++ "' not to be None.")]
    | .nonNull t, v => valueFaults s fuel path t v
    | _, none => []
    | _, some .null => []
    | .list t, some (.list items) => itemFaults s fuel path t 0 items
    | .list t, v => valueFaults s fuel path t v
    | .named n, some v =>
      match s.type? n with
      | none => []
      | some spec =>
        match spec.body, v with
        | .input fields, .object given =>
          fieldFaults s fuel path n given fields ++
            (given.filter fun g => !fields.any fun f => f.name = g.1).map fun g =>
              (path, unknownField n g.1 (fields.map (·.name)) (inspect 0 (.object given)))
        | .input _, v =>
          [(path, "Expected value of type '" ++ n ++ "' to be an object, found: " ++ inspect 0 v ++
            ".")]
        | _, v =>
          match spec.leafOfValue v with
          | .ok _ => []
          | .error message => [(path, message)]

/-- What is wrong with the items of a list, from an index on. -/
def itemFaults (s : Schema) : Nat → List PathKey → Ty → Nat → List Json → List ValueFault
  | 0, _, _, _, _ => []
  | _, _, _, _, [] => []
  | fuel + 1, path, type, i, v :: rest =>
    valueFaults s fuel (path ++ [.index i]) type (some v) ++
      itemFaults s fuel path type (i + 1) rest

/-- What is wrong with the known fields of an object. -/
def fieldFaults (s : Schema) : Nat → List PathKey → String → Named Json →
    List InputSpec → List ValueFault
  | 0, _, _, _, _ => []
  | _, _, _, _, [] => []
  | fuel + 1, path, type, given, f :: rest =>
    let here :=
      match given.get? f.name with
      | some v => valueFaults s fuel (path ++ [.key f.name]) f.type (some v)
      | none =>
        if f.isRequired then [(path, missingField type f.name (inspect 0 (.object given)))] else []
    here ++ fieldFaults s fuel path type given rest

end

/-- A fault of a written value: where inside the value, what it is, and its place. -/
structure LiteralFault where
  path : List PathKey
  message : String
  positions : List Nat

/-- The place of a value in messages. A list or an object in the place of a simple value is
looked at as a whole with its variables filled in, and then has no place. -/
def leafPositions : Literal → List Nat
  | .list _ _ => []
  | .object _ _ => []
  | l => [l.pos]

mutual

/-- What is wrong with a written value. Without values of variables nothing is said about
variables. -/
def literalFaults (s : Schema) (vars : Option Variables) :
    Nat → List PathKey → Ty → Literal → List LiteralFault
  | 0, _, _, _ => []
  | fuel + 1, path, type, l =>
    match type, l with
    | t, .var p n =>
      match vars with
      | none => []
      | some known =>
        if t.isNonNull then
          match known.get? n.value with
          | none =>
            [⟨path, "Expected variable '$" ++ n.value ++ "' provided to type '" ++ t.text ++
              "' to provide a runtime value.", [p]⟩]
          | some .null =>
            [⟨path, "Expected variable '$" ++ n.value ++ "' provided to non-null type '" ++
              t.text ++ "' not to be None.", [p]⟩]
          | some _ => []
        else []
    | .nonNull t, .null p =>
      [⟨path, "Expected value of non-null type '" ++ (Ty.nonNull t).text ++ "' not to be None.",
        [p]⟩]
    | .nonNull t, l => literalFaults s vars fuel path t l
    | _, .null _ => []
    | .list t, .list _ items => literalItemFaults s vars fuel path t 0 items
    | .list t, l => literalFaults s vars fuel path t l
    | .named n, l =>
      match s.type? n with
      | none => []
      | some spec =>
        match spec.body, l with
        | .input fields, .object p given =>
          literalFieldFaults s vars fuel path n (.object p given) given fields ++
            (given.filter fun g => !fields.any fun f => f.name = g.1.value).map fun g =>
              ⟨path, unknownField n g.1.value (fields.map (·.name)) (Literal.object p given).text,
                [g.1.pos]⟩
        | .input _, l =>
          [⟨path, "Expected value of type '" ++ n ++ "' to be an object, found: " ++ l.text ++ ".",
            [l.pos]⟩]
        | _, l =>
          match spec.leafOfLiteral (fillVariables (vars.getD []) l) with
          | .ok _ => []
          | .error message => [⟨path, message, leafPositions l⟩]

/-- What is wrong with the written items of a list, from an index on. -/
def literalItemFaults (s : Schema) (vars : Option Variables) :
    Nat → List PathKey → Ty → Nat → List Literal → List LiteralFault
  | 0, _, _, _, _ => []
  | _, _, _, _, [] => []
  | fuel + 1, path, type, i, l :: rest =>
    literalFaults s vars fuel (path ++ [.index i]) type l ++
      literalItemFaults s vars fuel path type (i + 1) rest

/-- What is wrong with the known fields of a written object. -/
def literalFieldFaults (s : Schema) (vars : Option Variables) :
    Nat → List PathKey → String → Literal → List (Name × Literal) → List InputSpec →
    List LiteralFault
  | 0, _, _, _, _, _ => []
  | _, _, _, _, _, [] => []
  | fuel + 1, path, type, whole, given, f :: rest =>
    let skipped := fun (l : Literal) =>
      match vars, l with
      | some known, .var _ n => (known.get? n.value).isNone && !f.isRequired
      | _, _ => false
    let here : List LiteralFault :=
      match (given.reverse.find? fun g => g.1.value = f.name).map (·.2) with
      | some l =>
        if skipped l then []
        else literalFaults s vars fuel (path ++ [.key f.name]) f.type l
      | none =>
        if f.isRequired then [⟨path, missingField type f.name whole.text, [whole.pos]⟩] else []
    here ++ literalFieldFaults s vars fuel path type whole given rest

end

/-! ## Bounds of recursion -/

namespace Ty

/-- How deep a type is. -/
def depth : Ty → Nat
  | named _ => 1
  | list t => t.depth + 1
  | nonNull t => t.depth + 1

end Ty

mutual

/-- The number of values in a data value, itself included. -/
def valueSize : Json → Nat
  | .list items => 1 + itemsSize items
  | .object fields => 1 + fieldsSize fields
  | _ => 1

/-- The number of values in items. -/
def itemsSize : List Json → Nat
  | [] => 0
  | v :: rest => 1 + valueSize v + itemsSize rest

/-- The number of values in fields. -/
def fieldsSize : List (String × Json) → Nat
  | [] => 0
  | (_, v) :: rest => 1 + valueSize v + fieldsSize rest

end

mutual

/-- The number of values in a written value, itself included. -/
def literalSize : Literal → Nat
  | .list _ items => 1 + literalItemsSize items
  | .object _ fields => 1 + literalFieldsSize fields
  | _ => 1

/-- The number of values in written items. -/
def literalItemsSize : List Literal → Nat
  | [] => 0
  | l :: rest => 1 + literalSize l + literalItemsSize rest

/-- The number of values in written fields. -/
def literalFieldsSize : List (Name × Literal) → Nat
  | [] => 0
  | (_, l) :: rest => 1 + literalSize l + literalFieldsSize rest

end

namespace Schema

/-- The number of input fields of all types. -/
def inputCount (s : Schema) : Nat := (s.types.map fun t => t.inputFields.length).foldl (· + ·) 0

/-- A bound on the nesting of calls that follow a type and a value of some size. Each call goes
down in the type, to the next item or field, or to a part of the value. -/
def coercionBound (s : Schema) (type : Ty) (size : Nat) : Nat :=
  type.depth + (size + 1) * (s.inputCount + 4)

/-- A data value in the form of a type. -/
def ofValue? (s : Schema) (type : Ty) (v : Json) : Option Json :=
  coerceValue s (s.coercionBound type (valueSize v)) type v

/-- A written value in the form of a type. -/
def ofLiteral? (s : Schema) (vars : Variables) (type : Ty) (l : Literal) : Option Json :=
  coerceLiteral s vars (s.coercionBound type (literalSize l)) type l

/-- What is wrong with a data value, or with the lack of one. -/
def faultsOfValue (s : Schema) (type : Ty) (v : Option Json) : List ValueFault :=
  valueFaults s (s.coercionBound type (v.elim 0 valueSize)) [] type v

/-- What is wrong with a written value. -/
def faultsOfLiteral (s : Schema) (vars : Option Variables) (type : Ty) (l : Literal) :
    List LiteralFault :=
  literalFaults s vars (s.coercionBound type (literalSize l)) [] type l

end Schema
end BlogGraph.GraphQL
