import RealmModels.GraphQL.Document
import RealmModels.GraphQL.Lexer

namespace RealmModels.GraphQL

abbrev Parser := StateT (List Token) Option

namespace Parser

def peek? : Parser (Option Token) := do return (← get).head?

def next : Parser Token := do
  match ← get with
  | [] => failure
  | t :: ts =>
    set ts
    return t

def take? (t : Token) : Parser Bool := do
  match ← get with
  | [] => return false
  | u :: ts =>
    if t = u then
      set ts
      return true
    else return false

def expect (t : Token) : Parser Unit := do
  if ← take? t then return () else failure

def mark (c : Char) : Parser Unit := expect (.punctuator c)

def mark? (c : Char) : Parser Bool := take? (.punctuator c)

def word (s : String) : Parser Unit := expect (.name s)

def word? (s : String) : Parser Bool := take? (.name s)

def name : Parser String := do
  match ← next with
  | .name s => return s
  | _ => failure

def bounded {α : Type} (p : Nat → Parser α) : Parser α := do p ((← get).length + 1)

def untilMark {α : Type} (closing : Char) (item : Parser α) : Nat → Parser (List α)
  | 0 => failure
  | fuel + 1 => do
    let a ← item
    if ← mark? closing then return [a]
    return a :: (← untilMark closing item fuel)

def anyUntilMark {α : Type} (closing : Char) (item : Parser α) : Parser (List α) := do
  if ← mark? closing then return [] else bounded (untilMark closing item)

def enclosed {α : Type} (opening closing : Char) (item : Parser α) : Parser (List α) := do
  if ← mark? opening then bounded (untilMark closing item) else return []

def separatedFrom {α : Type} (separator : Char) (item : Parser α) : Nat → Parser (List α)
  | 0 => failure
  | fuel + 1 => do
    let a ← item
    if ← mark? separator then return a :: (← separatedFrom separator item fuel) else return [a]

def separated {α : Type} (separator : Char) (item : Parser α) : Parser (List α) := do
  let _ ← mark? separator
  bounded (separatedFrom separator item)

def nameValue (value : Parser Value) : Parser (String × Value) := do
  let key ← name
  mark ':'
  return (key, ← value)

def maxLayers : Nat := 200

def valueWithin (isConst : Bool) (layers : Nat) : Parser Value := do
  match ← next, layers with
  | .punctuator '[', inner + 1 => return .list (← anyUntilMark ']' (valueWithin isConst inner))
  | .punctuator '\x7b', inner + 1 =>
    return .object (← anyUntilMark '\x7d' (nameValue (valueWithin isConst inner)))
  | .punctuator '$', _ => if isConst then failure else return .variable (← name)
  | .int text, _ => return .int text
  | .float text, _ => return .float text
  | .string s, _ => return .string s
  | .name "true", _ => return .boolean true
  | .name "false", _ => return .boolean false
  | .name "null", _ => return .null
  | .name s, _ => return .enum s
  | _, _ => failure

def constant : Parser Value := valueWithin true maxLayers

def argumentsWithin (isConst : Bool) (layers : Nat) : Parser (List (String × Value)) :=
  enclosed '(' ')' (nameValue (valueWithin isConst layers))

def directivesFrom (isConst : Bool) (layers : Nat) : Nat → Parser (List Applied)
  | 0 => return []
  | fuel + 1 => do
    if ← mark? '@' then
      let applied : Applied := { name := ← name, arguments := ← argumentsWithin isConst layers }
      return applied :: (← directivesFrom isConst layers fuel)
    else return []

def directivesWithin (isConst : Bool) (layers : Nat) : Parser (List Applied) :=
  bounded (directivesFrom isConst layers)

def directives : Parser (List Applied) := directivesWithin true maxLayers

def typeWithin (layers : Nat) : Parser TypeExpr := do
  let inner ←
    if ← mark? '[' then
      match layers with
      | 0 => failure
      | fewer + 1 => do
        let item ← typeWithin fewer
        mark ']'
        pure (TypeExpr.list item)
    else pure (TypeExpr.named (← name))
  if ← mark? '!' then return .nonNull inner else return inner

def type : Parser TypeExpr := typeWithin maxLayers

def description : Parser (Option String) := do
  match ← peek? with
  | some (.string s) =>
    let _ ← next
    return some s
  | _ => return none

def default? : Parser (Option Value) := do
  if ← mark? '=' then return some (← constant) else return none

def inputDecl : Parser InputDecl := do
  let d ← description
  let n ← name
  mark ':'
  return { description := d, name := n, type := ← type, default? := ← default?,
           directives := ← directives }

def fieldDecl : Parser FieldDecl := do
  let d ← description
  let n ← name
  let args ← enclosed '(' ')' inputDecl
  mark ':'
  return { description := d, name := n, arguments := args, type := ← type,
           directives := ← directives }

def enumValueDecl : Parser EnumValueDecl := do
  let _ ← description
  let n ← name
  if ["true", "false", "null"].contains n then failure
  return { name := n, directives := ← directives }

def interfaces : Parser (List String) := do
  if ← word? "implements" then separated '&' name else return []

def unionMembers : Parser (List String) := do
  if ← mark? '=' then separated '|' name else return []

def operationKind? : String → Option OperationKind
  | "query" => some .query
  | "mutation" => some .mutation
  | "subscription" => some .subscription
  | _ => none

def operationType : Parser (OperationKind × String) := do
  let some kind := operationKind? (← name) | failure
  mark ':'
  return (kind, ← name)

def location? : String → Option Location
  | "QUERY" => some .query
  | "MUTATION" => some .mutation
  | "SUBSCRIPTION" => some .subscription
  | "FIELD" => some .field
  | "FRAGMENT_DEFINITION" => some .fragmentDefinition
  | "FRAGMENT_SPREAD" => some .fragmentSpread
  | "INLINE_FRAGMENT" => some .inlineFragment
  | "VARIABLE_DEFINITION" => some .variableDefinition
  | "FRAGMENT_VARIABLE_DEFINITION" => some .fragmentVariableDefinition
  | "SCHEMA" => some .schema
  | "SCALAR" => some .scalar
  | "OBJECT" => some .object
  | "FIELD_DEFINITION" => some .fieldDefinition
  | "ARGUMENT_DEFINITION" => some .argumentDefinition
  | "INTERFACE" => some .interface
  | "UNION" => some .union
  | "ENUM" => some .enum
  | "ENUM_VALUE" => some .enumValue
  | "INPUT_OBJECT" => some .inputObject
  | "INPUT_FIELD_DEFINITION" => some .inputFieldDefinition
  | "DIRECTIVE_DEFINITION" => some .directiveDefinition
  | _ => none

def location : Parser Location := do
  let some l := location? (← name) | failure
  return l

def directiveDecl : Parser DirectiveDecl := do
  mark '@'
  let n ← name
  let args ← enclosed '(' ')' inputDecl
  let ds ← directives
  let repeatable ← word? "repeatable"
  word "on"
  return { name := n, arguments := args, directives := ds, repeatable := repeatable,
           locations := ← separated '|' location }

def enumBody : Parser TypeBody := do
  return .enum (← enclosed '\x7b' '\x7d' enumValueDecl)

def typeDecl (keyword : String) : Parser TypeDecl := do
  let n ← name
  match keyword with
  | "scalar" => return { name := n, directives := ← directives, body := .scalar }
  | "type" =>
    let is ← interfaces
    let ds ← directives
    return { name := n, directives := ds, body := .object is (← enclosed '\x7b' '\x7d' fieldDecl) }
  | "interface" =>
    let is ← interfaces
    let ds ← directives
    return { name := n, directives := ds,
             body := .interface is (← enclosed '\x7b' '\x7d' fieldDecl) }
  | "union" =>
    let ds ← directives
    return { name := n, directives := ds, body := .union (← unionMembers) }
  | "enum" =>
    let ds ← directives
    return { name := n, directives := ds, body := ← enumBody }
  | "input" =>
    let ds ← directives
    return { name := n, directives := ds,
             body := .inputObject (← enclosed '\x7b' '\x7d' inputDecl) }
  | _ => failure

def extension : Parser Definition := do
  match ← name with
  | "schema" =>
    let ds ← directives
    let ops ← enclosed '\x7b' '\x7d' operationType
    if ds.isEmpty && ops.isEmpty then failure
    return .extendSchema { directives := ds, operations := ops }
  | "directive" =>
    mark '@'
    let n ← name
    let ds ← directives
    if ds.isEmpty then failure
    return .extendDirective { name := n, directives := ds }
  | keyword =>
    let decl ← typeDecl keyword
    if decl.isEmpty then failure
    return .extendType decl

def variableDecl : Parser VariableDecl := do
  let _ ← description
  mark '$'
  let _ ← name
  mark ':'
  return { type := ← type, default? := ← default?, directives := ← directives }

def selectionsWithin (layers : Nat) : Parser (List Selection) := do
  match layers with
  | 0 => failure
  | fewer + 1 =>
    mark '\x7b'
    let selection : Parser Selection := do
      if ← take? .spread then
        match ← peek? with
        | some (.name s) =>
          let _ ← next
          if s = "on" then
            let t ← name
            let ds ← directivesWithin false fewer
            return .inline (some t) ds (← selectionsWithin fewer)
          else return .spread (← directivesWithin false fewer)
        | _ =>
          let ds ← directivesWithin false fewer
          return .inline none ds (← selectionsWithin fewer)
      else
        let _ ← name
        if ← mark? ':' then
          let _ ← name
        let args ← argumentsWithin false fewer
        let ds ← directivesWithin false fewer
        match ← peek? with
        | some (.punctuator '\x7b') => return .field args ds (← selectionsWithin fewer)
        | _ => return .field args ds []
    anyUntilMark '\x7d' selection

def selections : Parser (List Selection) := selectionsWithin maxLayers

def operation (kind : OperationKind) : Parser Executable := do
  match ← peek? with
  | some (.name _) =>
    let _ ← next
  | _ => pure ()
  let vars ← enclosed '(' ')' variableDecl
  let ds ← directivesWithin false maxLayers
  return .operation kind vars ds (← selections)

def fragment : Parser Executable := do
  if (← name) = "on" then failure
  word "on"
  let t ← name
  let ds ← directivesWithin false maxLayers
  return .fragment t ds (← selections)

def definition : Parser Definition := do
  let d ← description
  match ← peek? with
  | some (.punctuator '\x7b') =>
    if d.isSome then failure
    return .executable (.operation .query [] [] (← selections))
  | some (.name keyword) =>
    let _ ← next
    match keyword with
    | "schema" =>
      let ds ← directives
      mark '\x7b'
      let ops ← bounded (untilMark '\x7d' operationType)
      return .schema { directives := ds, operations := ops }
    | "directive" => return .directive (← directiveDecl)
    | "extend" => if d.isSome then failure else extension
    | "fragment" => return .executable (← fragment)
    | _ =>
      match operationKind? keyword with
      | some kind => return .executable (← operation kind)
      | none => return .type (← typeDecl keyword)
  | _ => failure

def definitions : Nat → Parser Document
  | 0 => failure
  | fuel + 1 => do
    let d ← definition
    if (← get).isEmpty then return [d]
    return d :: (← definitions fuel)

end Parser

def Document.parse? (text : String) : Option Document := do
  let ts ← tokens? text
  (Parser.bounded Parser.definitions).run' ts

def Parser.whole? {α : Type} (p : Parser α) (text : String) : Option α := do
  let ts ← tokens? text
  let (a, rest) ← p.run ts
  if rest.isEmpty then some a else none

def TypeExpr.parse? : String → Option TypeExpr := Parser.type.whole?

def Value.constant? : String → Option Value := Parser.constant.whole?

end RealmModels.GraphQL
