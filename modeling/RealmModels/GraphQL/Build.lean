import RealmModels.GraphQL.Arrangement
import RealmModels.GraphQL.Parser
import RealmModels.GraphQL.Rules

namespace RealmModels.GraphQL

inductive BuildError where
  | malformed
  | breaks (rules : List Rule)
  | badArgument (directive argument : String)
  deriving DecidableEq, Repr

namespace Document

def kindOf (doc : Document) (name : String) : Kind :=
  match standardType? name with
  | some t => t.kind
  | none => ((doc.typeDecls.find? (·.name == name)).map (·.body.kind)).getD .undefined

def named (doc : Document) (name : String) : Named := ⟨name, doc.kindOf name⟩

def resolve (doc : Document) : TypeExpr → TypeRef
  | .named name => .named (doc.named name)
  | .list item => .list (doc.resolve item)
  | .nonNull inner => .nonNull (doc.resolve inner)

end Document

def textArgument (a : Applied) (argument : String) (default? : Option String) :
    Except BuildError String :=
  match (a.arguments.find? (·.1 == argument)).map Prod.snd, default? with
  | some (.string s), _ => .ok s
  | none, some s => .ok s
  | _, _ => .error (.badArgument a.name argument)

def applied? (name : String) (ds : List Applied) : Option Applied := ds.find? (·.name == name)

def deprecationReason (ds : List Applied) : Except BuildError (Option String) :=
  match applied? "deprecated" ds with
  | none => .ok none
  | some a => do return some (← textArgument a "reason" (some Standard.deprecationReason))

def checkScalar (ds : List Applied) : Except BuildError Unit :=
  match applied? "specifiedBy" ds with
  | none => .ok ()
  | some a => do let _ ← textArgument a "url" none

namespace Document

def buildArgument (doc : Document) (d : InputDecl) : Except BuildError Argument := do
  let _ ← deprecationReason d.directives
  return ⟨d.name, doc.resolve d.type⟩

def buildField (doc : Document) (d : FieldDecl) : Except BuildError Field := do
  let arguments ← d.arguments.mapM doc.buildArgument
  return ⟨d.name, doc.resolve d.type, arguments, .ofText? d.description,
    .ofText? (← deprecationReason d.directives)⟩

def buildInputField (doc : Document) (d : InputDecl) : Except BuildError Field := do
  return ⟨d.name, doc.resolve d.type, [], .ofText? d.description,
    .ofText? (← deprecationReason d.directives)⟩

def buildBody (doc : Document) (kind : Kind) (parts : List TypeDecl) : Except BuildError Body := do
  let bodies := parts.map (·.body)
  let interfaces := bodies.flatMap fun
    | .object names _ | .interface names _ => names.map doc.named
    | _ => []
  match kind with
  | .scalar =>
    parts.forM fun d => checkScalar d.directives
    return .scalar
  | .object => return .object interfaces (← (bodies.flatMap TypeBody.fields).mapM doc.buildField)
  | .interface =>
    return .interface interfaces (← (bodies.flatMap TypeBody.fields).mapM doc.buildField)
  | .union =>
    return .union (bodies.flatMap fun
      | .union names => names.map doc.named
      | _ => [])
  | .enum => return .enum
  | .inputObject =>
    return .inputObject (← (bodies.flatMap TypeBody.inputFields).mapM doc.buildInputField)
  | .undefined => return .scalar

def buildType (doc : Document) (d : TypeDecl) : Except BuildError TypeDef :=
  match standardType? d.name with
  | some t => .ok t
  | none => do return ⟨d.name, ← doc.buildBody d.body.kind (doc.parts d.name)⟩

def schemaDirectives (doc : Document) : List DirectiveDecl :=
  doc.directiveDecls ++
    Standard.directives.filter fun s => !doc.directiveDecls.any (·.name == s.name)

def build (doc : Document) : Except BuildError Schema := do
  let types ← doc.typeDecls.mapM doc.buildType
  doc.directiveDecls.forM fun d => do
    let _ ← d.arguments.mapM doc.buildArgument
    let added := (doc.directiveExtensions.filter (·.name == d.name)).flatMap (·.directives)
    let _ ← deprecationReason (d.directives ++ added)
  return Schema.arrange types (argumentTypeNames doc.schemaDirectives)

end Document

def Schema.ofText (text : String) : Except BuildError Schema :=
  match Document.parse? text with
  | none => .error .malformed
  | some doc =>
    match doc.broken with
    | [] => doc.build
    | rules => .error (.breaks rules)

def Schema.resolve? (s : Schema) : TypeExpr → Option TypeRef
  | .named name => (s.find? name).map fun t => .named t.named
  | .list item => (s.resolve? item).map .list
  | .nonNull inner => (s.resolve? inner).map .nonNull

def Schema.typeRef? (s : Schema) (text : String) : Option TypeRef :=
  (TypeExpr.parse? text).map fun t => (s.resolve? t).getD .unresolved

end RealmModels.GraphQL
