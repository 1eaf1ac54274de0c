import RealmModels.GraphQL.Document
import RealmModels.GraphQL.TypeRef

namespace RealmModels.GraphQL

def TypeBody.kind : TypeBody → Kind
  | scalar => .scalar
  | object _ _ => .object
  | interface _ _ => .interface
  | union _ => .union
  | enum _ => .enum
  | inputObject _ => .inputObject

def TypeBody.fields : TypeBody → List FieldDecl
  | object _ fields | interface _ fields => fields
  | _ => []

def TypeBody.inputFields : TypeBody → List InputDecl
  | inputObject fields => fields
  | _ => []

def TypeBody.enumValues : TypeBody → List EnumValueDecl
  | enum values => values
  | _ => []

def TypeBody.location : TypeBody → Location
  | scalar => .scalar
  | object _ _ => .object
  | interface _ _ => .interface
  | union _ => .union
  | enum _ => .enum
  | inputObject _ => .inputObject

def OperationKind.location : OperationKind → Location
  | .query => .query
  | .mutation => .mutation
  | .subscription => .subscription

inductive Owner where
  | schema
  | type (name : String)
  | directive (name : String)
  deriving DecidableEq

structure Site where
  location : Location
  applied : List Applied
  owner : Option Owner

def inputSites (location : Location) (decls : List InputDecl) : List Site :=
  decls.map fun d => ⟨location, d.directives, none⟩

def TypeDecl.sites (decl : TypeDecl) : List Site :=
  ⟨decl.body.location, decl.directives, some (.type decl.name)⟩ ::
    (decl.body.fields.flatMap fun f =>
      ⟨.fieldDefinition, f.directives, none⟩ :: inputSites .argumentDefinition f.arguments) ++
    decl.body.enumValues.map (fun v => ⟨.enumValue, v.directives, none⟩) ++
    inputSites .inputFieldDefinition decl.body.inputFields

mutual

def Selection.sites : Selection → List Site
  | .field _ ds inner => ⟨.field, ds, none⟩ :: selectionSites inner
  | .inline _ ds inner => ⟨.inlineFragment, ds, none⟩ :: selectionSites inner
  | .spread ds => [⟨.fragmentSpread, ds, none⟩]

def selectionSites : List Selection → List Site
  | [] => []
  | s :: rest => s.sites ++ selectionSites rest

end

def Executable.sites : Executable → List Site
  | .operation kind vars ds selections =>
    ⟨kind.location, ds, none⟩ :: vars.map (fun v => ⟨.variableDefinition, v.directives, none⟩) ++
      selectionSites selections
  | .fragment _ ds selections => ⟨.fragmentDefinition, ds, none⟩ :: selectionSites selections

def Definition.sites : Definition → List Site
  | .schema d | .extendSchema d => [⟨.schema, d.directives, some .schema⟩]
  | .type d | .extendType d => d.sites
  | .directive d =>
    ⟨.directiveDefinition, d.directives, some (.directive d.name)⟩ ::
      inputSites .argumentDefinition d.arguments
  | .extendDirective e => [⟨.directiveDefinition, e.directives, some (.directive e.name)⟩]
  | .executable e => e.sites

def Document.sites (doc : Document) : List Site := doc.flatMap Definition.sites

def TypeDecl.typeNames (decl : TypeDecl) : List String :=
  (match decl.body with
    | .object names _ | .interface names _ | .union names => names
    | _ => []) ++
    (decl.body.fields.flatMap fun f => f.type.leaf :: f.arguments.map (·.type.leaf)) ++
    decl.body.inputFields.map (·.type.leaf)

mutual

def Selection.typeNames : Selection → List String
  | .field _ _ inner => selectionTypeNames inner
  | .inline onType _ inner => onType.toList ++ selectionTypeNames inner
  | .spread _ => []

def selectionTypeNames : List Selection → List String
  | [] => []
  | s :: rest => s.typeNames ++ selectionTypeNames rest

end

def Executable.typeNames : Executable → List String
  | .operation _ vars _ selections => vars.map (·.type.leaf) ++ selectionTypeNames selections
  | .fragment onType _ selections => onType :: selectionTypeNames selections

def Definition.typeNames : Definition → List String
  | .schema d | .extendSchema d => d.operations.map Prod.snd
  | .type d | .extendType d => d.typeNames
  | .directive d => d.arguments.map (·.type.leaf)
  | .extendDirective _ => []
  | .executable e => e.typeNames

def Definition.isExecutable : Definition → Bool
  | .executable _ => true
  | _ => false

mutual

def Selection.fieldArguments : Selection → List (List (String × Value))
  | .field args _ inner => args :: selectionArguments inner
  | .inline _ _ inner => selectionArguments inner
  | .spread _ => []

def selectionArguments : List Selection → List (List (String × Value))
  | [] => []
  | s :: rest => s.fieldArguments ++ selectionArguments rest

end

def Executable.fieldArguments : Executable → List (List (String × Value))
  | .operation _ _ _ selections | .fragment _ _ selections => selectionArguments selections

def Document.argumentLists (doc : Document) : List (List (String × Value)) :=
  (doc.sites.flatMap fun s => s.applied.map (·.arguments)) ++
    doc.flatMap fun
      | .executable e => e.fieldArguments
      | _ => []

def Definition.defaults : Definition → List Value
  | .type d | .extendType d =>
    (d.body.fields.flatMap fun f => f.arguments.filterMap (·.default?)) ++
      d.body.inputFields.filterMap (·.default?)
  | .directive d => d.arguments.filterMap (·.default?)
  | .executable (.operation _ vars _ _) => vars.filterMap (·.default?)
  | _ => []

def Document.values (doc : Document) : List Value :=
  doc.flatMap Definition.defaults ++ doc.argumentLists.flatMap (·.map Prod.snd)

end RealmModels.GraphQL
