import RealmModels.GraphQL.Sites
import RealmModels.GraphQL.Standard

/-!
The rules that a document has to keep before a schema is built from it.
-/

namespace RealmModels.GraphQL

inductive Rule where
  | oneSchemaDefinition
  | uniqueOperationTypes
  | uniqueTypeNames
  | uniqueEnumValues
  | uniqueFields
  | uniqueArgumentDefinitions
  | uniqueDirectiveNames
  | knownTypeNames
  | knownDirectives
  | uniqueDirectivesPerSite
  | possibleExtensions
  | knownDirectiveArguments
  | requiredDirectiveArguments
  | uniqueArguments
  | uniqueObjectKeys
  deriving DecidableEq, Repr

def Rule.all : List Rule :=
  [oneSchemaDefinition, uniqueOperationTypes, uniqueTypeNames, uniqueEnumValues, uniqueFields,
   uniqueArgumentDefinitions, uniqueDirectiveNames, knownTypeNames, knownDirectives,
   uniqueDirectivesPerSite, possibleExtensions, knownDirectiveArguments,
   requiredDirectiveArguments, uniqueArguments, uniqueObjectKeys]

def unique {α : Type} [DecidableEq α] (as : List α) : Bool := decide as.Nodup

mutual

def Value.uniqueKeys : Value → Bool
  | .list items => uniqueKeysItems items
  | .object members => unique (members.map Prod.fst) && uniqueKeysMembers members
  | _ => true

def uniqueKeysItems : List Value → Bool
  | [] => true
  | v :: rest => v.uniqueKeys && uniqueKeysItems rest

def uniqueKeysMembers : List (String × Value) → Bool
  | [] => true
  | (_, v) :: rest => v.uniqueKeys && uniqueKeysMembers rest

end

namespace Document

def typeDecls (doc : Document) : List TypeDecl :=
  doc.filterMap fun
    | .type d => some d
    | _ => none

def extensions (doc : Document) : List TypeDecl :=
  doc.filterMap fun
    | .extendType d => some d
    | _ => none

def directiveDecls (doc : Document) : List DirectiveDecl :=
  doc.filterMap fun
    | .directive d => some d
    | _ => none

def directiveExtensions (doc : Document) : List DirectiveExtension :=
  doc.filterMap fun
    | .extendDirective e => some e
    | _ => none

def parts (doc : Document) (name : String) : List TypeDecl :=
  (doc.typeDecls ++ doc.extensions).filter (·.name == name)

def directive? (doc : Document) (name : String) : Option DirectiveDecl :=
  (doc.directiveDecls ++ Standard.directives).find? (·.name == name)

def definesType (doc : Document) (name : String) : Bool := doc.typeDecls.any (·.name == name)

def knowsTypesOf (doc : Document) (d : Definition) : Bool :=
  d.typeNames.all fun name =>
    doc.definesType name || (!d.isExecutable && (standardType? name).isSome)

def uniqueInTypes (doc : Document) (names : TypeDecl → List String) : Bool :=
  (doc.typeDecls ++ doc.extensions).all fun d => unique ((doc.parts d.name).flatMap names)

def unrepeatable (doc : Document) (applied : List Applied) : List String :=
  (applied.map (·.name)).filter fun n => (doc.directive? n).any (!·.repeatable)

def sharedApplied (doc : Document) (s : Site) : List Applied :=
  match s.owner with
  | none => s.applied
  | some owner => (doc.sites.filter (·.owner == some owner)).flatMap (·.applied)

def applications (doc : Document) : List Applied := doc.sites.flatMap (·.applied)

end Document

def InputDecl.isRequired (d : InputDecl) : Bool :=
  match d.type with
  | .nonNull _ => d.default?.isNone
  | _ => false

def TypeDecl.fieldNames (d : TypeDecl) : List String :=
  d.body.fields.map (·.name) ++ d.body.inputFields.map (·.name)

def Rule.holds : Rule → Document → Bool
  | oneSchemaDefinition, doc =>
    (doc.filter fun
      | .schema _ => true
      | _ => false).length ≤ 1
  | uniqueOperationTypes, doc =>
    unique (doc.flatMap fun
      | .schema d | .extendSchema d => d.operations.map Prod.fst
      | _ => [])
  | uniqueTypeNames, doc => unique (doc.typeDecls.map (·.name))
  | uniqueEnumValues, doc => doc.uniqueInTypes fun d => d.body.enumValues.map (·.name)
  | uniqueFields, doc => doc.uniqueInTypes TypeDecl.fieldNames
  | uniqueArgumentDefinitions, doc =>
    ((doc.typeDecls ++ doc.extensions).all fun d =>
      d.body.fields.all fun f => unique (f.arguments.map (·.name))) &&
    doc.directiveDecls.all fun d => unique (d.arguments.map (·.name))
  | uniqueDirectiveNames, doc => unique (doc.directiveDecls.map (·.name))
  | knownTypeNames, doc => doc.all doc.knowsTypesOf
  | knownDirectives, doc =>
    doc.sites.all fun s => s.applied.all fun a =>
      (doc.directive? a.name).any (·.locations.contains s.location)
  | uniqueDirectivesPerSite, doc =>
    doc.sites.all fun s => unique (doc.unrepeatable (doc.sharedApplied s))
  | possibleExtensions, doc =>
    (doc.extensions.all fun e =>
      (doc.typeDecls.find? (·.name == e.name)).any (·.body.kind == e.body.kind)) &&
    doc.directiveExtensions.all fun e => doc.directiveDecls.any (·.name == e.name)
  | knownDirectiveArguments, doc =>
    doc.applications.all fun a => (doc.directive? a.name).all fun d =>
      a.arguments.all fun (key, _) => d.arguments.any (·.name == key)
  | requiredDirectiveArguments, doc =>
    doc.applications.all fun a => (doc.directive? a.name).all fun d =>
      d.arguments.all fun i => !i.isRequired || a.arguments.any (·.1 == i.name)
  | uniqueArguments, doc => doc.argumentLists.all fun args => unique (args.map Prod.fst)
  | uniqueObjectKeys, doc => doc.values.all Value.uniqueKeys

def Document.broken (doc : Document) : List Rule := Rule.all.filter fun r => !r.holds doc

end RealmModels.GraphQL
