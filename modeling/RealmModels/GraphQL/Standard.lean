import RealmModels.GraphQL.Document
import RealmModels.GraphQL.Schema

namespace RealmModels.GraphQL

def builtinScalars : List String := ["String", "Int", "Float", "Boolean", "ID"]

namespace Introspection

def string : TypeRef := .named ⟨"String", .scalar⟩

def boolean : TypeRef := .named ⟨"Boolean", .scalar⟩

def object (name : String) : TypeRef := .named ⟨name, .object⟩

def enum (name : String) : TypeRef := .named ⟨name, .enum⟩

def listOf (item : TypeRef) : TypeRef := .list (.nonNull item)

def field (name : String) (type : TypeRef) : Field := ⟨name, type, [], .absent, .absent⟩

def described (name : String) (type : TypeRef) (description : String) : Field :=
  ⟨name, type, [], .text description, .absent⟩

def filtered (name : String) (type : TypeRef) : Field :=
  ⟨name, type, [⟨"includeDeprecated", boolean⟩], .absent, .absent⟩

def deprecation : List Field :=
  [field "isDeprecated" (.nonNull boolean), field "deprecationReason" string]

def types : List TypeDef :=
  [⟨"__Schema", .object []
      [field "description" string,
       described "types" (.nonNull (listOf (object "__Type")))
         "A list of all types supported by this server.",
       described "queryType" (.nonNull (object "__Type"))
         "The type that query operations will be rooted at.",
       described "mutationType" (object "__Type")
         "If this server supports mutation, the type that mutation operations will be rooted at.",
       described "subscriptionType" (object "__Type")
         ("If this server supports subscription, " ++
           "the type that subscription operations will be rooted at."),
       described "directives" (.nonNull (listOf (object "__Directive")))
         "A list of all directives supported by this server."]⟩,
   ⟨"__Directive", .object []
      ([field "name" (.nonNull string), field "description" string,
        field "isRepeatable" (.nonNull boolean),
        field "locations" (.nonNull (listOf (enum "__DirectiveLocation"))),
        filtered "args" (.nonNull (listOf (object "__InputValue")))] ++ deprecation)⟩,
   ⟨"__DirectiveLocation", .enum⟩,
   ⟨"__Type", .object []
      [field "kind" (.nonNull (enum "__TypeKind")), field "name" string,
       field "description" string, field "specifiedByURL" string,
       filtered "fields" (listOf (object "__Field")),
       field "interfaces" (listOf (object "__Type")),
       field "possibleTypes" (listOf (object "__Type")),
       filtered "enumValues" (listOf (object "__EnumValue")),
       filtered "inputFields" (listOf (object "__InputValue")),
       field "ofType" (object "__Type"), field "isOneOf" boolean]⟩,
   ⟨"__Field", .object []
      ([field "name" (.nonNull string), field "description" string,
        filtered "args" (.nonNull (listOf (object "__InputValue"))),
        field "type" (.nonNull (object "__Type"))] ++ deprecation)⟩,
   ⟨"__InputValue", .object []
      ([field "name" (.nonNull string), field "description" string,
        field "type" (.nonNull (object "__Type")),
        described "defaultValue" string
          "A GraphQL-formatted string representing the default value for this input value."] ++
        deprecation)⟩,
   ⟨"__EnumValue", .object []
      ([field "name" (.nonNull string), field "description" string] ++ deprecation)⟩,
   ⟨"__TypeKind", .enum⟩]

end Introspection

def scalarDef (name : String) : TypeDef := ⟨name, .scalar⟩

def standardTypes : List TypeDef := builtinScalars.map scalarDef ++ Introspection.types

def standardType? (name : String) : Option TypeDef := standardTypes.find? (·.name == name)

namespace Standard

def argument (name : String) (type : TypeExpr) (default? : Option Value) : InputDecl :=
  ⟨none, name, type, default?, []⟩

def required (typeName : String) : TypeExpr := .nonNull (.named typeName)

def deprecationReason : String := "No longer supported"

def directives : List DirectiveDecl :=
  [⟨"include", [argument "if" (required "Boolean") none], [], false,
     [.field, .fragmentSpread, .inlineFragment]⟩,
   ⟨"skip", [argument "if" (required "Boolean") none], [], false,
     [.field, .fragmentSpread, .inlineFragment]⟩,
   ⟨"deprecated", [argument "reason" (required "String") (some (.string deprecationReason))], [],
     false, [.fieldDefinition, .argumentDefinition, .inputFieldDefinition, .enumValue,
       .directiveDefinition]⟩,
   ⟨"specifiedBy", [argument "url" (required "String") none], [], false, [.scalar]⟩,
   ⟨"oneOf", [], [], false, [.inputObject]⟩]

end Standard

end RealmModels.GraphQL
