namespace RealmModels.GraphQL

inductive Value where
  | variable (name : String)
  | int (text : String)
  | float (text : String)
  | string (s : String)
  | boolean (b : Bool)
  | null
  | enum (name : String)
  | list (items : List Value)
  | object (members : List (String × Value))

inductive TypeExpr where
  | named (name : String)
  | list (item : TypeExpr)
  | nonNull (inner : TypeExpr)

def TypeExpr.leaf : TypeExpr → String
  | named name => name
  | list item => item.leaf
  | nonNull inner => inner.leaf

structure Applied where
  name : String
  arguments : List (String × Value)

structure InputDecl where
  description : Option String
  name : String
  type : TypeExpr
  default? : Option Value
  directives : List Applied

structure FieldDecl where
  description : Option String
  name : String
  arguments : List InputDecl
  type : TypeExpr
  directives : List Applied

structure EnumValueDecl where
  name : String
  directives : List Applied

inductive TypeBody where
  | scalar
  | object (interfaces : List String) (fields : List FieldDecl)
  | interface (interfaces : List String) (fields : List FieldDecl)
  | union (members : List String)
  | enum (values : List EnumValueDecl)
  | inputObject (fields : List InputDecl)

structure TypeDecl where
  name : String
  directives : List Applied
  body : TypeBody

def TypeDecl.isEmpty (decl : TypeDecl) : Bool :=
  decl.directives.isEmpty &&
    match decl.body with
    | .scalar => true
    | .object is fields => is.isEmpty && fields.isEmpty
    | .interface is fields => is.isEmpty && fields.isEmpty
    | .union members => members.isEmpty
    | .enum values => values.isEmpty
    | .inputObject fields => fields.isEmpty

inductive OperationKind where
  | query
  | mutation
  | subscription
  deriving DecidableEq, Repr

inductive Location where
  | query
  | mutation
  | subscription
  | field
  | fragmentDefinition
  | fragmentSpread
  | inlineFragment
  | variableDefinition
  | fragmentVariableDefinition
  | schema
  | scalar
  | object
  | fieldDefinition
  | argumentDefinition
  | interface
  | union
  | enum
  | enumValue
  | inputObject
  | inputFieldDefinition
  | directiveDefinition
  deriving DecidableEq, Repr

structure DirectiveDecl where
  name : String
  arguments : List InputDecl
  directives : List Applied
  repeatable : Bool
  locations : List Location

structure DirectiveExtension where
  name : String
  directives : List Applied

structure SchemaDecl where
  directives : List Applied
  operations : List (OperationKind × String)

structure VariableDecl where
  type : TypeExpr
  default? : Option Value
  directives : List Applied

inductive Selection where
  | field (arguments : List (String × Value)) (directives : List Applied) (inner : List Selection)
  | inline (onType : Option String) (directives : List Applied) (inner : List Selection)
  | spread (directives : List Applied)

inductive Executable where
  | operation (kind : OperationKind) (declared : List VariableDecl) (directives : List Applied)
      (selections : List Selection)
  | fragment (onType : String) (directives : List Applied) (selections : List Selection)

inductive Definition where
  | schema (decl : SchemaDecl)
  | type (decl : TypeDecl)
  | directive (decl : DirectiveDecl)
  | extendSchema (decl : SchemaDecl)
  | extendType (decl : TypeDecl)
  | extendDirective (ext : DirectiveExtension)
  | executable (e : Executable)

abbrev Document := List Definition

end RealmModels.GraphQL
