import RealmModels.GraphQL.TypeRef

namespace RealmModels.GraphQL

inductive ScalarKind where
  | boolean
  | int
  | float
  | string
  | id
  | custom
  deriving DecidableEq, Repr

def ScalarKind.ofName : String → ScalarKind
  | "Boolean" => boolean
  | "Int" => int
  | "Float" => float
  | "String" => string
  | "ID" => id
  | _ => custom

inductive Shape where
  | object
  | scalar (kind : ScalarKind)
  | enum
  | abstract
  deriving DecidableEq, Repr

structure Classified where
  typeName : String
  shape : Shape
  isOptional : Bool
  isList : Bool
  deriving DecidableEq, Repr

structure Unclassified where
  type : Named
  deriving DecidableEq, Repr

def Named.shape? (t : Named) : Option Shape :=
  match t.kind with
  | .object => some .object
  | .scalar => some (.scalar (ScalarKind.ofName t.name))
  | .enum => some .enum
  | .interface | .union => some .abstract
  | .inputObject | .undefined => none

/-- Unwraps a type from the outside in, with the marks of the layers met so far. -/
def classifyFrom (isOptional isList : Bool) : TypeRef → Except Unclassified Classified
  | .nonNull inner => classifyFrom false isList inner
  | .list item => classifyFrom isOptional true item
  | .named t =>
    match t.shape? with
    | some shape => .ok ⟨t.name, shape, isOptional, isList⟩
    | none => .error ⟨t⟩

def classify (t : TypeRef) : Except Unclassified Classified := classifyFrom true false t

def Classified.isUncaught (c : Classified) : Bool := c.shape == .scalar .custom

def Unclassified.message (u : Unclassified) : String :=
  let shown :=
    match u.type.kind with
    | .undefined => "None"
    | _ => "<GraphQLInputObjectType '" ++ u.type.name ++ "'>"
  "Cannot classify " ++ shown ++ ": not a GraphQL output type"

end RealmModels.GraphQL
