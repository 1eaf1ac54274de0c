import RealmModels.GraphQL.Note
import RealmModels.GraphQL.TypeRef

namespace RealmModels.GraphQL

structure Argument where
  name : String
  type : TypeRef
  deriving DecidableEq, Repr

structure Field where
  name : String
  type : TypeRef
  arguments : List Argument
  description : Note
  deprecationReason : Note
  deriving DecidableEq, Repr

inductive Body where
  | scalar
  | object (interfaces : List Named) (fields : List Field)
  | interface (interfaces : List Named) (fields : List Field)
  | union (members : List Named)
  | enum
  | inputObject (fields : List Field)
  deriving DecidableEq, Repr

def Body.kind : Body → Kind
  | scalar => .scalar
  | object _ _ => .object
  | interface _ _ => .interface
  | union _ => .union
  | enum => .enum
  | inputObject _ => .inputObject

structure TypeDef where
  name : String
  body : Body
  deriving DecidableEq, Repr

namespace TypeDef

def kind (t : TypeDef) : Kind := t.body.kind

def named (t : TypeDef) : Named := ⟨t.name, t.kind⟩

def fields? (t : TypeDef) : Option (List Field) :=
  match t.body with
  | .object _ fields | .interface _ fields | .inputObject fields => some fields
  | _ => none

def references (t : TypeDef) : List Named :=
  let ofField := fun f : Field => f.type.leaf :: f.arguments.map (·.type.leaf)
  match t.body with
  | .object interfaces fields | .interface interfaces fields =>
    interfaces ++ fields.flatMap ofField
  | .union members => members
  | .inputObject fields => fields.map (·.type.leaf)
  | .scalar | .enum => []

end TypeDef

structure ObjectType where
  name : String
  fields : List Field
  deriving DecidableEq, Repr

structure Schema where
  types : List TypeDef
  deriving DecidableEq, Repr

def introspectionMark : String := "__"

def isIntrospectionName (name : String) : Bool :=
  introspectionMark.toList.isPrefixOf name.toList

def TypeDef.model? (t : TypeDef) : Option ObjectType :=
  match t.body with
  | .object _ fields => if isIntrospectionName t.name then none else some ⟨t.name, fields⟩
  | _ => none

namespace Schema

def find? (s : Schema) (name : String) : Option TypeDef := s.types.find? (·.name == name)

def models (s : Schema) : List ObjectType := s.types.filterMap TypeDef.model?

end Schema

end RealmModels.GraphQL
