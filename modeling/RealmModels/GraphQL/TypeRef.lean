namespace RealmModels.GraphQL

inductive Kind where
  | scalar
  | object
  | interface
  | union
  | enum
  | inputObject
  | undefined
  deriving DecidableEq, Repr

def Kind.isOutput : Kind → Bool
  | .inputObject | .undefined => false
  | _ => true

def Kind.isInput : Kind → Bool
  | .scalar | .enum | .inputObject => true
  | _ => false

structure Named where
  name : String
  kind : Kind
  deriving DecidableEq, Repr

inductive TypeRef where
  | named (type : Named)
  | list (item : TypeRef)
  | nonNull (inner : TypeRef)
  deriving DecidableEq, Repr

namespace TypeRef

def leaf : TypeRef → Named
  | named t => t
  | list item => item.leaf
  | nonNull inner => inner.leaf

def isNonNull : TypeRef → Bool
  | nonNull _ => true
  | _ => false

def unresolved : TypeRef := named ⟨"", .undefined⟩

end TypeRef

end RealmModels.GraphQL
