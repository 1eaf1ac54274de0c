import RealmModels.GraphQL.Classified
import RealmModels.Writing.Basic

namespace RealmModels.Swift

open GraphQL

structure TypeNaming where
  passthrough : Bool := false
  customPrefix : Option String := some ""
  deriving DecidableEq, Repr

def builtinName? : ScalarKind → Option String
  | .boolean => some "Bool"
  | .int => some "Int"
  | .float => some "Float"
  | .string | .id => some "String"
  | .custom => none

def TypeNaming.root (n : TypeNaming) (c : Classified) : Except Fault String :=
  match c.shape with
  | .object | .abstract => .ok c.typeName
  | .enum => .ok "String"
  | .scalar kind =>
    match builtinName? kind with
    | some name => .ok name
    | none =>
      if n.passthrough then
        match n.customPrefix with
        | some start => .ok (start ++ c.typeName)
        | none => .error (.setting .prefixNotText)
      else .ok "String"

def TypeNaming.rootOf (n : TypeNaming) (t : TypeRef) : Except Fault String :=
  match classify t with
  | .ok c => n.root c
  | .error u => .error (.unclassified u)

def optionalMark (isOptional : Bool) (name : String) : String :=
  if isOptional then name ++ "?" else name

/-- The full type. Items of a list are never optional. -/
def TypeNaming.full (n : TypeNaming) (isOptional : Bool) : TypeRef → Except Fault String
  | .nonNull inner => n.full false inner
  | .list item => do return optionalMark isOptional ("[" ++ (← n.full false item) ++ "]")
  | .named t => do return optionalMark isOptional (← n.rootOf (.named t))

end RealmModels.Swift
