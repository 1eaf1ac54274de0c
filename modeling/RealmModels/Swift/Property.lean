import RealmModels.Swift.Declaration
import RealmModels.Swift.TypeName

namespace RealmModels.Swift

open GraphQL Writing

structure Property where
  name : String
  typeName : Option String := none
  type : TypeRef
  description : Note := .absent
  deriving DecidableEq, Repr

def boxed (name type : String) : String := "let " ++ name ++ " = RealmOptional<" ++ type ++ ">()"

def optionalText (name : String) : String := "dynamic var " ++ name ++ ": String? = nil"

def scalarLine (kind : ScalarKind) (isOptional : Bool) (name scalar : String) : String :=
  match kind, isOptional with
  | .boolean, true => boxed name "Bool"
  | .boolean, false => "dynamic var " ++ name ++ " = false"
  | .int, true => boxed name "Int"
  | .int, false => "dynamic var " ++ name ++ " = 0"
  | .float, true => boxed name "Float"
  | .float, false => "dynamic var " ++ name ++ ": Float = 0.0"
  | .string, true | .id, true => optionalText name
  | .string, false | .id, false => "dynamic var " ++ name ++ " = \"\""
  | .custom, _ => "UNCAUGHT SCALAR " ++ scalar

def propertyLine? (c : Classified) (name type : String) : Option String :=
  if c.isList then some ("let " ++ name ++ " = List<" ++ type ++ ">()")
  else
    match c.shape with
    | .object => some ("dynamic var " ++ name ++ ": " ++ type ++ "?")
    | .enum => some (optionalText name)
    | .scalar kind => some (scalarLine kind c.isOptional name c.typeName)
    | .abstract => none

def isPrimaryKey (c : Classified) : Bool := !c.isList && c.shape == .scalar .id

def withoutBackticks (name : String) : String :=
  String.ofList (Text.stripEnds (· == '`') name.toList)

def primaryKey (name : Option String) : Writing Unit := do
  line "override public static func primaryKey() -> String?"
  Block.braces.around do
    match name with
    | some n => line ("return \"" ++ withoutBackticks n ++ "\"")
    | none => throw .noWords

def TypeNaming.orRoot (n : TypeNaming) (c : Classified) (typeName : Option String) :
    Writing String :=
  match typeName with
  | none | some "" => MonadExcept.ofExcept (n.root c)
  | some name => pure name

def printProperty (n : TypeNaming) (c : Classified) (name : String) (typeName : Option String) :
    Writing Unit := do
  let type ← n.orRoot c typeName
  match propertyLine? c name type with
  | none => pure ()
  | some declared =>
    line declared
    if isPrimaryKey c then primaryKey (some name)

def declareProperty (n : TypeNaming) (p : Property) : Writing Unit := do
  comment p.description
  printProperty n (← classified p.type) p.name p.typeName

def requireProperty (p : Property) : Writing Unit :=
  line ("var " ++ p.name ++ ": " ++ p.typeName.getD "None" ++ " \x7b get \x7d")

end RealmModels.Swift
