import RealmModels.Model.Style

namespace RealmModels.Model

open GraphQL Swift Writing

def isStored (c : Classified) : Bool :=
  c.isList ||
    match c.shape with
    | .abstract => false
    | _ => !c.isUncaught

def isNullable (p : Property) : Bool := !p.type.isNonNull

def isBoxed (c : Classified) : Bool :=
  c.isOptional &&
    match c.shape with
    | .scalar .boolean | .scalar .int | .scalar .float => true
    | _ => false

def assignment (c : Classified) (p : Property) : String :=
  if c.isList then
    let source := if isNullable p then p.name ++ " ?? []" else p.name
    "self." ++ p.name ++ ".append(objectsIn: " ++ source ++ ")"
  else if isBoxed c then "self." ++ p.name ++ ".value = " ++ p.name
  else "self." ++ p.name ++ " = " ++ p.name

def parameter (n : TypeNaming) (p : Property) : Except Fault String := do
  let type ← n.full true p.type
  return p.name ++ ": " ++ type ++ (if isNullable p then " = nil" else "")

def parameters (n : TypeNaming) (ps : List Property) : Writing Unit := do
  print "("
  print (Text.joinWith ", " (← MonadExcept.ofExcept (ps.mapM (parameter n))))
  print ")"

def storedOf (ps : List Property) : Writing (List Property) :=
  ps.filterM fun p => do return isStored (← classified p.type)

def memberwise (n : TypeNaming) (ps : List Property) : Writing Unit := do
  let stored ← storedOf ps
  newline
  line "public init"
  parameters n stored
  Block.braces.around do
    stored.forM fun p => do line (assignment (← classified p.type) p)
    line "super.init()"

def requiredInitializers : List (String × String) :=
  [("init(value: Any, schema: RLMSchema)", "init(value:schema:)"),
   ("init()", "init()"),
   ("init(realm: RLMRealm, schema: RLMObjectSchema)", "init(realm:schema:)")]

def requiredInitializer (signature selector : String) : Writing Unit := do
  newline
  line ("required public " ++ signature)
  Block.braces.around (line ("fatalError(\"" ++ selector ++ " has not been implemented\")"))

def required : Writing Unit :=
  requiredInitializers.forM fun (signature, selector) => requiredInitializer signature selector

end RealmModels.Model
