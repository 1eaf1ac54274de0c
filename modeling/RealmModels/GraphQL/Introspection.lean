import RealmModels.GraphQL.Arrangement
import RealmModels.GraphQL.Parser
import RealmModels.Json.Table

namespace RealmModels.GraphQL

inductive IntrospectionError where
  | absent
  | invalid
  | notObject
  deriving DecidableEq, Repr

namespace Introspected

abbrev Result := Except IntrospectionError

def invalid {α : Type} : Result α := .error .invalid

def guarded {α : Type} (r : Result α) : Result α := r.mapError fun _ => .invalid

def member (key : String) (v : Json) : Result Json :=
  match v.get? key with
  | some m => .ok m
  | none => invalid

def optional (key : String) (v : Json) : Json := (v.get? key).getD .null

def listed : Json → Result (List Json)
  | .arr items => .ok items
  | .obj members => .ok (members.map fun m => .str m.1)
  | .str s => .ok (s.toList.map fun c => .str (String.singleton c))
  | _ => invalid

def nameOf (v : Json) : Result String := do
  match ← member "name" v with
  | .str s => if isName s then .ok s else invalid
  | _ => invalid

def kind? : Json → Option Kind
  | .str "SCALAR" => some .scalar
  | .str "OBJECT" => some .object
  | .str "INTERFACE" => some .interface
  | .str "UNION" => some .union
  | .str "ENUM" => some .enum
  | .str "INPUT_OBJECT" => some .inputObject
  | _ => none

def listedKind (name : String) (kind : Kind) : Result Kind :=
  match standardType? name with
  | none => .ok kind
  | some t =>
    match kind with
    | .scalar | .object | .enum => .ok t.kind
    | _ => invalid

abbrev Kinds := List (String × Kind)

def named (kinds : Kinds) (v : Json) : Result Named :=
  match v with
  | .obj _ =>
    match optional "name" v with
    | .str name =>
      match Json.lookup name kinds with
      | some kind => .ok ⟨name, kind⟩
      | none => invalid
    | _ => invalid
  | _ => .error .notObject

def typeRef (kinds : Kinds) : Nat → Json → Result TypeRef
  | 0, _ => invalid
  | fuel + 1, v =>
    let inner := optional "ofType" v
    match v, optional "kind" v with
    | .obj _, .str "LIST" =>
      if inner.truthy then do return .list (← typeRef kinds fuel inner) else invalid
    | .obj _, .str "NON_NULL" =>
      if inner.truthy then do
        let t ← typeRef kinds fuel inner
        if t.isNonNull then invalid else return .nonNull t
      else invalid
    | _, _ => do return .named (← named kinds v)

mutual

def layers : Json → Nat
  | .arr items => layersOfItems items + 1
  | .obj members => layersOfMembers members + 1
  | _ => 1

def layersOfItems : List Json → Nat
  | [] => 0
  | v :: vs => max (layers v) (layersOfItems vs)

def layersOfMembers : List (String × Json) → Nat
  | [] => 0
  | (_, v) :: rest => max (layers v) (layersOfMembers rest)

end

def resolve (kinds : Kinds) (v : Json) : Result TypeRef := typeRef kinds (layers v) v

def typeOf (kinds : Kinds) (v : Json) : Result TypeRef := do resolve kinds (← member "type" v)

def namedOfKind (kinds : Kinds) (kind : Kind) (v : Json) : Result Named := do
  match ← resolve kinds v with
  | .named t => if t.kind = kind then return t else invalid
  | _ => invalid

def checkDefault (v : Json) : Result Unit :=
  match optional "defaultValue" v with
  | .null => .ok ()
  | .str s => if (Value.constant? s).isSome then .ok () else invalid
  | _ => invalid

def byName {α : Type} (entries : List (String × α)) : List α :=
  (Json.putAll [] entries).map Prod.snd

def inputValue (kinds : Kinds) (v : Json) : Result (Json × TypeRef) := do
  let key ← member "name" v
  let type ← typeOf kinds v
  if !type.leaf.kind.isInput then invalid
  checkDefault v
  if key.isPlain then return (key, type) else invalid

def argument : Json × TypeRef → Result (String × Argument)
  | (.str name, type) => if isName name then .ok (name, ⟨name, type⟩) else invalid
  | _ => invalid

def arguments (kinds : Kinds) (v : Json) : Result (List Argument) := do
  let vs ← listed (optional "args" v)
  return byName (← (← vs.mapM (inputValue kinds)).mapM argument)

def field (kinds : Kinds) (v : Json) : Result (String × Field) := do
  let name ← nameOf v
  let type ← typeOf kinds v
  if !type.leaf.kind.isOutput then invalid
  let args ← arguments kinds v
  return (name, ⟨name, type, args, .ofJson (optional "description" v),
    .ofJson (optional "deprecationReason" v)⟩)

def inputField (kinds : Kinds) (v : Json) : Result (String × Field) := do
  let (name, argument) ← argument (← inputValue kinds v)
  return (name, ⟨name, argument.type, [], .ofJson (optional "description" v),
    .ofJson (optional "deprecationReason" v)⟩)

def fields (kinds : Kinds) (v : Json) : Result (List Field) := do
  let vs ← listed (optional "fields" v)
  return byName (← vs.mapM (field kinds))

def interfaces (kinds : Kinds) (v : Json) : Result (List Named) := do
  (← listed (optional "interfaces" v)).mapM (namedOfKind kinds .interface)

def checkEnumValue (v : Json) : Result Unit := do
  if (← member "name" v).isPlain then return () else invalid

def checkEnumValues (name : String) (v : Json) : Result Unit := do
  match optional "enumValues" v, (standardType? name).isSome with
  | .null, _ => invalid
  | _, true => return ()
  | values, false => (← listed values).forM checkEnumValue

def body (kinds : Kinds) (kind : Kind) (v : Json) : Result Body := do
  match kind with
  | .scalar => return .scalar
  | .object => return .object (← interfaces kinds v) (← fields kinds v)
  | .interface =>
    let is ← match optional "interfaces" v with
      | .null => pure []
      | _ => interfaces kinds v
    return .interface is (← fields kinds v)
  | .union =>
    return .union (← (← listed (optional "possibleTypes" v)).mapM (namedOfKind kinds .object))
  | .enum => return .enum
  | .inputObject =>
    let vs ← listed (optional "inputFields" v)
    return .inputObject (byName (← vs.mapM (inputField kinds)))
  | .undefined => invalid

def checkParts (name : String) (kind : Kind) (v : Json) : Result Unit :=
  match kind with
  | .union => do let _ ← listed (optional "possibleTypes" v)
  | .inputObject => do let _ ← listed (optional "inputFields" v)
  | .enum => checkEnumValues name v
  | _ => .ok ()

def entry (v : Json) : Result (String × Kind × Json) := do
  let name ← nameOf v
  match kind? (← member "kind" v) with
  | some kind =>
    checkParts name kind v
    return (name, ← listedKind name kind, v)
  | none => invalid

def typeDef (kinds : Kinds) : String × Kind × Json → Result TypeDef
  | (name, kind, v) =>
    match standardType? name with
    | some t => .ok t
    | none => do return ⟨name, ← body kinds kind v⟩

def checkRoot (kinds : Kinds) (v : Json) : Result Unit :=
  match v with
  | .null => .ok ()
  | _ => do let _ ← namedOfKind kinds .object v

def checkLocation : Json → Result Unit
  | .str s => if (Parser.location? s).isSome then .ok () else invalid
  | _ => invalid

def directive (kinds : Kinds) (v : Json) : Result (List String) := do
  match v with
  | .obj _ => pure ()
  | _ => throw .notObject
  let _ ← member "name" v
  let places ← listed (optional "locations" v)
  let vs ← listed (optional "args" v)
  let args ← vs.mapM (inputValue kinds)
  let _ ← nameOf v
  let _ ← args.mapM argument
  places.forM checkLocation
  return args.map (·.2.leaf.name)

def schema (v : Json) : Result Schema := do
  let entries ← (← listed (← member "types" v)).mapM entry
  let kinds : Kinds := entries.map (fun e => (e.1, e.2.1)) |>.reverse
  ["queryType", "mutationType", "subscriptionType"].forM fun root =>
    checkRoot kinds (optional root v)
  let directives := optional "directives" v
  let argumentTypes ←
    if directives.truthy then do pure (← (← listed directives).mapM (directive kinds)).flatten
    else pure []
  let types ← guarded ((Json.putAll [] (entries.map fun e => (e.1, e))).mapM fun e =>
    typeDef kinds e.2)
  return Schema.arrange types argumentTypes

end Introspected

def Schema.ofIntrospection (result : Json) : Except IntrospectionError Schema :=
  let data :=
    match result with
    | .obj members => (Json.lookup "data" members).getD result
    | _ => result
  match data.get? "__schema" with
  | none => .error .absent
  | some (.obj members) => Introspected.schema (.obj members)
  | some _ => .error .invalid

end RealmModels.GraphQL
