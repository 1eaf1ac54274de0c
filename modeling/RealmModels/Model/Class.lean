import RealmModels.GraphQL.Schema
import RealmModels.Model.Initializer
import RealmModels.Swift.Identifier

namespace RealmModels.Model

open GraphQL Swift Writing

def giveName (spelling : String) : Writing String := do
  match (← get).names.name naming .camel spelling with
  | .ok (name, names) =>
    modify fun s => { s with names := names }
    return name
  | .error e => throw (.naming e)

def reportRenaming (spelling name : String) : Writing Unit := do
  let base := Naming.base .camel spelling
  match naming.escaped base with
  | .error e => throw (.naming e)
  | .ok plain =>
    if name ≠ plain then
      report (.renamed (← look (·.qualified spelling)) name base)

def declareField (style : Style) (f : Field) : Writing Property := do
  let name ← giveName f.name
  reportRenaming f.name name
  let root ← MonadExcept.ofExcept (style.typeNaming.rootOf f.type)
  let p : Property :=
    { name := name, typeName := some root, type := f.type,
      description := if style.comments then f.description else .absent }
  let c ← classified f.type
  comment p.description
  if style.deprecations && f.deprecationReason ≠ .absent then
    deprecationAttribute f.deprecationReason
  printProperty style.typeNaming c p.name p.typeName
  if c.isUncaught && !c.isList then report (.uncaught c.typeName f.name)
  return p

def classBody (style : Style) (fields : List Field) : Writing Unit := do
  let ps ← fields.mapM (declareField style)
  if style.initializers then
    memberwise style.typeNaming ps
    required

def declareClass (style : Style) (name : String) (fields : Option (List Field)) :
    Writing Unit := do
  report (.generating name)
  modify fun s => { s with names := .empty }
  (classBlock name ["public", "final"] "" ["Object"]).around do
    match fields with
    | some fs => classBody style fs
    | none => throw (.noFields name)

def declareType (style : Style) (t : TypeDef) : Writing Unit := declareClass style t.name t.fields?

end RealmModels.Model
