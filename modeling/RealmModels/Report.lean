import RealmModels.Model.Source
import RealmModels.Text.Lines

namespace RealmModels

open GraphQL Writing

def language : String := "swift-realm"

def fileExtension : String := ".swift"

structure Metadata where
  language : String
  fileExtension : String
  typeCount : Nat
  namespaceName : Json
  hasUncaughtScalars : Bool

inductive Report where
  | success (code : String) (warnings : List Warning) (metadata : Metadata)
  | failure (fault : Fault)

def fieldWarning? (type field : String) (c : Classified) : Option Warning :=
  if c.isUncaught && !c.isList then some (.uncaughtScalar type field c.typeName)
  else if c.shape == .abstract && !c.isList then some (.abstractType type field c.typeName)
  else none

def fieldWarnings (type : String) (f : Field) : Except Fault (List Warning) :=
  match classify f.type with
  | .ok c => .ok (fieldWarning? type f.name c).toList
  | .error u => .error (.unclassified u)

def modelWarnings (m : ObjectType) : Except Fault (List Warning) := do
  let ofFields ← m.fields.mapM (fieldWarnings m.name)
  return (if m.fields.isEmpty then [.noFields m.name] else []) ++ ofFields.flatten

def schemaWarnings (s : Schema) : Except Fault (List Warning) := do
  return (← s.models.mapM modelWarnings).flatten

def settingsWarnings (settings : Settings) : Except Fault (List Warning) :=
  match settings.check Swift.reservedWords with
  | .ok ws => .ok ws
  | .error e => .error (.setting e)

def isUncaughtField (f : Field) : Bool :=
  match classify f.type with
  | .ok c => c.isUncaught
  | .error _ => false

def metadata (settings : Settings) (s : Schema) : Metadata :=
  { language := language, fileExtension := fileExtension, typeCount := s.models.length,
    namespaceName := settings.value .namespaceName,
    hasUncaughtScalars := s.models.any fun m => m.fields.any isUncaughtField }

namespace Report

def failed : String := "Code generation failed: "

def errorMessage (fault : Fault) : String := failed ++ fault.message?.getD ""

def quickErrorMessage : String := failed ++ failed

def run (settings : Settings) (s : Schema) : Writing Report := do
  let ws ← MonadExcept.ofExcept (settingsWarnings settings)
  let ws' ← MonadExcept.ofExcept (schemaWarnings s)
  (ws ++ ws').forM fun w => report (.warned w)
  let code ← Model.source settings.style s
  report (.generated s.models.length language)
  return .success (Text.tidy code) (ws ++ ws') (metadata settings s)

def generate (settings : Settings) (s : Schema) : Writing Report :=
  tryCatch (run settings s) fun fault => do
    report .generationFailed
    return .failure fault

end Report

def Session.new (indent : Indent) : Session := { printer := { indent := indent } }

def Settings.session (s : Settings) (room : Option Nat := none) : Session :=
  Session.new (s.indent room)

end RealmModels
