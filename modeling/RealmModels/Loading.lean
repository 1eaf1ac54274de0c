import RealmModels.GraphQL.Build
import RealmModels.GraphQL.Introspection
import RealmModels.Remote.Reply
import RealmModels.Remote.Url
import RealmModels.Settings.File

namespace RealmModels

open GraphQL Remote

inductive LoadError where
  | trouble (t : Log.LoadTrouble)
  | noResult (e : IntrospectionError) (place : String)
  | notText (p : Path)
  | beyond (limit : Json.Limit)
  | unusablePath (reason : OpenError)
  | ambiguousUrl (url : String)
  | unknownStatus (url : String)
  | unreadableErrors (url : String)
  deriving DecidableEq, Repr

def Log.LoadTrouble.summary : Log.LoadTrouble → String
  | badUrl url => "Invalid URL: " ++ url
  | connection url _ => "Connection error for URL: " ++ url
  | noSource => "Either file_path or url must be provided"
  | twoSources => "Cannot specify both file_path and url"
  | t => t.message

def LoadError.message? : LoadError → Option String
  | trouble t => some t.summary
  | noResult .absent place => some ("No __schema introspection result in " ++ place)
  | noResult .invalid place => some ("Invalid introspection result in " ++ place ++ ": ")
  | _ => none

structure Journal where
  events : List Log.Event := []
  requests : List Request := []

abbrev Loading := EStateM LoadError Journal

structure Loaded where
  source : String
  schema : Schema

namespace Loading

def report (e : Log.Event) : Loading Unit := modify fun j => { j with events := j.events ++ [e] }

def fail {α : Type} (t : Log.LoadTrouble) : Loading α := do
  report (.loadFailed t)
  throw (.trouble t)

def introspected (result : Json) (place : String) : Loading Schema :=
  match Schema.ofIntrospection result with
  | .ok s => pure s
  | .error e => throw (.noResult e place)

def readText (d : Disk) (p : Path) : Loading String := do
  match d.pathExists? p with
  | .ok isThere => if !isThere then fail (.fileMissing p.toString)
  | .error reason => throw (.unusablePath reason)
  match d.content p with
  | .error reason => fail (.fileUnreadable p.toString (reason.message p))
  | .ok c =>
    match c.decode? with
    | some text => return String.ofList (Text.unifyLineEnds text.toList)
    | none => throw (.notText p)

def schemaOfJson (p : Path) (text : String) (levels : Option Nat := none) : Loading Schema :=
  match Json.read text levels with
  | .ok v => introspected v p.toString
  | .error (.beyond limit) => throw (.beyond limit)
  | .error r => fail (.fileNotJson p.toString (r.message text))

def schemaOfDefinitions (p : Path) (text : String) : Loading Schema :=
  match Schema.ofText text with
  | .ok s => pure s
  | .error _ => fail (.fileNotDefinitions p.toString)

def definitionSuffixes : List String := [".graphql", ".graphqls", ".gql"]

def file (d : Disk) (p : Path) (levels : Option Nat := none) : Loading Loaded := do
  report (.readingFile p.toString)
  let text ← readText d p
  let schema ←
    if p.lowerSuffix == ".json" then schemaOfJson p text levels
    else do
      if !definitionSuffixes.contains p.lowerSuffix then report (.treatedAsDefinitions p.toString)
      schemaOfDefinitions p text
  report (.fileLoaded p.toString)
  return ⟨"📄 " ++ p.toString, schema⟩

def payloadOf (url : String) : Reply → Loading Json
  | .failed .timeout _ => fail (.timeout url)
  | .failed .connection reason => fail (.connection url reason)
  | .failed .rejected _ => throw (.unknownStatus url)
  | .failed .invalid reason => fail (.replyNotJson url reason)
  | .failed .other reason => fail (.request url reason)
  | .refused status => fail (.status (toString status) url)
  | .answered (.ok v) => pure v
  | .answered (.error reason) => fail (.replyNotJson url reason)

def checkErrors (url : String) (payload : Json) : Loading Unit :=
  match reportedErrors? payload with
  | none => pure ()
  | some errors =>
    match errorTexts? errors with
    | some texts => fail (.refused url (Text.joinWith "; " texts))
    | none => throw (.unreadableErrors url)

def endpoint (send : Request → Reply) (r : Request) : Loading Loaded := do
  report (.introspecting r.url)
  match Url.ofString? r.url with
  | none => throw (.ambiguousUrl r.url)
  | some u => if !u.isComplete then fail (.badUrl r.url)
  modify fun j => { j with requests := j.requests ++ [r] }
  let payload ← payloadOf r.url (send r)
  checkErrors r.url payload
  let schema ← introspected payload r.url
  report (.introspected r.url)
  return ⟨"🌐 " ++ r.url, schema⟩

def either (d : Disk) (send : Request → Reply) (path : String) (r : Request)
    (levels : Option Nat := none) : Loading Loaded := do
  if path = "" && r.url = "" then fail .noSource
  else if path ≠ "" && r.url ≠ "" then fail .twoSources
  else if path ≠ "" then file d (Path.ofString path) levels
  else endpoint send r

end Loading

end RealmModels
