import RealmModels.Disk.Basic
import RealmModels.Json.Reader
import RealmModels.Json.Writer
import RealmModels.Log.Event
import RealmModels.Settings.Merge

namespace RealmModels

inductive SettingsError where
  | missing (path : Path)
  | notJsonFile (path : Path)
  | unreadable (path : Path) (reason : OpenError)
  | notJson (path : Path) (reason : String)
  | notObject (path : Path)
  | notText (path : Path)
  | notPairs (e : NotPairs)
  | beyond (limit : Json.Limit)
  | unusablePath (reason : OpenError)
  | notMembers
  | unwritable (path : Path) (reason : OpenError)
  | wrongSource (typeName : String)
  deriving DecidableEq, Repr

def SettingsError.message : SettingsError → String
  | missing path => "Configuration file not found: " ++ path.toString
  | notJsonFile path => "Configuration file must be JSON: " ++ path.toString
  | unreadable path reason =>
    "Failed to load configuration file " ++ path.toString ++ ": " ++ reason.message path
  | notJson path reason =>
    "Invalid JSON in configuration file " ++ path.toString ++ ": " ++ reason
  | notObject path => "Configuration file must contain a JSON object: " ++ path.toString
  | notText path => "Configuration file is no text: " ++ path.toString
  | notPairs _ | notMembers => "Settings have to be given as an object"
  | beyond _ => "The settings file goes beyond a limit"
  | unusablePath _ => "The path cannot stand for a file"
  | unwritable path reason =>
    "Failed to save configuration to " ++ path.toString ++ ": " ++ reason.message path
  | wrongSource typeName => "Invalid config type: <class '" ++ typeName ++ "'>"

def SettingsError.isReported : SettingsError → Bool
  | notText _ | notPairs _ | notMembers | beyond _ | unusablePath _ => false
  | _ => true

namespace Settings

def readText (d : Disk) (p : Path) : Except SettingsError String :=
  match d.content p with
  | .error reason => .error (.unreadable p reason)
  | .ok c =>
    match c.decode? with
    | none => .error (.notText p)
    | some text => .ok (String.ofList (Text.unifyLineEnds text.toList))

def membersOf (d : Disk) (p : Path) (levels : Option Nat := none) :
    Except SettingsError (List (String × Json)) := do
  match d.pathExists? p with
  | .ok isThere => if !isThere then throw (.missing p)
  | .error reason => throw (.unusablePath reason)
  if p.lowerSuffix != ".json" then throw (.notJsonFile p)
  let text ← readText d p
  match Json.read text levels with
  | .error (.beyond limit) => throw (.beyond limit)
  | .error r => throw (.notJson p (r.message text))
  | .ok (.obj members) => return members
  | .ok _ => throw (.notObject p)

def merged (file overrides : List (String × Json)) : Except SettingsError Settings :=
  match merge file overrides with
  | .ok s => .ok s
  | .error e => .error (.notPairs e)

def load (d : Disk) (file : Option Path) (overrides : List (String × Json))
    (levels : Option Nat := none) : List Log.Event × Except SettingsError Settings :=
  match file with
  | none => ([], merged [] overrides)
  | some p =>
    match membersOf d p levels with
    | .ok members => ([.settingsLoaded p.toString], merged members overrides)
    | .error e => ([], .error e)

def savedText (s : Settings) : Except SettingsError String :=
  match s.savedMembers with
  | .ok members => .ok (Json.pretty (.obj members))
  | .error e => .error (.notPairs e)

def save (s : Settings) (d : Disk) (p : Path) : Except SettingsError Disk := do
  let text ← s.savedText
  match d.write p text with
  | .ok d => return d
  | .error .nulInName => throw (.unusablePath .nulInName)
  | .error reason => throw (.unwritable p reason)

end Settings

end RealmModels
