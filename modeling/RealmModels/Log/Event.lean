import RealmModels.Warning

namespace RealmModels.Log

inductive Level where
  | debug
  | info
  | warning
  | error
  deriving DecidableEq, Repr

def Level.number : Level → Nat
  | debug => 10
  | info => 20
  | warning => 30
  | error => 40

inductive Channel where
  | settings
  | generator
  | models
  | loader
  | commandLine
  deriving DecidableEq, Repr

inductive LoadTrouble where
  | fileMissing (path : String)
  | fileUnreadable (path reason : String)
  | fileNotJson (path reason : String)
  | fileNotDefinitions (path : String)
  | badUrl (url : String)
  | timeout (url : String)
  | connection (url reason : String)
  | status (code url : String)
  | replyNotJson (url reason : String)
  | request (url reason : String)
  | refused (url reasons : String)
  | noSource
  | twoSources
  deriving DecidableEq, Repr

inductive Event where
  | settingsLoaded (path : String)
  | warned (w : Warning)
  | generated (count : Nat) (language : String)
  | generationFailed
  | skipped (type : String)
  | generating (type : String)
  | renamed (field property base : String)
  | uncaught (scalar field : String)
  | readingFile (path : String)
  | treatedAsDefinitions (path : String)
  | fileLoaded (path : String)
  | introspecting (url : String)
  | introspected (url : String)
  | loadFailed (trouble : LoadTrouble)
  | commandFailed
  deriving DecidableEq, Repr

def LoadTrouble.message : LoadTrouble → String
  | fileMissing path => "File not found: " ++ path
  | fileUnreadable path reason => "Error reading file " ++ path ++ ": " ++ reason
  | fileNotJson path reason => "Invalid JSON in file " ++ path ++ ": " ++ reason
  | fileNotDefinitions path => "Invalid GraphQL SDL in file " ++ path ++ ": "
  | badUrl url => "Invalid URL format: " ++ url
  | timeout url => "Request timeout for URL: " ++ url
  | connection url reason => "Connection error for URL " ++ url ++ ": " ++ reason
  | status code url => "HTTP error " ++ code ++ " for URL: " ++ url
  | replyNotJson url reason => "Invalid JSON response from URL " ++ url ++ ": " ++ reason
  | request url reason => "Request error for URL " ++ url ++ ": " ++ reason
  | refused url reasons => "Introspection failed for URL " ++ url ++ ": " ++ reasons
  | noSource => "Neither file_path nor url provided"
  | twoSources => "Both file_path and url provided"

namespace Event

def level : Event → Level
  | settingsLoaded _ | skipped _ | generating _ | readingFile _ | introspecting _
  | commandFailed => .debug
  | generated _ _ | fileLoaded _ | introspected _ => .info
  | warned _ | renamed _ _ _ | uncaught _ _ | treatedAsDefinitions _ => .warning
  | generationFailed | loadFailed _ => .error

def channel : Event → Channel
  | settingsLoaded _ => .settings
  | warned _ | generated _ _ | generationFailed => .generator
  | skipped _ | generating _ | renamed _ _ _ | uncaught _ _ => .models
  | readingFile _ | treatedAsDefinitions _ | fileLoaded _ | introspecting _ | introspected _
  | loadFailed _ => .loader
  | commandFailed => .commandLine

def message : Event → String
  | settingsLoaded path => "Loaded configuration from " ++ path
  | warned w => w.message
  | generated count language => "Generated " ++ toString count ++ " " ++ language ++ " model(s)"
  | generationFailed => "Code generation failed: "
  | skipped type => "Skipping type " ++ type
  | generating type => "Generating model " ++ type
  | renamed field property base =>
    "Field " ++ field ++ " renamed to " ++ property ++ ": " ++ base ++ " is already declared"
  | uncaught scalar field => "Uncaught scalar " ++ scalar ++ " for field " ++ field
  | readingFile path => "Attempting to load schema from file: " ++ path
  | treatedAsDefinitions path => "Treating " ++ path ++ " as GraphQL SDL"
  | fileLoaded path => "Successfully loaded schema from " ++ path
  | introspecting url => "Attempting to introspect schema from URL: " ++ url
  | introspected url => "Successfully introspected schema from " ++ url
  | loadFailed trouble => trouble.message
  | commandFailed => "CLI failed"

end Event

def visible (threshold : Level) (events : List Event) : List Event :=
  events.filter fun e => threshold.number ≤ e.level.number

end RealmModels.Log
