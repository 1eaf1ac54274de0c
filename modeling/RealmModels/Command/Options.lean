import RealmModels.Json.Basic
import RealmModels.Log.Event
import RealmModels.Settings.Basic

namespace RealmModels.Command

inductive Flag where
  | passthrough
  | initializers
  | deprecations
  | noComments
  | verbose
  | help
  deriving DecidableEq, Repr

inductive Key where
  | url
  | output
  | config
  | namespaceName
  | scalarPrefix
  | logLevel
  deriving DecidableEq, Repr

inductive Switch where
  | flag (f : Flag)
  | key (k : Key)
  deriving DecidableEq, Repr

def spellings : List (String × Switch) :=
  [("-h", .flag .help), ("--help", .flag .help), ("--url", .key .url), ("--output", .key .output),
   ("-o", .key .output), ("--config", .key .config), ("--namespace", .key .namespaceName),
   ("--passthrough-custom-scalars", .flag .passthrough),
   ("--custom-scalars-prefix", .key .scalarPrefix),
   ("--generate-initializers", .flag .initializers),
   ("--deprecation-attributes", .flag .deprecations), ("--no-comments", .flag .noComments),
   ("--verbose", .flag .verbose), ("--log-level", .key .logLevel)]

structure Options where
  schema : Option String := none
  flags : List Flag := []
  values : List (Key × String) := []

namespace Options

def has (o : Options) (f : Flag) : Bool := o.flags.contains f

def value? (o : Options) (k : Key) : Option String :=
  (o.values.reverse.find? (·.1 == k)).map Prod.snd

def value (o : Options) (k : Key) : String := (o.value? k).getD ""

def isSet (o : Options) (k : Key) : Bool := o.value k != ""

def overrides (o : Options) : List (String × Json) :=
  let text := fun (k : Key) (s : Setting) =>
    if o.isSet k then [(s.key, Json.str (o.value k))] else []
  let flag := fun (f : Flag) (s : Setting) (b : Bool) =>
    if o.has f then [(s.key, Json.bool b)] else []
  text .namespaceName .namespaceName ++ flag .passthrough .passthrough true ++
    text .scalarPrefix .customPrefix ++ flag .initializers .initializers true ++
    flag .deprecations .deprecations true ++ flag .noComments .addComments false ++
    text .output .outputFile

end Options

def levelNames : List (String × Log.Level) :=
  [("DEBUG", .debug), ("INFO", .info), ("WARNING", .warning), ("ERROR", .error)]

end RealmModels.Command
