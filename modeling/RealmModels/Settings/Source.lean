import RealmModels.Settings.File

namespace RealmModels

inductive SettingsSource where
  | members (ms : List (String × Json))
  | file (p : Path)
  | other (typeName : String)

namespace SettingsSource

def ofJson : Json → SettingsSource
  | .null => .members []
  | .obj ms => .members ms
  | .str s => if s = "" then .members [] else .file (Path.ofString s)
  | .bool _ => .other "bool"
  | .int _ => .other "int"
  | .real _ => .other "float"
  | .arr _ => .other "list"

def load (source : SettingsSource) (d : Disk) (levels : Option Nat := none) :
    List Log.Event × Except SettingsError Settings :=
  match source with
  | .members ms => Settings.load d none ms levels
  | .file p => Settings.load d (some p) [] levels
  | .other typeName => ([], .error (.wrongSource typeName))

end SettingsSource

namespace Settings

def ofOverrides (overrides : Json) : Except SettingsError Settings :=
  if !overrides.truthy then merged [] []
  else
    match overrides with
    | .obj ms => merged [] ms
    | _ => .error .notMembers

def inNamespace (name : Json) : Settings := default.set .namespaceName name

def complete (name : Json) : Settings :=
  ((inNamespace name).set .initializers (.bool true)).set .deprecations (.bool true)

end Settings

end RealmModels
