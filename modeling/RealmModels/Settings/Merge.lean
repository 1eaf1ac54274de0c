import RealmModels.Json.Table
import RealmModels.Settings.Basic

namespace RealmModels

namespace Settings

def normalKey (key : String) : String :=
  match Setting.all.find? (·.camelKey? == some key) with
  | some setting => setting.key
  | none => key

def normalize (members : List (String × Json)) : List (String × Json) :=
  Json.putAll [] (members.map fun (key, v) => (normalKey key, v))

def isKnown (key : String) : Bool := (Setting.ofKey? key).isSome

def ofKnown (members : List (String × Json)) : Settings :=
  ⟨fun setting => (Json.lookup setting.key members).getD setting.default⟩

def ofMembers (members : List (String × Json)) : Except NotPairs Settings := do
  let known := ofKnown members
  let unknown := members.filter fun (key, _) => !isKnown key
  if unknown.isEmpty then return known
  let given := known.value .custom
  let base ← if given.truthy then given.table else pure []
  return known.set .custom (.obj (Json.Table.putAll base (.ofMembers unknown)).toMembers)

def merge (file overrides : List (String × Json)) : Except NotPairs Settings :=
  ofMembers (Json.putAll (normalize file) (normalize overrides))

def savedMembers (s : Settings) : Except NotPairs (List (String × Json)) := do
  let members := (← (s.value .custom).table).toMembers
  let fields := Setting.all.filter (· != .custom)
  let own := fields.map fun k => (k.key, (Json.lookup k.key members).getD (s.value k))
  return own ++ members.filter fun (key, _) => !fields.any (·.key == key)

end Settings

end RealmModels
