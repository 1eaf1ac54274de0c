import RealmModels.Json.Basic

namespace RealmModels.GraphQL

inductive Note where
  | absent
  | text (s : String)
  | unset
  | wordless
  deriving DecidableEq, Repr

namespace Note

def ofText? : Option String → Note
  | none => absent
  | some s => text s

def ofJson : Json → Note
  | .null => absent
  | .str s => text s
  | v => if v.truthy then wordless else unset

def words? : Note → Option String
  | absent | unset => some ""
  | text s => some s
  | wordless => none

end Note

end RealmModels.GraphQL
