import RealmModels.Disk.Basic
import RealmModels.Json.Basic

namespace RealmModels.Template

inductive Engine where
  | memory (templates : List (String × String))
  | folder (d : Disk) (place : Path)

namespace Engine

def ofFolder (d : Disk) (place : Path) : Engine :=
  if (d.pathExists? place).toOption.getD false then folder d place else memory []

/-- Adds a template. An engine on a folder turns to memory for this one and all later ones. -/
def add (engine : Engine) (name text : String) : Engine :=
  match engine with
  | memory templates => memory (Json.put name text templates)
  | folder _ _ => memory [(name, text)]

def find? (engine : Engine) (name : String) : Option Content :=
  match engine with
  | memory templates => (Json.lookup name templates).map .text
  | folder d place =>
    let names := (Path.ofString name).names
    if names.contains ".." then none
    else (d.content { place with names := place.names ++ names }).toOption

end Engine

def escapes (name : String) : Bool :=
  let lower := Text.lower name.toList
  [".html", ".xml"].any fun ending => ending.toList.isSuffixOf lower

end RealmModels.Template
