import RealmModels.Json.Basic

namespace RealmModels

inductive Setting where
  | outputFile
  | namespaceName
  | passthrough
  | customPrefix
  | indentSize
  | useTabs
  | addComments
  | initializers
  | deprecations
  | custom
  deriving DecidableEq, Repr

namespace Setting

def all : List Setting :=
  [outputFile, namespaceName, passthrough, customPrefix, indentSize, useTabs, addComments,
   initializers, deprecations, custom]

def key : Setting → String
  | outputFile => "output_file"
  | namespaceName => "namespace"
  | passthrough => "passthrough_custom_scalars"
  | customPrefix => "custom_scalars_prefix"
  | indentSize => "indent_size"
  | useTabs => "use_tabs"
  | addComments => "add_comments"
  | initializers => "generate_initializers"
  | deprecations => "add_deprecation_attributes"
  | custom => "custom"

def camelKey? : Setting → Option String
  | outputFile => some "outputFile"
  | namespaceName => none
  | passthrough => some "passthroughCustomScalars"
  | customPrefix => some "customScalarsPrefix"
  | indentSize => some "indentSize"
  | useTabs => some "useTabs"
  | addComments => some "addComments"
  | initializers => some "generateInitializers"
  | deprecations => some "addDeprecationAttributes"
  | custom => none

def ofKey? (key : String) : Option Setting := all.find? (·.key == key)

def default : Setting → Json
  | outputFile | namespaceName => .null
  | passthrough | useTabs | initializers | deprecations => .bool false
  | customPrefix => .str ""
  | indentSize => .int 2
  | addComments => .bool true
  | custom => .obj []

end Setting

structure Settings where
  value : Setting → Json

namespace Settings

def default : Settings := ⟨Setting.default⟩

def set (s : Settings) (setting : Setting) (v : Json) : Settings :=
  ⟨fun other => if other = setting then v else s.value other⟩

def toMembers (s : Settings) : List (String × Json) :=
  Setting.all.map fun setting => (setting.key, s.value setting)

end Settings

end RealmModels
