import RealmModels.Text.Quoted

namespace RealmModels

inductive Warning where
  | namespaceNotIdentifier (name : String)
  | namespaceReserved (name : String)
  | prefixWithoutPassthrough
  | indentTooSmall (shown : String)
  | noFields (type : String)
  | uncaughtScalar (type field scalar : String)
  | abstractType (type field target : String)
  deriving DecidableEq, Repr

def Warning.message : Warning → String
  | namespaceNotIdentifier name => "Invalid namespace identifier: " ++ Text.quoted name
  | namespaceReserved name => "Namespace " ++ Text.quoted name ++ " is a reserved word"
  | prefixWithoutPassthrough =>
    "custom_scalars_prefix has no effect unless passthrough_custom_scalars is set"
  | indentTooSmall shown => "Invalid indent_size: " ++ shown
  | noFields type => "Type '" ++ type ++ "' has no fields"
  | uncaughtScalar type field scalar =>
    "Uncaught scalar in " ++ type ++ "." ++ field ++ ": " ++ scalar
  | abstractType type field target =>
    "No declaration for abstract type in " ++ type ++ "." ++ field ++ ": " ++ target

end RealmModels
