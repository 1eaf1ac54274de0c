import RealmModels.Json.Display
import RealmModels.Settings.Basic
import RealmModels.Text.Identifier
import RealmModels.Warning

namespace RealmModels

inductive SettingFault where
  | namespaceNotText
  | indentNotNumber
  | indentUnwritable
  | prefixNotText
  deriving DecidableEq, Repr

namespace Settings

def checkNamespace (v : Json) (reserved : List String) : Except SettingFault (List Warning) :=
  match v with
  | .null => .ok []
  | .str name =>
    .ok <|
      if !Text.isIdentifier name.toList then [.namespaceNotIdentifier name]
      else if reserved.contains name then [.namespaceReserved name]
      else []
  | _ => .error .namespaceNotText

/-- A size below one is warned about, in a warning that writes it out. -/
def checkIndent (v : Json) : Except SettingFault (List Warning) :=
  let small : Option Bool :=
    match v with
    | .real x => some (x < 1.0)
    | _ => v.whole?.map (· < 1)
  match small with
  | none => .error .indentNotNumber
  | some false => .ok []
  | some true => if v.isWritable then .ok [.indentTooSmall v.display] else .error .indentUnwritable

def check (s : Settings) (reserved : List String) : Except SettingFault (List Warning) := do
  let aboutNamespace ← checkNamespace (s.value .namespaceName) reserved
  let aboutPrefix :=
    if (s.value .customPrefix).truthy && !(s.value .passthrough).truthy
    then [.prefixWithoutPassthrough] else []
  return aboutNamespace ++ aboutPrefix ++ (← checkIndent (s.value .indentSize))

end Settings

end RealmModels
