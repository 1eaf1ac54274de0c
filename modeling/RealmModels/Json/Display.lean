import RealmModels.Decimal.Shortest
import RealmModels.Json.Basic
import RealmModels.Text.Digits
import RealmModels.Text.Lines
import RealmModels.Text.Quoted

namespace RealmModels.Json

def shownReal : Decimal.Layout := ⟨-3, 16, "inf", "nan"⟩

mutual

def inspect : Json → String
  | .null => "None"
  | .bool b => if b then "True" else "False"
  | .int n => toString n
  | .real x => Decimal.render shownReal x
  | .str s => Text.quoted s
  | .arr items => "[" ++ Text.joinWith ", " (inspectItems items) ++ "]"
  | .obj members => "\x7b" ++ Text.joinWith ", " (inspectMembers members) ++ "\x7d"

def inspectItems : List Json → List String
  | [] => []
  | v :: vs => inspect v :: inspectItems vs

def inspectMembers : List (String × Json) → List String
  | [] => []
  | (key, v) :: rest => (Text.quoted key ++ ": " ++ inspect v) :: inspectMembers rest

end

/-- Whether a value by itself can be shown; whole numbers have no more digits than are written. -/
def isWritable : Json → Bool
  | .int n => n.natAbs < Nat.pow 10 Text.digitLimit
  | _ => true

def display : Json → String
  | .str s => s
  | v => inspect v

end RealmModels.Json
