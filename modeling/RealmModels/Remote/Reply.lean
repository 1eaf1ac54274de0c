import RealmModels.Json.Display

namespace RealmModels.Remote

structure Request where
  url : String
  headers : Json := .null
  timeout : Json := .int 30

inductive Failure where
  | timeout
  | connection
  | rejected
  | invalid
  | other
  deriving DecidableEq, Repr

/-- The end of a request: a failure with its reason, a refusal with the status that says so, or a JSON
value or the reason why there is none. -/
inductive Reply where
  | failed (failure : Failure) (reason : String)
  | refused (status : Int)
  | answered (payload : Except String Json)

def errorTexts? : Json → Option (List String)
  | .arr items => some (items.map fun
      | .obj members => ((Json.lookup "message" members).getD (.obj members)).display
      | v => v.display)
  | .obj members => some (members.map Prod.fst)
  | .str s => some (s.toList.map String.singleton)
  | _ => none

def reportedErrors? (payload : Json) : Option Json :=
  match payload.get? "errors" with
  | some errors => if errors.truthy then some errors else none
  | none => none

end RealmModels.Remote
