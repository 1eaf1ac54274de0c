import RealmModels.Template.Value

namespace RealmModels.Template

structure Arguments where
  places : List Value := []
  named : List (String × Value) := []

namespace Arguments

def erase (n : String) (named : List (String × Value)) : List (String × Value) :=
  named.filter (·.1 ≠ n)

def fit : List (String × Option Value) → List Value → List (String × Value) → Option (List Value)
  | [], [], [] => some []
  | [], _, _ => none
  | (n, _) :: ps, v :: vs, named =>
    if (Json.lookup n named).isSome then none else (fit ps vs named).map (v :: ·)
  | (n, default) :: ps, [], named =>
    match Json.lookup n named with
    | some v => (fit ps [] (erase n named)).map (v :: ·)
    | none => default.bind fun v => (fit ps [] named).map (v :: ·)

def bind (a : Arguments) (ps : List (String × Option Value)) : Option (List Value) :=
  fit ps a.places a.named

def unnamed (a : Arguments) (least most : Nat) : Option (List Value) :=
  if a.named.isEmpty && least ≤ a.places.length && a.places.length ≤ most then some a.places
  else none

def ofShape (shape : Shape) (vs : List Value) : Option Arguments := do
  let places := vs.take shape.places
  let named := shape.names.zip (vs.drop shape.places)
  let more := vs.drop (shape.places + shape.names.length)
  let spread ← if shape.spreadsItems then more.head?.bind Value.entries? else some []
  let members ←
    if shape.spreadsMembers then
      match more.getLast? with
      | some (.dict ks ws) => (ks.zip ws).mapM fun (k, v) =>
        match k with
        | .text n _ => some (n, v)
        | _ => none
      | _ => none
    else some []
  if members.any fun m => named.any fun n => n.1 = m.1 then none
  return ⟨places ++ spread, Json.putAll [] (named ++ members)⟩

end Arguments

end RealmModels.Template
