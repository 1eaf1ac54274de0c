namespace RealmModels

inductive Json where
  | null
  | bool (b : Bool)
  | int (n : Int)
  | real (x : Float)
  | str (s : String)
  | arr (items : List Json)
  | obj (members : List (String × Json))
  deriving Inhabited

namespace Json

def lookup {α : Type} (key : String) : List (String × α) → Option α
  | [] => none
  | (k, v) :: rest => if k = key then some v else lookup key rest

def put {α : Type} (key : String) (value : α) : List (String × α) → List (String × α)
  | [] => [(key, value)]
  | (k, v) :: rest => if k = key then (k, value) :: rest else (k, v) :: put key value rest

def putAll {α : Type} (base entries : List (String × α)) : List (String × α) :=
  entries.foldl (fun acc (key, value) => put key value acc) base

def get? (key : String) : Json → Option Json
  | .obj members => lookup key members
  | _ => none

def truthy : Json → Bool
  | .null => false
  | .bool b => b
  | .int n => n != 0
  | .real x => x != 0.0
  | .str s => s != ""
  | .arr items => !items.isEmpty
  | .obj members => !members.isEmpty

def whole? : Json → Option Int
  | .bool b => some (if b then 1 else 0)
  | .int n => some n
  | _ => none

end Json

end RealmModels
