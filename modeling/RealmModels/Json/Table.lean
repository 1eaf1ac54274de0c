import RealmModels.Decimal.Exact
import RealmModels.Json.Writer

namespace RealmModels

inductive NotPairs where
  | wrongType
  | wrongLength
  deriving DecidableEq, Repr

namespace Json

abbrev Table := List (Json × Json)

def isPlain : Json → Bool
  | .arr _ | .obj _ => false
  | _ => true

def sameKey : Json → Json → Bool
  | .str a, .str b => a == b
  | .null, .null => true
  | .real x, .real y => x == y
  | .real x, v | v, .real x => v.whole?.any fun n => Decimal.isExactly x n
  | v, w =>
    match v.whole?, w.whole? with
    | some m, some n => m == n
    | _, _ => false

namespace Table

def put (key value : Json) : Table → Table
  | [] => [(key, value)]
  | (k, v) :: rest => if sameKey k key then (k, value) :: rest else (k, v) :: put key value rest

def putAll (base entries : Table) : Table := entries.foldl (fun t (key, v) => put key v t) base

def ofMembers (members : List (String × Json)) : Table := members.map fun (key, v) => (.str key, v)

def keyText : Json → String
  | .str s => s
  | v => v.writeScalar

def toMembers (t : Table) : List (String × Json) := t.map fun (key, v) => (keyText key, v)

end Table

def pair (v : Json) : Except NotPairs (Json × Json) :=
  match v with
  | .arr [key, value] => if key.isPlain then .ok (key, value) else .error .wrongType
  | .obj [(a, _), (b, _)] => .ok (.str a, .str b)
  | .str s =>
    match s.toList with
    | [a, b] => .ok (.str (String.singleton a), .str (String.singleton b))
    | _ => .error .wrongLength
  | .arr _ | .obj _ => .error .wrongLength
  | _ => .error .wrongType

def table : Json → Except NotPairs Table
  | .obj members => .ok (Table.ofMembers members)
  | .arr items => do return Table.putAll [] (← items.mapM pair)
  | .str s => if s = "" then .ok [] else .error .wrongLength
  | _ => .error .wrongType

end Json

end RealmModels
