import RealmModels.Template.Check
import RealmModels.Template.Method
import RealmModels.Template.Operation

namespace RealmModels.Template.Value

def isMapping : Value → Bool
  | dict _ _ => true
  | _ => false

def isSequence : Value → Bool
  | undefined | text _ _ | list _ | tuple _ | dict _ _ | range _ _ _ => true
  | _ => false

def isIterable : Value → Bool
  | loop _ _ _ _ _ | range _ _ _ => true
  | v => v.entries?.isSome

def isCallable : Value → Bool
  | undefined | typeOf _ | builtin _ | method _ _ | object .joiner _ _ | loop _ _ _ _ _
  | definition _ | block _ _ => true
  | _ => false

def isIdentical : Value → Value → Bool
  | bool b, bool c => b == c
  | int m, int n => m == n
  | bool _, _ | _, bool _ | int _, _ | _, int _ => false
  | v, w => v.same w

def relation? (n : String) : Option Relation :=
  match n with
  | "==" | "eq" | "equalto" => some .equal
  | "!=" | "ne" => some .unequal
  | "<" | "lt" | "lessthan" => some .less
  | "<=" | "le" => some .lessOrEqual
  | ">" | "gt" | "greaterthan" => some .greater
  | ">=" | "ge" => some .greaterOrEqual
  | _ => none

def leaves? (v w : Value) (r : Int) : Option Bool :=
  (arithmetic .mod v w).map fun rest => rest.same (int r)

def isAmong? (v : Value) (names : List String) : Option Bool :=
  match v with
  | text s _ => some (names.contains s)
  | v => v.key?.map fun _ => false

def answer? (v : Value) (n : String) : Option Bool :=
  match n with
  | "defined" => some (match v with | undefined => false | _ => true)
  | "undefined" => some (match v with | undefined => true | _ => false)
  | "none" => some (match v with | null => true | _ => false)
  | "boolean" => some (match v with | bool _ => true | _ => false)
  | "true" => some (match v with | bool true => true | _ => false)
  | "false" => some (match v with | bool false => true | _ => false)
  | "integer" => some (match v with | int _ => true | _ => false)
  | "float" => some (match v with | real _ => true | _ => false)
  | "number" => some (match v with | bool _ | int _ | real _ => true | _ => false)
  | "string" => some (match v with | text _ _ => true | _ => false)
  | "mapping" => some v.isMapping
  | "sequence" => some v.isSequence
  | "iterable" => some v.isIterable
  | "callable" => some v.isCallable
  | "escaped" => some v.isSafe
  | "lower" => some (casesAll Text.isLower v.display.toList).truthy
  | "upper" => some (casesAll Text.isUpper v.display.toList).truthy
  | "odd" => leaves? v (int 2) 1
  | "even" => leaves? v (int 2) 0
  | "filter" => v.isAmong? filterNames
  | "test" => v.isAmong? testNames
  | _ => none

def passes? (v : Value) (n : String) (a : Arguments) : Option Bool := do
  match relation? n with
  | some r =>
    match ← a.unnamed 1 1 with
    | [w] => v.holds? r w
    | _ => none
  | none =>
    match n with
    | "divisibleby" =>
      match ← a.bind [("num", none)] with
      | [w] => leaves? v w 0
      | _ => none
    | "sameas" =>
      match ← a.bind [("other", none)] with
      | [w] => some (v.isIdentical w)
      | _ => none
    | "in" =>
      match ← a.bind [("seq", none)] with
      | [w] => v.isWithin? w
      | _ => none
    | n =>
      let _ ← a.bind []
      v.answer? n

end RealmModels.Template.Value
