import RealmModels.Template.TextMethod

namespace RealmModels.Template.Value

def insertSorted {α : Type} (less? : α → α → Option Bool) (a : α) : List α → Option (List α)
  | [] => some [a]
  | b :: bs => do
    if ← less? a b then return a :: b :: bs
    return b :: (← insertSorted less? a bs)

def sorted? {α : Type} (less? : α → α → Option Bool) (isReverse : Bool) (as : List α) :
    Option (List α) := do
  let bs ← (if isReverse then as.reverse else as).foldlM (fun found a => insertSorted less? a found) []
  return if isReverse then bs.reverse else bs

def put (key value : Value) (k : String) : List Value → List Value → List Value × List Value
  | l :: ls, w :: ws =>
    if l.key? = some k then (l :: ls, value :: ws)
    else
      let (ls, ws) := put key value k ls ws
      (l :: ls, w :: ws)
  | _, _ => ([key], [value])

def putEntry? (key value : Value) (entries : List Value × List Value) :
    Option (List Value × List Value) :=
  key.key?.map fun k => put key value k entries.1 entries.2

def eraseKey (k : String) (keys values : List Value) : List Value × List Value :=
  ((keys.zip values).filter fun (l, _) => l.key? ≠ some k).unzip

def entriesOf? (v : Value) : Option (List (Value × Value)) :=
  match v with
  | dict ks vs => some (ks.zip vs)
  | v => do
    (← v.entries?).mapM fun pair => do
      match ← pair.entries? with
      | [k, w] => some (k, w)
      | _ => none

def putAll? (base : List Value × List Value) (entries : List (Value × Value)) :
    Option (List Value × List Value) :=
  entries.foldlM (fun t (k, v) => putEntry? k v t) base

def gathered? (base : List Value × List Value) (a : Arguments) :
    Option (List Value × List Value) := do
  let t ← match a.places with
    | [] => some base
    | [v] => do putAll? base (← entriesOf? v)
    | _ => none
  putAll? t (a.named.map fun (n, v) => (plain n, v))

def callSequence (vs : List Value) (n : String) (a : Arguments) : Option Value := do
  match n, ← a.unnamed 1 3 with
  | "count", [v] => some (int (vs.filter v.same).length)
  | "index", v :: bounds =>
    let at? := fun (i : Nat) (default : Int) => match bounds[i]? with
      | none => some default
      | some b => b.whole?
    let size : Int := vs.length
    let clamp := fun i : Int => (if i < 0 then i + size else i).toNat
    let start := clamp (← at? 0 0)
    let stop := clamp (← at? 1 size)
    (((vs.take stop).drop start).findIdx? v.same).map fun i => int (start + i)
  | _, _ => none

def callDict (ks vs : List Value) (n : String) (a : Arguments) : Option Value := do
  match n, ← a.unnamed 0 2 with
  | "items", [] => some (view .items ks vs)
  | "keys", [] => some (view .keys ks vs)
  | "values", [] => some (view .values ks vs)
  | "copy", [] => some (dict ks vs)
  | "get", [k] => some ((lookup (← k.key?) ks vs).getD null)
  | "get", [k, default] => some ((lookup (← k.key?) ks vs).getD default)
  | _, _ => none

def callNumber (v : Value) (n : String) (a : Arguments) : Option Value := do
  let _ ← a.unnamed 0 0
  match v, n with
  | real x, "is_integer" => some (bool (x.isFinite && x == x.floor))
  | real x, "conjugate" => some (real x)
  | real x, "as_integer_ratio" =>
    if !x.isFinite then none
    let (num, den) := Decimal.ratio x
    let g := Nat.gcd num.natAbs den
    some (tuple [int (num / g), int (den / g)])
  | v, "conjugate" => v.whole?.map int
  | v, "bit_length" =>
    v.whole?.map fun m => int (if m = 0 then 0 else m.natAbs.log2 + 1)
  | v, "bit_count" =>
    v.whole?.map fun m => int ((Nat.toDigits 2 m.natAbs).filter (· = '1')).length
  | v, "as_integer_ratio" => v.whole?.map fun m => tuple [int m, int 1]
  | _, _ => none

def callMethod (owner : Value) (n : String) (a : Arguments) : Option Value :=
  match owner with
  | text s isSafe => callText s.toList isSafe n a
  | list vs =>
    if n = "copy" then (a.unnamed 0 0).map fun _ => list vs else callSequence vs n a
  | tuple vs => callSequence vs n a
  | range _ _ _ => do callSequence (← owner.entries?) n a
  | dict ks vs => callDict ks vs n a
  | bool _ | int _ | real _ => callNumber owner n a
  | _ => none

def changers : List String :=
  ["append", "clear", "extend", "insert", "pop", "popitem", "remove", "reverse", "setdefault", "sort",
    "update"]

def isChanger (owner : Value) (n : String) : Bool :=
  match owner with
  | list _ => listMethods.contains n && changers.contains n
  | dict _ _ => dictMethods.contains n && changers.contains n
  | _ => false

def changeList (vs : List Value) (n : String) (a : Arguments) : Option (Value × Value) := do
  let silent := fun ws : List Value => (null, list ws)
  match n, ← if n = "sort" then some [] else a.unnamed 0 2 with
  | "append", [v] => some (silent (vs ++ [v]))
  | "extend", [v] => (v.entries?).map fun ws => silent (vs ++ ws)
  | "insert", [i, v] =>
    let i ← i.whole?
    let i := (if i < 0 then i + vs.length else i).toNat
    some (silent (vs.take i ++ v :: vs.drop i))
  | "pop", [] => if vs.isEmpty then none else some (vs.getLast?.getD undefined, list vs.dropLast)
  | "pop", [i] =>
    let i ← i.whole?
    let v ← nth? vs i
    some (v, list (vs.eraseIdx (if i < 0 then i + vs.length else i).toNat))
  | "remove", [v] =>
    let i ← vs.findIdx? v.same
    some (silent (vs.eraseIdx i))
  | "reverse", [] => some (silent vs.reverse)
  | "clear", [] => some (silent [])
  | "sort", _ => do
    match ← if a.places.isEmpty then a.bind [("key", some null), ("reverse", some (bool false))]
      else none with
    | [null, isReverse] => (sorted? isLess? isReverse.truthy vs).map silent
    | _ => none
  | _, _ => none

def changeDict (ks vs : List Value) (n : String) (a : Arguments) : Option (Value × Value) := do
  let left := fun t : List Value × List Value => dict t.1 t.2
  if n = "update" then
    return (null, left (← gathered? (ks, vs) a))
  match n, ← a.unnamed 0 2 with
  | "clear", [] => some (null, dict [] [])
  | "pop", [k] =>
    let key ← k.key?
    (lookup key ks vs).map fun v => (v, left (eraseKey key ks vs))
  | "pop", [k, default] =>
    let key ← k.key?
    some ((lookup key ks vs).getD default, left (eraseKey key ks vs))
  | "popitem", [] =>
    match ks.getLast?, vs.getLast? with
    | some k, some v => some (tuple [k, v], dict ks.dropLast vs.dropLast)
    | _, _ => none
  | "setdefault", k :: more =>
    let key ← k.key?
    match lookup key ks vs with
    | some v => some (v, dict ks vs)
    | none => some (more.headD null, left (put k (more.headD null) key ks vs))
  | _, _ => none

def change (owner : Value) (n : String) (a : Arguments) : Option (Value × Value) :=
  match owner with
  | list vs => changeList vs n a
  | dict ks vs => changeDict ks vs n a
  | _ => none

end RealmModels.Template.Value
