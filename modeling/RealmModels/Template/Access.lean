import RealmModels.Template.Check
import RealmModels.Template.Value
import RealmModels.Text.Search

namespace RealmModels.Template

def Definition.uses (d : Definition) (n : String) : Bool :=
  !d.parameters.names.contains n && Node.anyReads n d.body

namespace Value

def textMethods : List String :=
  ["capitalize", "casefold", "center", "count", "encode", "endswith", "expandtabs", "find", "format",
    "format_map", "index", "isalnum", "isalpha", "isascii", "isdecimal", "isdigit", "isidentifier",
    "islower", "isnumeric", "isprintable", "isspace", "istitle", "isupper", "join", "ljust", "lower",
    "lstrip", "maketrans", "partition", "removeprefix", "removesuffix", "replace", "rfind", "rindex",
    "rjust", "rpartition", "rsplit", "rstrip", "split", "splitlines", "startswith", "strip",
    "swapcase", "title", "translate", "upper", "zfill"]

def markupMethods : List String := ["escape", "striptags", "unescape"]

def listMethods : List String :=
  ["append", "clear", "copy", "count", "extend", "index", "insert", "pop", "remove", "reverse",
    "sort"]

def dictMethods : List String :=
  ["clear", "copy", "fromkeys", "get", "items", "keys", "pop", "popitem", "setdefault", "update",
    "values"]

def wholeMethods : List String :=
  ["as_integer_ratio", "bit_count", "bit_length", "conjugate", "from_bytes", "to_bytes"]

def realMethods : List String :=
  ["as_integer_ratio", "conjugate", "fromhex", "hex", "is_integer"]

def typeName : Value → String
  | undefined => "jinja2.runtime.Undefined"
  | null => "NoneType"
  | bool _ => "bool"
  | int _ => "int"
  | real _ => "float"
  | text _ isSafe => if isSafe then "markupsafe.Markup" else "str"
  | list _ => "list"
  | tuple _ => "tuple"
  | dict _ _ => "dict"
  | range _ _ _ => "range"
  | view .keys _ _ => "dict_keys"
  | view .values _ _ => "dict_values"
  | view .items _ _ => "dict_items"
  | stream _ => "generator"
  | typeOf _ => "type"
  | builtin .lipsum => "function"
  | builtin _ => "type"
  | method _ _ => "builtin_function_or_method"
  | object .cycler _ _ => "jinja2.utils.Cycler"
  | object .joiner _ _ => "jinja2.utils.Joiner"
  | object .namespaces _ _ => "jinja2.utils.Namespace"
  | loop _ _ _ _ _ => "jinja2.runtime.LoopContext"
  | definition _ => "jinja2.runtime.Macro"
  | self _ => "jinja2.runtime.TemplateReference"
  | block _ _ => "jinja2.runtime.BlockReference"
  | module _ _ _ _ => "jinja2.environment.TemplateModule"

def shortName (name : String) : String :=
  String.ofList ((Text.cutAt '.' name.toList).getLast?.getD [])

def ancestors (name : String) : List String :=
  match name with
  | "object" => [name]
  | "bool" => [name, "int", "object"]
  | "markupsafe.Markup" => [name, "str", "object"]
  | _ => [name, "object"]

def moduleName (name : String) : String :=
  let parts := (Text.cutAt '.' name.toList).dropLast
  if parts.isEmpty then "builtins" else String.ofList (Text.joinChars ['.'] parts)

def typeAttribute? (name n : String) : Option Value :=
  match n with
  | "__name__" | "__qualname__" => some (plain (shortName name))
  | "__module__" => some (plain (moduleName name))
  | "__mro__" => some (tuple ((ancestors name).map typeOf))
  | "__bases__" => some (tuple (((ancestors name).tail.take 1).map typeOf))
  | "__base__" => some (((ancestors name)[1]?).elim null typeOf)
  | _ => none

def loopAttribute? (i : Nat) (items : List Value) (depth : Nat) : String → Option Value
  | "index" => some (int (i + 1))
  | "index0" => some (int i)
  | "first" => some (bool (i == 0))
  | "last" => some (bool (i + 1 == items.length))
  | "length" => some (int items.length)
  | "revindex" => some (int (items.length - i))
  | "revindex0" => some (int (items.length - i - 1))
  | "depth" => some (int depth)
  | "depth0" => some (int (depth - 1))
  | "previtem" => some (if i = 0 then undefined else items[i - 1]?.getD undefined)
  | "nextitem" => some (items[i + 1]?.getD undefined)
  | _ => none

def attribute? (v : Value) (n : String) : Option Value :=
  let methods := fun (ns : List String) => if ns.contains n then some (method v n) else none
  if n = "__class__" then some (typeOf v.typeName)
  else
    match v with
    | text _ isSafe => methods (if isSafe then textMethods ++ markupMethods else textMethods)
    | list _ => methods listMethods
    | tuple [group, list members] =>
      match n with
      | "grouper" => some group
      | "list" => some (list members)
      | _ => methods ["count", "index"]
    | tuple _ => methods ["count", "index"]
    | dict _ _ => methods dictMethods
    | view .values _ _ => methods ["mapping"]
    | view _ _ _ => methods ["isdisjoint", "mapping"]
    | stream _ => methods ["close", "send", "throw"]
    | range start stop step =>
      match n with
      | "start" => some (int start)
      | "stop" => some (int stop)
      | "step" => some (int step)
      | _ => methods ["count", "index"]
    | bool _ | int _ =>
      match n with
      | "real" | "numerator" => v.whole?.map int
      | "imag" => some (int 0)
      | "denominator" => some (int 1)
      | _ => methods wholeMethods
    | real x =>
      match n with
      | "real" => some (real x)
      | "imag" => some (real 0.0)
      | _ => methods realMethods
    | typeOf name => typeAttribute? name n
    | builtin b => (typeNames.lookup b).bind fun name => typeAttribute? name n
    | loop i items depth _ _ => (loopAttribute? i items depth n).or (methods ["changed", "cycle"])
    | object .cycler items _ => if n = "items" then some (tuple items) else methods ["next", "reset"]
    | object .joiner items _ => if n = "sep" then items.head? else none
    | definition d =>
      match n with
      | "name" => some ((d.name.map plain).getD null)
      | "arguments" => some (tuple (d.parameters.names.map plain))
      | "catch_kwargs" => some (bool (d.uses "kwargs"))
      | "catch_varargs" => some (bool (d.uses "varargs"))
      | "caller" => some (bool (d.uses "caller"))
      | "explicit_caller" => some (bool (d.parameters.names.contains "caller"))
      | _ => none
    | module _ names values _ => lookup ("t" ++ Text.quoted n) (names.map plain) values
    | _ => none

def nth? {α : Type} (as : List α) (i : Int) : Option α :=
  if i < 0 then (if -i ≤ as.length then as[(as.length + i).toNat]? else none) else as[i.toNat]?

def ownItem? (v key : Value) : Option Value :=
  match v with
  | dict ks vs => key.key?.bind fun k => lookup k ks vs
  | list vs | tuple vs => key.whole?.bind (nth? vs)
  | text s isSafe =>
    (key.whole?.bind (nth? s.toList)).map fun c => text (String.singleton c) isSafe
  | range start stop step => key.whole?.bind fun i =>
    let n : Int := rangeSize start stop step
    if -n ≤ i && i < n then some (int (start + (if i < 0 then i + n else i) * step)) else none
  | _ => none

def member (v : Value) (n : String) : Option Value :=
  match v with
  | undefined => none
  | v => some (((v.attribute? n).or (v.ownItem? (plain n))).getD undefined)

def item (v key : Value) : Option Value :=
  match v with
  | undefined => none
  | v =>
    let named := match key with
      | text n _ => v.attribute? n
      | _ => none
    some (((v.ownItem? key).or named).getD undefined)

def slicePositions (n : Nat) (start stop step : Option Int) : Option (List Int) :=
  let step := step.getD 1
  let clamp := fun (low high i : Int) =>
    let i := if i < 0 then i + n else i
    if i < low then low else if i > high then high else i
  if step = 0 then none
  else
    let (first, last) : Int × Int :=
      if step > 0 then ((start.map (clamp 0 n)).getD 0, (stop.map (clamp 0 n)).getD n)
      else ((start.map (clamp (-1) (n - 1))).getD (n - 1), (stop.map (clamp (-1) (n - 1))).getD (-1))
    some ((List.range (rangeSize first last step)).map fun i : Nat => first + i * step)

def bound? : Value → Option (Option Int)
  | null => some none
  | v => v.whole?.map some

def sliced? {α : Type} (as : List α) (start stop step : Option Int) : Option (List α) :=
  let kept := as.toArray
  (slicePositions as.length start stop step).map fun is => is.filterMap fun i => kept[i.toNat]?

def slice (v start stop step : Value) : Option Value := do
  let a ← start.bound?
  let b ← stop.bound?
  let c ← step.bound?
  match v with
  | text s isSafe => (sliced? s.toList a b c).map fun cs => text (String.ofList cs) isSafe
  | list vs => (sliced? vs a b c).map list
  | tuple vs => (sliced? vs a b c).map tuple
  | range _ _ _ => do
    let vs ← v.entries?
    let kept ← sliced? vs a b c
    match kept with
    | int x :: int y :: _ => return range x (x + (y - x) * kept.length) (y - x)
    | [int x] => return range x (x + 1) 1
    | _ => return range 0 0 1
  | _ => none

end Value

end RealmModels.Template
