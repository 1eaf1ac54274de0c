import RealmModels.Decimal.Exact
import RealmModels.Json.Display
import RealmModels.Template.Basic
import RealmModels.Template.Language

namespace RealmModels.Template

structure Block where
  escapes : Bool
  isRequired : Bool
  body : List Node

structure Place where
  scopes : List Nat
  escapes : Bool
  isKept : Bool := false
  printed : Option Nat := none
  template : Option String := none
  blocks : List (String × List Block) := []
  block : Option (String × Nat) := none
  known : List String := []
  hidden : List String := []

structure Definition where
  name : Option String
  parameters : Parameters
  body : List Node
  place : Place

structure Again where
  target : Target
  test : Option Expr
  body : List Node
  otherwise : List Node
  place : Place

inductive Builtin where
  | range
  | dict
  | lipsum
  | cycler
  | joiner
  | namespaces
  deriving DecidableEq, Repr

inductive Kind where
  | cycler
  | joiner
  | namespaces
  deriving DecidableEq, Repr

inductive View where
  | keys
  | values
  | items
  deriving DecidableEq, Repr

inductive Value where
  | undefined
  | null
  | bool (b : Bool)
  | int (n : Int)
  | real (x : Float)
  | text (s : String) (isSafe : Bool)
  | list (vs : List Value)
  | tuple (vs : List Value)
  | dict (keys values : List Value)
  | range (start stop step : Int)
  | view (v : View) (keys values : List Value)
  | stream (vs : List Value)
  | typeOf (name : String)
  | builtin (b : Builtin)
  | method (owner : Value) (name : String)
  | object (k : Kind) (items : List Value) (memory : Nat)
  | loop (index : Nat) (items : List Value) (depth memory : Nat) (again : Option Again)
  | definition (d : Definition)
  | self (template : Option String)
  | block (name : String) (level : Nat)
  | module (template : Option String) (names : List String) (values : List Value) (shown : String)
  deriving Inhabited

namespace Value

def plain (s : String) : Value := text s false

def chars (cs : List Char) : Value := text (String.ofList cs) false

mutual

def ofJson : Json → Value
  | .null => null
  | .bool b => bool b
  | .int n => int n
  | .real x => real x
  | .str s => plain s
  | .arr vs => list (ofItems vs)
  | .obj ms => dict (ms.map fun m => plain m.1) (ofMembers ms)

def ofItems : List Json → List Value
  | [] => []
  | v :: vs => ofJson v :: ofItems vs

def ofMembers : List (String × Json) → List Value
  | [] => []
  | (_, v) :: ms => ofJson v :: ofMembers ms

end

def whole? : Value → Option Int
  | bool b => some (if b then 1 else 0)
  | int n => some n
  | _ => none

def rangeSize (start stop step : Int) : Nat :=
  if step > 0 then ((stop - start + step - 1).fdiv step).toNat
  else if step < 0 then ((start - stop - step - 1).fdiv (-step)).toNat
  else 0

def maxRange : Nat := 1000000

def rangeItems (start step : Int) : Nat → List Value
  | 0 => []
  | n + 1 => int start :: rangeItems (start + step) step n

def viewItems : View → List Value → List Value → List Value
  | .keys, ks, _ => ks
  | .values, _, vs => vs
  | .items, ks, vs => (ks.zip vs).map fun (k, v) => tuple [k, v]

def entries? : Value → Option (List Value)
  | undefined => some []
  | text s _ => some (s.toList.map fun c => plain (String.singleton c))
  | list vs | tuple vs | stream vs => some vs
  | dict ks _ => some ks
  | view v ks vs => some (viewItems v ks vs)
  | range start stop step =>
    let n := rangeSize start stop step
    if n ≤ maxRange then some (rangeItems start step n) else none
  | _ => none

def size? : Value → Option Nat
  | undefined => some 0
  | text s _ => some s.length
  | list vs | tuple vs => some vs.length
  | dict ks _ | view _ ks _ => some ks.length
  | range start stop step => some (rangeSize start stop step)
  | loop _ items _ _ _ => some items.length
  | _ => none

def truthy : Value → Bool
  | undefined | null => false
  | bool b => b
  | int n => n != 0
  | real x => x != 0.0
  | stream _ => true
  | v => (v.size?.map (· != 0)).getD true

def typeNames : List (Builtin × String) :=
  [(.range, "range"), (.dict, "dict"), (.cycler, "jinja2.utils.Cycler"),
    (.joiner, "jinja2.utils.Joiner"), (.namespaces, "jinja2.utils.Namespace")]

def typeText (name : String) : String := "<class '" ++ name ++ "'>"

def templateText (t : Option String) : String := (t.map Text.quoted).getD "None"

def rangeText (start stop step : Int) : String :=
  "range(" ++ toString start ++ ", " ++ toString stop ++
    (if step = 1 then "" else ", " ++ toString step) ++ ")"

mutual

def isPassing : Value → Bool
  | stream _ => true
  | list vs | tuple vs | dict _ vs | view _ _ vs | object _ vs _ => anyPassing vs
  | method owner _ => owner.isPassing
  | _ => false

def anyPassing : List Value → Bool
  | [] => false
  | v :: vs => v.isPassing || anyPassing vs

end

mutual

def inspect : Value → String
  | undefined => "Undefined"
  | null => "None"
  | bool b => if b then "True" else "False"
  | int n => toString n
  | real x => Decimal.render Json.shownReal x
  | text s isSafe => if isSafe then "Markup(" ++ Text.quoted s ++ ")" else Text.quoted s
  | list vs => "[" ++ Text.joinWith ", " (inspectAll vs) ++ "]"
  | tuple vs =>
    "(" ++ Text.joinWith ", " (inspectAll vs) ++ (if vs.length = 1 then ",)" else ")")
  | dict ks vs => "\x7b" ++ Text.joinWith ", " (inspectPairs ": " (inspectAll ks) vs) ++ "\x7d"
  | range start stop step => rangeText start stop step
  | view .keys ks _ => "dict_keys([" ++ Text.joinWith ", " (inspectAll ks) ++ "])"
  | view .values _ vs => "dict_values([" ++ Text.joinWith ", " (inspectAll vs) ++ "])"
  | view .items ks vs =>
    let pairs := inspectPairs ", " (inspectAll ks) vs
    "dict_items([" ++ Text.joinWith ", " (pairs.map fun p => "(" ++ p ++ ")") ++ "])"
  | stream _ => "<generator object>"
  | typeOf n => typeText n
  | builtin b => ((typeNames.lookup b).map typeText).getD "<function generate_lorem_ipsum>"
  | method owner n => "<bound method " ++ n ++ " of " ++ owner.inspect ++ ">"
  | object .cycler _ _ => "<jinja2.utils.Cycler object>"
  | object .joiner _ _ => "<jinja2.utils.Joiner object>"
  | object .namespaces _ _ => "<Namespace>"
  | loop i items _ _ _ =>
    "<LoopContext " ++ toString (i + 1) ++ "/" ++ toString items.length ++ ">"
  | definition d => "<Macro " ++ (d.name.map Text.quoted).getD "anonymous" ++ ">"
  | self t => "<TemplateReference " ++ templateText t ++ ">"
  | block _ _ => "<BlockReference>"
  | module t _ _ _ => "<TemplateModule " ++ templateText t ++ ">"

def inspectAll : List Value → List String
  | [] => []
  | v :: vs => v.inspect :: inspectAll vs

def inspectPairs (between : String) (keys : List String) : List Value → List String
  | [] => []
  | v :: vs => (keys.headD "" ++ between ++ v.inspect) :: inspectPairs between keys.tail vs

end

def display : Value → String
  | undefined => ""
  | text s _ => s
  | module _ _ _ shown => shown
  | v => v.inspect

def isSafe : Value → Bool
  | text _ isSafe => isSafe
  | module _ _ _ _ => true
  | _ => false

def markup (v : Value) : String := if v.isSafe then v.display else escapedText v.display

mutual

def key? : Value → Option String
  | undefined => some "?"
  | null => some "-"
  | bool b => some (if b then "n1" else "n0")
  | int n => some ("n" ++ toString n)
  | real x =>
    some <|
      if x.isFinite && x == x.floor then "n" ++ toString (Decimal.truncated x)
      else "r" ++ Decimal.render Json.shownReal x
  | text s _ => some ("t" ++ Text.quoted s)
  | tuple vs => (keys? vs).map fun ks => "(" ++ Text.joinWith "," ks ++ ")"
  | range start stop step => some (rangeText start stop step)
  | typeOf n => some ("c" ++ n)
  | builtin b => some ("b" ++ (typeNames.lookup b).getD "")
  | object _ _ m => some ("o" ++ toString m)
  | _ => none

def keys? : List Value → Option (List String)
  | [] => some []
  | v :: vs => do return (← v.key?) :: (← keys? vs)

end

def lookup (key : String) : List Value → List Value → Option Value
  | k :: ks, v :: vs => if k.key? = some key then some v else lookup key ks vs
  | _, _ => none

def compareNumbers? : Value → Value → Option (Option Ordering)
  | real x, real y =>
    some (if x < y then some .lt else if x == y then some .eq else if y < x then some .gt else none)
  | real x, v => v.whole?.map (Decimal.compareWhole x)
  | v, real y => v.whole?.map fun n => (Decimal.compareWhole y n).map Ordering.swap
  | v, w => do return some (compare (← v.whole?) (← w.whole?))

mutual

def same : Value → Value → Bool
  | undefined, undefined | null, null => true
  | text s _, text t _ => s == t
  | list vs, list ws | tuple vs, tuple ws => sameAll vs ws
  | dict ks vs, dict ls ws => vs.length == ws.length && sameEntries (keys? ks) vs ls ws
  | range a b c, range a' b' c' =>
    let n := rangeSize a b c
    n == rangeSize a' b' c' && (n == 0 || (a == a' && (n == 1 || c == c')))
  | view .keys ks _, view .keys ls _ =>
    ks.length == ls.length && ks.all fun k => ls.any fun l => k.key? == l.key?
  | typeOf n, typeOf m => n == m
  | builtin b, builtin c => b == c
  | builtin b, typeOf n | typeOf n, builtin b => typeNames.lookup b == some n
  | object _ _ m, object _ _ n => m == n
  | loop i _ _ m _, loop j _ _ n _ => i == j && m == n
  | v, w => compareNumbers? v w == some (some .eq)

def sameAll : List Value → List Value → Bool
  | [], [] => true
  | v :: vs, w :: ws => v.same w && sameAll vs ws
  | _, _ => false

def sameEntries (keys : Option (List String)) : List Value → List Value → List Value → Bool
  | [], _, _ => true
  | v :: vs, ls, ws =>
    match keys with
    | some (k :: ks) =>
      (match lookup k ls ws with
        | some w => v.same w
        | none => false) && sameEntries (some ks) vs ls ws
    | _ => false

end

mutual

def order? : Value → Value → Option (Option Ordering)
  | text s _, text t _ => some (some (compare s t))
  | list vs, list ws | tuple vs, tuple ws => orderAll? vs ws
  | v, w => compareNumbers? v w

def orderAll? : List Value → List Value → Option (Option Ordering)
  | [], [] => some (some .eq)
  | [], _ :: _ => some (some .lt)
  | _ :: _, [] => some (some .gt)
  | v :: vs, w :: ws => if v.same w then orderAll? vs ws else v.order? w

end

def isLess? (v w : Value) : Option Bool := (v.order? w).map (· == some .lt)

end Value

end RealmModels.Template
