import RealmModels.Template.Percent
import RealmModels.Text.Search

namespace RealmModels.Template.Value

def maxDigits : Nat := 4300

def wholeWithin (n : Int) : Option Value :=
  if n.natAbs < Decimal.tenTo maxDigits then some (int n) else none

def number? : Value → Option Float
  | real x => some x
  | v => v.whole?.bind Decimal.ofWhole?

def restOf (x y : Float) : Float :=
  if !x.isFinite || y.isNaN then 0.0 / 0.0 else if y.isInf then x else Decimal.remainder x y

def floorQuotient (x y : Float) : Option Float :=
  if y == 0.0 then none
  else
    let r := restOf x y
    let q := if r != 0.0 && (r < 0.0) != (y < 0.0) then (x - r) / y - 1.0 else (x - r) / y
    if q == 0.0 then some (if Decimal.twoTo 63 ≤ (x / y).toBits.toNat then -0.0 else 0.0)
    else some (if q - q.floor > 0.5 then q.floor + 1.0 else q.floor)

def floorRemainder (x y : Float) : Option Float :=
  if y == 0.0 then none
  else
    let r := restOf x y
    if r == 0.0 then some (if y < 0.0 then -0.0 else 0.0)
    else some (if (r < 0.0) != (y < 0.0) then r + y else r)

def realPower (x y : Float) : Option Value :=
  if x == 0.0 && y < 0.0 then none
  else if x < 0.0 && x.isFinite && y.isFinite && y != y.floor then none
  else
    let z := x.pow y
    if z.isInf && x.isFinite && y.isFinite then none else some (real z)

def wholePower (m n : Int) : Option Value :=
  if n < 0 then do realPower (← Decimal.ofWhole? m) (← Decimal.ofWhole? n)
  else if n = 0 then some (int 1)
  else if m.natAbs ≤ 1 then some (int (if n.toNat % 2 = 0 then m * m else m))
  else if n.toNat * m.natAbs.log2 > 4 * maxDigits then none
  else wholeWithin (Int.ofNat (Nat.pow m.natAbs n.toNat) *
    (if m < 0 && n.toNat % 2 = 1 then -1 else 1))

def wholeArithmetic (op : Arithmetic) (m n : Int) : Option Value :=
  match op with
  | .add => wholeWithin (m + n)
  | .sub => wholeWithin (m - n)
  | .mul => wholeWithin (m * n)
  | .div =>
    if n = 0 then none
    else (Decimal.ofRatio? ((m < 0) != (n < 0)) m.natAbs n.natAbs).map real
  | .floorDiv => if n = 0 then none else some (int (m.fdiv n))
  | .mod => if n = 0 then none else some (int (m.fmod n))
  | .pow => wholePower m n

def realArithmetic (op : Arithmetic) (x y : Float) : Option Value :=
  match op with
  | .add => some (real (x + y))
  | .sub => some (real (x - y))
  | .mul => some (real (x * y))
  | .div => if y == 0.0 then none else some (real (x / y))
  | .floorDiv => (floorQuotient x y).map real
  | .mod => (floorRemainder x y).map real
  | .pow => realPower x y

def append (s : String) (isSafe : Bool) (t : String) (isSafe' : Bool) : Value :=
  if isSafe || isSafe' then text ((text s isSafe).markup ++ (text t isSafe').markup) true
  else plain (s ++ t)

def maxRepeated : Nat := 10000000

def repeated? {α : Type} (as : List α) (n : Int) : Option (List α) :=
  if as.length * n.toNat ≤ maxRepeated then some (List.replicate n.toNat as).flatten else none

def repetition? (v : Value) (n : Int) : Option Value :=
  match v with
  | text s isSafe => (repeated? s.toList n).map fun cs => text (String.ofList cs) isSafe
  | list vs => (repeated? vs n).map list
  | tuple vs => (repeated? vs n).map tuple
  | _ => none

def arithmetic (op : Arithmetic) (v w : Value) : Option Value :=
  match v.whole?, w.whole? with
  | some m, some n => wholeArithmetic op m n
  | m?, n? =>
    match op, v, w with
    | .add, text s isSafe, text t isSafe' => some (append s isSafe t isSafe')
    | .add, list vs, list ws => some (list (vs ++ ws))
    | .add, tuple vs, tuple ws => some (tuple (vs ++ ws))
    | .mod, text s isSafe, w => Percent.format? s isSafe w
    | .mul, v, w =>
      match n?, m? with
      | some n, none => (v.repetition? n).or (do realArithmetic .mul (← v.number?) (← w.number?))
      | none, some m => (w.repetition? m).or (do realArithmetic .mul (← v.number?) (← w.number?))
      | _, _ => do realArithmetic .mul (← v.number?) (← w.number?)
    | op, v, w => do realArithmetic op (← v.number?) (← w.number?)

def negative : Value → Option Value
  | real x => some (real (-x))
  | v => v.whole?.map fun n => int (-n)

def positive : Value → Option Value
  | real x => some (real x)
  | v => v.whole?.map int

def isWithin? (v : Value) : Value → Option Bool
  | text t _ =>
    match v with
    | text s _ => some (Text.isWithin s.toList t.toList)
    | _ => none
  | dict ks _ | view .keys ks _ => v.key?.map fun k => ks.any fun l => l.key? == some k
  | range start stop step =>
    match v with
    | real x =>
      if x.isFinite && x == x.floor then
        some (contained (Decimal.truncated x) start stop step)
      else some false
    | v => some (v.whole?.any fun n => contained n start stop step)
  | w => w.entries?.map fun ws => ws.any v.same
where
  contained (n start stop step : Int) : Bool :=
    (n - start) % step == 0 && 0 ≤ (n - start) / step &&
      (n - start) / step < rangeSize start stop step

def holds? (r : Relation) (v w : Value) : Option Bool :=
  let ordered := fun (ok : Ordering → Bool) => (v.order? w).map fun o => o.any ok
  match r with
  | .equal => some (v.same w)
  | .unequal => some !(v.same w)
  | .less => ordered (· == .lt)
  | .lessOrEqual => ordered (· != .gt)
  | .greater => ordered (· == .gt)
  | .greaterOrEqual => ordered (· != .lt)
  | .within => v.isWithin? w
  | .notWithin => (v.isWithin? w).map (!·)

def concat (isConstant : Bool) (vs : List Value) : Value :=
  if !isConstant && vs.any isSafe then text (String.join (vs.map markup)) true
  else plain (String.join (vs.map display))

end RealmModels.Template.Value
