import RealmModels.Template.Test
import RealmModels.Template.TextFilter

namespace RealmModels.Template.Value

def path : Value → List Value
  | null => []
  | text s _ => (Text.cutAt '.' s.toList).map fun cs =>
    match Text.leadingNumber cs with
    | (some n, []) => int n
    | _ => chars cs
  | v => [v]

def follow (default : Value) (steps : List Value) (v : Value) : Option Value :=
  steps.foldlM
    (fun v step => do
      match ← v.item step, default with
      | undefined, null => some undefined
      | undefined, w => some w
      | w, _ => some w) v

def caseless (isExact : Value) (v : Value) : Value :=
  match v with
  | text s isSafe => if isExact.truthy then v else text (String.ofList (Text.lower s.toList)) isSafe
  | v => v

def sortKey (isExact part v : Value) : Option Value := do
  let paths := match part with
    | text s _ => (Text.cutAt ',' s.toList).map fun cs => (chars cs).path
    | a => [a.path]
  return list (← paths.mapM fun p => (follow null p v).map (caseless isExact))

def sortedBy? (key : Value → Option Value) (isReverse : Bool) (vs : List Value) :
    Option (List Value) := do
  let keyed ← vs.mapM fun v => (key v).map ((·, v))
  return (← sorted? (fun a b => a.1.isLess? b.1) isReverse keyed).map Prod.snd

def extreme? (isLargest : Bool) (key : Value → Option Value) (vs : List Value) :
    Option Value := do
  match ← vs.mapM fun v => (key v).map ((·, v)) with
  | [] => return undefined
  | first :: others =>
    let found ← others.foldlM
      (fun best v => do
        let isBetter ← if isLargest then best.1.isLess? v.1 else v.1.isLess? best.1
        return if isBetter then v else best) first
    return found.2

def distinct? (key : Value → Option Value) (seen : List String) : List Value → Option (List Value)
  | [] => some []
  | v :: vs => do
    let k ← (← key v).key?
    if seen.contains k then distinct? key seen vs
    else return v :: (← distinct? key (k :: seen) vs)

def grouped : List (Value × Value) → List (Value × List Value)
  | [] => []
  | (k, v) :: rest =>
    match grouped rest with
    | (l, vs) :: groups =>
      if k.same l then (k, v :: vs) :: groups else (k, [v]) :: (l, vs) :: groups
    | [] => [(k, [v])]

def groups? (v part default isExact : Value) : Option Value := do
  let key := fun w => follow default part.path w
  let keyed ← (← v.entries?).mapM fun w => (key w).map fun k => (caseless isExact k, w)
  let found := grouped (← sorted? (fun a b => a.1.isLess? b.1) false keyed)
  return list (← found.mapM fun (_, vs) => do
    match vs with
    | w :: _ => return tuple [← key w, list vs]
    | [] => none)

def batches (n : Nat) (fill : Value) (fuel : Nat) (vs : List Value) : List Value :=
  match fuel with
  | 0 => []
  | fuel + 1 =>
    if vs.isEmpty then []
    else
      let piece := vs.take n
      let piece := match fill with
        | null => piece
        | w => piece ++ List.replicate (n - piece.length) w
      list piece :: batches n fill fuel (vs.drop n)

def slices (n : Nat) (fill : Value) (vs : List Value) : List Value :=
  let size := vs.length / n
  let longer := vs.length % n
  (List.range n).map fun i : Nat =>
    let start := i * size + (if i < longer then i else longer)
    let piece := (vs.drop start).take (if i < longer then size + 1 else size)
    list <| match fill with
      | null => piece
      | w => if i < longer then piece else piece ++ [w]

def chosen? (isWanted hasAttribute : Bool) (v : Value) (a : Arguments) : Option Value := do
  if !v.truthy then return stream []
  let (steps, places) ← match hasAttribute, a.places with
    | false, ps => some ([], ps)
    | true, p :: ps => some (p.path, ps)
    | true, [] => none
  let test := fun w : Value => match places with
    | [] => some w.truthy
    | text n _ :: ps => w.passes? n ⟨ps, a.named⟩
    | _ => none
  let kept ← (← v.entries?).filterM fun w => do return (← test (← follow null steps w)) == isWanted
  return stream kept

def ofSize (v : Value) (a : Arguments) : Option Value := do
  let _ ← a.unnamed 0 0
  v.size?.map fun n => int n

def orElse (v : Value) (a : Arguments) : Option Value := do
  match ← a.bind [("default_value", some (plain "")), ("boolean", some (bool false))] with
  | [other, isBroad] =>
    match v with
    | undefined => some other
    | v => some (if isBroad.truthy && !v.truthy then other else v)
  | _ => none

mutual

def arranged : Value → Value
  | list vs => list (allArranged vs)
  | tuple vs => tuple (allArranged vs)
  | dict ks vs =>
    let entries := ks.zip (allArranged vs)
    let (ks, vs) := ((sorted? (fun e f => e.1.isLess? f.1) false entries).getD entries).unzip
    dict ks vs
  | v => v

def allArranged : List Value → List Value
  | [] => []
  | v :: vs => v.arranged :: allArranged vs

end

def entryFilter? (escapes : Bool) (v : Value) (n : String) (a : Arguments) : Option Value := do
  match n with
  | "default" | "d" => v.orElse a
  | "length" | "count" => v.ofSize a
  | "attr" =>
    match v, ← a.bind [("name", none)] with
    | undefined, _ => none
    | v, [text s _] => some ((v.attribute? s).getD undefined)
    | _, _ => none
  | "first" =>
    let _ ← a.bind []
    v.entries?.map fun vs => vs.headD undefined
  | "random" =>
    let _ ← a.bind []
    match v with
    -- any entry would do
    | list _ | tuple _ | text _ _ | range _ _ _ => v.entries?.map fun vs => vs.headD undefined
    | v => if v.size? = some 0 then some undefined else none
  | "last" =>
    let _ ← a.bind []
    match v with
    | stream _ => none
    | v => (v.entries?).map fun vs => vs.getLast?.getD undefined
  | "list" =>
    let _ ← a.bind []
    v.entries?.map list
  | "items" =>
    let _ ← a.bind []
    match v with
    | undefined => some (stream [])
    | dict ks vs => some (stream (viewItems .items ks vs))
    | _ => none
  | "join" =>
    match ← a.bind [("d", some (plain "")), ("attribute", some null)] with
    | [between, part] =>
      let vs ← (← v.entries?).mapM fun w => follow null part.path w
      some (joined escapes vs between)
    | _ => none
  | "sum" =>
    match ← a.bind [("attribute", some null), ("start", some (int 0))] with
    | [part, start] =>
      match start with
      | text _ _ => none
      | start =>
        let vs ← (← v.entries?).mapM (follow null part.path)
        vs.foldlM (arithmetic .add) start
    | _ => none
  | "min" | "max" =>
    match ← a.bind [("case_sensitive", some (bool false)), ("attribute", some null)] with
    | [isExact, part] =>
      extreme? (n = "max") (fun w => (follow null part.path w).map (caseless isExact))
        (← v.entries?)
    | _ => none
  | "sort" =>
    match ← a.bind [("reverse", some (bool false)), ("case_sensitive", some (bool false)),
        ("attribute", some null)] with
    | [isReverse, isExact, part] =>
      (sortedBy? (sortKey isExact part) isReverse.truthy (← v.entries?)).map list
    | _ => none
  | "unique" =>
    match ← a.bind [("case_sensitive", some (bool false)), ("attribute", some null)] with
    | [isExact, part] =>
      (distinct? (fun w => (follow null part.path w).map (caseless isExact)) []
        (← v.entries?)).map stream
    | _ => none
  | "groupby" =>
    match ← a.bind [("attribute", none), ("default", some null),
        ("case_sensitive", some (bool false))] with
    | [part, default, isExact] => groups? v part default isExact
    | _ => none
  | "dictsort" =>
    match v, ← a.bind [("case_sensitive", some (bool false)), ("by", some (plain "key")),
        ("reverse", some (bool false))] with
    | dict ks vs, [isExact, text by' _, isReverse] =>
      let i ← if by' = "key" then some 0 else if by' = "value" then some 1 else none
      let key := fun pair : Value => (pair.ownItem? (int i)).map (caseless isExact)
      (sortedBy? key isReverse.truthy (viewItems .items ks vs)).map list
    | _, _ => none
  | "batch" =>
    match ← a.bind [("linecount", none), ("fill_with", some null)] with
    | [size, fill] =>
      let m ← size.whole?
      let vs ← v.entries?
      if m ≤ 0 && !vs.isEmpty then none
      some (stream (batches m.toNat fill (vs.length + 1) vs))
    | _ => none
  | "slice" =>
    match ← a.bind [("slices", none), ("fill_with", some null)] with
    | [count, fill] =>
      let m ← count.whole?
      let vs ← v.entries?
      if m = 0 || m > maxRange then none
      some (stream (slices m.toNat fill vs))
    | _ => none
  | "reverse" =>
    let _ ← a.bind []
    match v with
    | text s isSafe => some (text (String.ofList s.toList.reverse) isSafe)
    | stream vs => some (list vs.reverse)
    | v => v.entries?.map fun vs => stream vs.reverse
  | "select" => chosen? true false v a
  | "reject" => chosen? false false v a
  | "selectattr" => chosen? true true v a
  | "rejectattr" => chosen? false true v a
  | "pprint" =>
    let _ ← a.bind []
    some (plain v.arranged.inspect)
  | n => textFilter? escapes v n a

def maxFilterDepth : Nat := 20

def filter? (escapes : Bool) : Nat → Value → String → Arguments → Option Value
  | 0, _, _, _ => none
  | fuel + 1, v, "map", a => do
    if !v.truthy then return stream []
    match a.places, Json.lookup "attribute" a.named with
    | [], some part =>
      let default := (Json.lookup "default" a.named).getD null
      if a.named.any fun m => m.1 ≠ "attribute" && m.1 ≠ "default" then none
      return stream (← (← v.entries?).mapM (follow default part.path))
    | text n _ :: places, _ =>
      return stream (← (← v.entries?).mapM fun w => filter? escapes fuel w n ⟨places, a.named⟩)
    | _, _ => none
  | _ + 1, v, n, a => entryFilter? escapes v n a

end RealmModels.Template.Value
