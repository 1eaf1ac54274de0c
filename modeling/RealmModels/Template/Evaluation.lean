import RealmModels.Template.Memory

namespace RealmModels.Template

inductive Task where
  | nodes (p : Place) (ns : List Node)
  | again (a : Again) (vs : List Value) (depth : Nat)
  | template (t : Named) (p : Place)

namespace Rendering

def outermost (p : Place) : List Nat := p.scopes.drop (p.scopes.length - 2)

def blockPlace (p : Place) (n : String) (level : Nat) (isScoped : Bool) (b : Block) :
    Rendering Place := do
  let around ← if isScoped then do pure [← new [], ← new (← visible p.scopes)]
    else pure (outermost p)
  let outer := { p with
    scopes := around, escapes := b.escapes, isKept := true, block := some (n, level),
    known := [], hidden := [] }
  within outer [] (Node.allSymbols [] b.body)

def call (enter : Task → Rendering String) (p : Place) (v : Value) (a : Arguments) :
    Rendering Value := do
  match v with
  | .builtin b => callBuiltin b a
  | .method (.loop index _ _ i _) n => callLoop index i n a
  | .method (.object k items i) n => callObject k items i n a
  | .method owner n =>
    if owner.isChanger n then return (← orFail (owner.change n a)).1
    orFail (owner.callMethod n a)
  | .object .joiner items i => callJoiner items i a
  | .loop _ _ depth _ (some again) =>
    match ← orFail (a.bind [("iterable", none)]) with
    | [items] =>
      let shown ← enter (.again again (← orFail items.entries?) (depth + 1))
      return .text shown again.place.escapes
    | _ => throw .failed
  | .definition d => do
    let (bound, defaults) ← orFail (parameterValues d a)
    let body := defaults.map (fun (n, e) => .assign (.name n) e) ++ d.body
    let inner ← within { d.place with isKept := true } bound (Node.allSymbols [] body)
    let shown ← enter (.nodes inner body)
    return .text shown p.escapes
  | .block n level => do
    let _ ← orFail (a.bind [])
    let b ← orFail (← block? p n level)
    let shown ← enter (.nodes (← blockPlace p n level false b) b.body)
    return .text shown p.escapes
  | _ => throw .failed

def position (vs : List Value) (key : Value) : Option Nat :=
  key.whole?.map fun i : Int => (if i < 0 then i + vs.length else i).toNat

end Rendering

namespace Expr

open Rendering

mutual

def eval (enter : Task → Rendering String) (p : Place) : Expr → Rendering Value
  | .const v => return .ofJson v
  | .var n => variableValue p n
  | .printed => do
    let shown ← match p.printed with
      | some i => read? i ""
      | none => pure none
    return shown.getD .undefined
  | .missing => return .undefined
  | .list es => do return .list (← evalAll enter p es)
  | .tuple es => do return .tuple (← evalAll enter p es)
  | .dict keys values => do
    let ks ← evalAll enter p keys
    let vs ← evalAll enter p values
    let (ks, vs) ← orFail (Value.putAll? ([], []) (ks.zip vs))
    return .dict ks vs
  | .member e n => do Rendering.member p (← eval enter p e) n
  | .item e key => do
    let v ← eval enter p e
    Rendering.item p v (← eval enter p key)
  | .slice e start stop step => do
    let v ← eval enter p e
    let first ← eval enter p start
    let last ← eval enter p stop
    orFail (v.slice first last (← eval enter p step))
  | .call callee shape es => do
    let f ← eval enter p callee
    let a ← orFail (Arguments.ofShape shape (← evalAll enter p es))
    match f with
    | .method owner n =>
      if owner.isChanger n then
        let (v, changed) ← orFail (owner.change n a)
        storeOwner enter p changed callee
        return v
      else Rendering.call enter p f a
    | f => Rendering.call enter p f a
  | .filter n e shape es => do
    let v ← eval enter p e
    let a ← orFail (Arguments.ofShape shape (← evalAll enter p es))
    orFail (Value.filter? p.escapes Value.maxFilterDepth v n a)
  | .test n e shape es => do
    let v ← eval enter p e
    let a ← orFail (Arguments.ofShape shape (← evalAll enter p es))
    return .bool (← orFail (v.passes? n a))
  | .not e => do return .bool !(← eval enter p e).truthy
  | .negative e => do orFail (← eval enter p e).negative
  | .positive e => do orFail (← eval enter p e).positive
  | .arithmetic op a b => do
    let v ← eval enter p a
    orFail (Value.arithmetic op v (← eval enter p b))
  | .concat es => do
    return Value.concat (allConstant es || !p.escapes) (← evalAll enter p es)
  | .compare first relations others => do compareAll enter p (← eval enter p first) relations others
  | .and a b => do
    let v ← eval enter p a
    if v.truthy then eval enter p b else return v
  | .or a b => do
    let v ← eval enter p a
    if v.truthy then return v else eval enter p b
  | .choice c a b => do
    if (← eval enter p c).truthy then eval enter p a else eval enter p b

def evalAll (enter : Task → Rendering String) (p : Place) : List Expr → Rendering (List Value)
  | [] => return []
  | e :: es => do
    let v ← eval enter p e
    return v :: (← evalAll enter p es)

def compareAll (enter : Task → Rendering String) (p : Place) (v : Value) :
    List Relation → List Expr → Rendering Value
  | r :: rs, e :: es => do
    let w ← eval enter p e
    if ← orFail (v.holds? r w) then
      if es.isEmpty then return .bool true else compareAll enter p w rs es
    else return .bool false
  | _, _ => return .bool true

def storeOwner (enter : Task → Rendering String) (p : Place) (changed : Value) :
    Expr → Rendering Unit
  | .member e _ | .item e _ => store enter p changed e
  | _ => return

def store (enter : Task → Rendering String) (p : Place) (changed : Value) :
    Expr → Rendering Unit
  | .var n => do
    if let some i ← owner? p.scopes n then write i n changed
  | .member e n => do
    match ← eval enter p e with
    | .object .namespaces _ i => write i n changed
    | .dict ks vs =>
      let (ks, vs) ← orFail (Value.putEntry? (.plain n) changed (ks, vs))
      store enter p (.dict ks vs) e
    | _ => return
  | .item e key => do
    let v ← eval enter p e
    let k ← eval enter p key
    match v, k with
    | .object .namespaces _ i, .text n _ => write i n changed
    | .dict ks vs, k =>
      let (ks, vs) ← orFail (Value.putEntry? k changed (ks, vs))
      store enter p (.dict ks vs) e
    | .list vs, k =>
      if let some i := position vs k then store enter p (.list (vs.set i changed)) e
    | _, _ => return
  | _ => return

end

end Expr

end RealmModels.Template
