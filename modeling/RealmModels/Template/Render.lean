import RealmModels.Template.Evaluation

namespace RealmModels.Template

structure Library where
  find : String → Option (Except Flaw (List Node))
  escapes : String → Bool
  takesAll : Bool

namespace Library

def get? (library : Library) (v : Value) : Rendering (Option Named) :=
  match v with
  | .undefined => throw .failed
  | .text s _ =>
    match library.find s with
    | some (.ok ns) => return some ⟨some s, library.escapes s, ns⟩
    | some (.error _) => throw .failed
    | none => return none
  | v => if library.takesAll && v.key?.isSome then return none else throw .failed

def get (library : Library) (v : Value) : Rendering Named := do
  match ← library.get? v with
  | some t => return t
  | none => throw .missing

def choose? (library : Library) (v : Value) : Rendering (Option Named) := do
  match v with
  | .undefined | .text _ _ => library.get? v
  | v =>
    if !v.truthy then return none
    (← Rendering.orFail v.entries?).foldlM
      (fun found w => do
        if found.isSome then return found
        match w with
        | .undefined => return none
        | w => library.get? w) none

end Library

namespace Rendering

mutual

def assignTarget (p : Place) : Target → Value → Rendering Unit
  | .name n, v => assign p n v
  | .member owner n, v => do
    match ← variableValue p owner with
    | .object .namespaces _ i => write i n v
    | _ => throw .failed
  | .parts ts, v => do
    let vs ← orFail v.entries?
    if vs.length = ts.length then assignTargets p ts vs else throw .failed

def assignTargets (p : Place) : List Target → List Value → Rendering Unit
  | t :: ts, v :: vs => do
    assignTarget p t v
    assignTargets p ts vs
  | _, _ => return

end

def isHidden (p : Place) : Rendering Bool := do return !p.isKept && (← get).extended.isSome

def isOutermost (p : Place) : Bool := p.scopes.length == 2

def segment (v : Value) : Rendering Segment :=
  if v.isPassing then throw .failed else return .value v.display v.isSafe

def text? : Value → Option String
  | .text s _ => some s
  | _ => none

def putThrough (enter : Task → Rendering String) (p : Place) (e : Expr) (printed : String) :
    Rendering Value := do
  let i ← new [("", .text printed p.escapes)]
  e.eval enter { p with printed := some i }

def entered (enter : Task → Rendering String) (a : Again) (vs : List Value) : Rendering (List Value) :=
  match a.test with
  | none => return vs
  | some e => vs.filterM fun v => do
    let inner ← within a.place [] (a.target.symbols [])
    assignTarget inner a.target v
    return (← e.eval enter inner).truthy

def goThrough {α : Type} (enter : Task → Rendering String) (a : Again)
    (seen : Nat → List Value → Nat → List (String × Value)) (vs : List Value)
    (body otherwise : Place → Rendering α) : Rendering (List α) := do
  let kept ← entered enter a vs
  if kept.isEmpty then
    return [← otherwise (← within a.place [] (Node.allSymbols [] a.otherwise))]
  let i ← new []
  let symbols := Node.allSymbols (a.target.symbols []) a.body
  kept.zipIdx.mapM fun (v, index) => do
    let inner ← within a.place (seen index kept i) symbols
    assignTarget inner a.target v
    body inner

def usesState (body otherwise : List Node) : Bool :=
  Node.anyReads "loop" body ||
    (Node.allBlocks (body ++ otherwise)).any fun m =>
      match m.2 with
      | .block _ isScoped _ _ => isScoped
      | _ => false

def usedPlace (t : Named) (p : Place) (withContext : Bool) : Rendering (Nat × Place) := do
  let own ← new []
  let context ← new (← if withContext then visible p.scopes else pure [])
  return (own, t.place [own, context])

end Rendering

namespace Node

open Rendering

mutual

def segments (library : Library) (enter : Task → Rendering String) (p : Place) :
    Node → Rendering (List Segment)
  | .text s => do return if ← isHidden p then [] else [.own s]
  | .print es => do
    if ← isHidden p then return []
    (← Expr.evalAll enter p es).mapM segment
  | .branch e body otherwise => do
    if (← e.eval enter p).truthy then allSegments library enter p body
    else allSegments library enter p otherwise
  | .loop target e test isRecursive body otherwise => do
    let vs ← orFail (← e.eval enter p).entries?
    let a : Again := ⟨target, test, body, otherwise, p⟩
    let seen := fun i vs m =>
      if isRecursive then [("loop", .loop i vs 1 m (some a))]
      else if usesState body otherwise then [("loop", .loop i vs 1 m none)]
      else []
    return (← goThrough enter a seen vs (fun inner => allSegments library enter inner body)
      fun inner => allSegments library enter inner otherwise).flatten
  | .assign target e => do
    assignTarget p target (← e.eval enter p)
    return []
  | .capture target e body => do
    let inner := { ← within p [] (allSymbols [] body) with isKept := true }
    let printed ← allSegments library enter inner body
    let v ← putThrough enter p e (Segment.shownAll p.escapes printed)
    assignTarget p target (if p.escapes then .text v.display true else v)
    return []
  | .scope targets es body => do
    let vs ← Expr.evalAll enter p es
    let inner ← within p [] (allSymbols (Target.allSymbols [] targets) body)
    assignTargets inner targets vs
    allSegments library enter inner body
  | .filtered e body => do
    let inner ← within p [] (e.symbols (allSymbols [] body))
    let printed ← allSegments library enter inner body
    return [.own (← orFail (text? (← putThrough enter p e (Segment.shownAll p.escapes printed))))]
  | .define n ps body => do
    Rendering.assign p n (.definition ⟨some n, ps, body, p⟩)
    return []
  | .callWith callee shape es ps body => do
    let f ← callee.eval enter p
    let a ← orFail (Arguments.ofShape shape (← Expr.evalAll enter p es))
    if (Json.lookup "caller" a.named).isSome then throw .failed
    let caller := Value.definition ⟨none, ps, body, p⟩
    return [.own (← orFail (text? (← call enter p f { a with named := a.named ++ [("caller", caller)] })))]
  | .escaping e body => do
    let escapes := (← e.eval enter p).truthy
    let printed ← allSegments library enter { ← within p [] (allSymbols [] body) with escapes } body
    return [.own (Segment.shownAll escapes printed)]
  | .block n isScoped isRequired _ => do
    if isOutermost p && (← isHidden p) then return []
    let bs ← bodies p n
    if isRequired && bs.length ≤ 1 then throw .failed
    let b ← orFail bs.head?
    return [.own (← enter (.nodes (← blockPlace p n 0 isScoped b) b.body))]
  | .inherit e => do
    if (← get).extended.isSome then throw .failed
    let t ← library.get (← e.eval enter p)
    modify fun m => { m with extended := some t }
    return []
  | .insert e mayMiss withContext => do
    match ← library.choose? (← e.eval enter p) with
    | some t =>
      let (_, inner) ← usedPlace t p withContext
      return [.own (← enter (.template t inner))]
    | none => if mayMiss then return [] else throw .missing
  | .load e n withContext => do
    let t ← library.get (← e.eval enter p)
    let (own, inner) ← usedPlace t p withContext
    let printed ← enter (.template t inner)
    let values ← exports own
    take p n (.module t.name (values.map Prod.fst) (values.map Prod.snd) printed)
    return []
  | .loadNames e names withContext => do
    let t ← library.get (← e.eval enter p)
    let (own, inner) ← usedPlace t p withContext
    let _ ← enter (.template t inner)
    let values ← exports own
    for (n, new) in names do
      take p new ((Json.lookup n values).getD .undefined)
    return []

def allSegments (library : Library) (enter : Task → Rendering String) (p : Place) :
    List Node → Rendering (List Segment)
  | [] => return []
  | n :: ns => do
    let printed ← segments library enter p n
    return printed ++ (← allSegments library enter p ns)

end

end Node

namespace Rendering

def templateSegments (library : Library) (enter : Task → Rendering String) (t : Named) (p : Place) :
    Rendering (List Segment) := do
  let around := (← get).extended
  modify fun m => { m with extended := none }
  let inner := knowing p (Node.allSymbols [] t.nodes)
  let printed ← Node.allSegments library enter inner t.nodes
  let extended := (← get).extended
  modify fun m => { m with extended := around }
  match extended with
  | none => return printed
  | some base =>
    let inner := { p with escapes := base.escapes, blocks := base.extend p.blocks }
    return printed ++ [.own (← enter (.template base inner))]

def run (library : Library) : Nat → Task → Rendering String
  | 0, _ => throw .failed
  | depth + 1, .nodes p ns => do
    return Segment.shownAll p.escapes (← Node.allSegments library (run library depth) p ns)
  | depth + 1, .again a vs level => do
    let seen := fun i vs m => [("loop", .loop i vs level m (some a))]
    let printed ← goThrough (run library depth) a seen vs
      (fun inner => Node.allSegments library (run library depth) inner a.body)
      fun inner => Node.allSegments library (run library depth) inner a.otherwise
    return Segment.shownAll a.place.escapes printed.flatten
  | depth + 1, .template t p => do
    return Segment.shownAll p.escapes (← templateSegments library (run library depth) t p)

end Rendering

def maxDepth : Nat := 229

def reservedName : String := "self"

def Memory.start? (context : Json) : Option Memory :=
  match context with
  | .obj members =>
    if (Json.lookup reservedName members).isSome then none
    else some ⟨#[[], members.map fun (n, v) => (n, Value.ofJson v)], [], none⟩
  | _ => none

def Named.printed (library : Library) (t : Named) (context : Json) : Except Trouble (List Segment) :=
  match Memory.start? context with
  | none => .error .failed
  | some start =>
    let enter := Rendering.run library maxDepth
    (StateT.run (Rendering.templateSegments library enter t (t.place [0, 1])) start).map Prod.fst

end RealmModels.Template
