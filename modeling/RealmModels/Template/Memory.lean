import RealmModels.Template.Filter
import RealmModels.Template.Symbols

namespace RealmModels.Template

structure Named where
  name : Option String
  escapes : Bool
  nodes : List Node

structure Memory where
  cells : Array (List (String × Value)) := #[]
  taken : List (Nat × String) := []
  extended : Option Named := none

abbrev Rendering := StateT Memory (Except Trouble)

def Named.extend (t : Named) (blocks : List (String × List Block)) : List (String × List Block) :=
  (Node.allBlocks t.nodes).foldl
    (fun found m =>
      match m with
      | (n, .block _ _ isRequired body) =>
        Json.put n ((Json.lookup n found).getD [] ++ [⟨t.escapes, isRequired, body⟩]) found
      | _ => found) blocks

def Named.place (t : Named) (scopes : List Nat) : Place :=
  { scopes, escapes := t.escapes, template := t.name, blocks := t.extend [] }

namespace Rendering

def orFail {α : Type} : Option α → Rendering α
  | some a => return a
  | none => throw .failed

/-- Only what can be gone through more than once is remembered. -/
def new (values : List (String × Value)) : Rendering Nat :=
  if values.any (·.2.isPassing) then throw .failed
  else modifyGet fun m => (m.cells.size, { m with cells := m.cells.push values })

def cell (i : Nat) : Rendering (List (String × Value)) := do return ((← get).cells[i]?).getD []

def read? (i : Nat) (n : String) : Rendering (Option Value) := do return Json.lookup n (← cell i)

def write (i : Nat) (n : String) (v : Value) : Rendering Unit :=
  if v.isPassing then throw .failed
  else modify fun m => { m with cells := m.cells.modify i (Json.put n v) }

def owner? (scopes : List Nat) (n : String) : Rendering (Option Nat) := do
  let cells := (← get).cells
  return scopes.find? fun i => (Json.lookup n (cells[i]?.getD [])).isSome

def knowing (p : Place) (symbols : Symbols) : Place :=
  { p with
    known := p.known ++ symbols.map Prod.fst
    hidden := p.hidden ++ (symbols.filter fun s => s.2 && !p.known.contains s.1).map Prod.fst }

def within (p : Place) (values : List (String × Value)) (symbols : Symbols) : Rendering Place := do
  let own := knowing { p with known := p.known ++ values.map Prod.fst } symbols
  return { own with scopes := (← new values) :: p.scopes }

def visible (scopes : List Nat) : Rendering (List (String × Value)) := do
  let cells := (← get).cells
  return scopes.foldr (fun i found => Json.putAll found (cells[i]?.getD [])) []

def assign (p : Place) (n : String) (v : Value) : Rendering Unit :=
  match p.scopes with
  | i :: _ => do
    write i n v
    modify fun m => { m with taken := m.taken.filter (· ≠ (i, n)) }
  | [] => throw .failed

def take (p : Place) (n : String) (v : Value) : Rendering Unit := do
  assign p n v
  modify fun m => { m with taken := (p.scopes.headD 0, n) :: m.taken }

def exports (i : Nat) : Rendering (List (String × Value)) := do
  let taken := (← get).taken
  return (← cell i).filter fun m => !m.1.startsWith "_" && !taken.contains (i, m.1)

def builtin? : String → Option Builtin
  | "range" => some .range
  | "dict" => some .dict
  | "lipsum" => some .lipsum
  | "cycler" => some .cycler
  | "joiner" => some .joiner
  | "namespace" => some .namespaces
  | _ => none

def bodies (p : Place) (n : String) : Rendering (List Block) := do
  let blocks := match (← get).extended with
    | some t => t.extend p.blocks
    | none => p.blocks
  return (Json.lookup n blocks).getD []

def block? (p : Place) (n : String) (level : Nat) : Rendering (Option Block) := do
  return (← bodies p n)[level]?

def commonValue (p : Place) (n : String) : Rendering Value := do
  match n, p.block with
  | "self", _ => return .self p.template
  | "super", some (name, level) =>
    return if (← block? p name (level + 1)).isSome then .block name (level + 1) else .undefined
  | _, _ => return ((builtin? n).map Value.builtin).getD .undefined

def variableValue (p : Place) (n : String) : Rendering Value := do
  match ← owner? p.scopes.dropLast n with
  | some i => return (← read? i n).getD .undefined
  | none =>
    if p.hidden.contains n then return .undefined
    match ← owner? p.scopes n with
    | some i => return (← read? i n).getD .undefined
    | none => commonValue p n

def member (p : Place) (v : Value) (n : String) : Rendering Value := do
  match v with
  | .object .namespaces _ i => return ((← read? i n).or (v.attribute? n)).getD .undefined
  | .object .cycler items i =>
    if n = "current" || n = "pos" then
      let pos ← read? i "pos"
      if n = "pos" then return pos.getD .undefined
      return ((pos.bind Value.whole?).bind (Value.nth? items)).getD .undefined
    else orFail (v.member n)
  | .object .joiner _ i => if n = "used" then return (← read? i n).getD .undefined else orFail (v.member n)
  | .self _ => return if (← block? p n 0).isSome then .block n 0 else .undefined
  | .block name level =>
    if n = "super" && (← block? p name (level + 1)).isSome then return .block name (level + 1)
    orFail (v.member n)
  | v => orFail (v.member n)

def item (p : Place) (v key : Value) : Rendering Value :=
  match v, key with
  | .object _ _ _, .text n _ | .self _, .text n _ | .block _ _, .text n _ => member p v n
  | v, key => orFail (v.item key)

def callObject (k : Kind) (items : List Value) (i : Nat) (n : String) (a : Arguments) :
    Rendering Value := do
  let _ ← orFail (a.unnamed 0 0)
  match k, n with
  | .cycler, "next" =>
    let pos := (((← read? i "pos").bind Value.whole?).getD 0).toNat
    write i "pos" (.int ((pos + 1) % items.length : Nat))
    return items[pos]?.getD .undefined
  | .cycler, "reset" =>
    write i "pos" (.int 0)
    return .null
  | _, _ => throw .failed

def callLoop (index i : Nat) (n : String) (a : Arguments) : Rendering Value := do
  let vs ← orFail (a.unnamed 0 a.places.length)
  match n with
  | "cycle" => orFail (if vs.isEmpty then none else vs[index % vs.length]?)
  | "changed" =>
    let now := Value.tuple vs
    if (← read? i "last").any now.same then return .bool false
    write i "last" now
    return .bool true
  | _ => throw .failed

def callBuiltin (b : Builtin) (a : Arguments) : Rendering Value := do
  match b with
  | .range =>
    match ← orFail ((a.unnamed 1 3).bind fun vs => vs.mapM Value.whole?) with
    | [stop] => return .range 0 stop 1
    | [start, stop] => return .range start stop 1
    | [start, stop, step] => if step = 0 then throw .failed else return .range start stop step
    | _ => throw .failed
  | .dict => do
    let (ks, vs) ← orFail (Value.gathered? ([], []) a)
    return .dict ks vs
  | .cycler => do
    if a.places.isEmpty || !a.named.isEmpty then throw .failed
    return .object .cycler a.places (← new [("pos", .int 0)])
  | .joiner => do
    return .object .joiner (← orFail (a.bind [("sep", some (.plain ", "))]))
      (← new [("used", .bool false)])
  | .namespaces => do
    let (ks, vs) ← orFail (Value.gathered? ([], []) a)
    return .object .namespaces [] (← new ((ks.map Value.display).zip vs))
  | .lipsum => throw .failed

def callJoiner (items : List Value) (i : Nat) (a : Arguments) : Rendering Value := do
  let _ ← orFail (a.bind [])
  if ((← read? i "used").getD .undefined).truthy then return items.headD .undefined
  write i "used" (.bool true)
  return .plain ""

def parameterValues (d : Definition) (a : Arguments) :
    Option (List (String × Value) × List (String × Expr)) := do
  let ps := d.parameters.names
  let later := ps.drop a.places.length
  let passed := ps.zip a.places ++ later.filterMap fun n => (Json.lookup n a.named).map ((n, ·))
  let defaults := (ps.drop (ps.length - d.parameters.defaults.length)).zip d.parameters.defaults
  let open' := later.filter fun n => (Json.lookup n a.named).isNone
  let named := later.foldl (fun named n => Arguments.erase n named) a.named
  let takesCaller := Node.anyReads "caller" d.body &&
    !(if later.isEmpty then ps.contains "caller" else later.contains "caller")
  let caller := if takesCaller then [("caller", (Json.lookup "caller" named).getD .undefined)] else []
  let named := if takesCaller then Arguments.erase "caller" named else named
  let extra := a.places.drop ps.length
  if !named.isEmpty && !d.uses "kwargs" then none
  if !extra.isEmpty && !d.uses "varargs" then none
  let others := (if d.uses "kwargs" then
      [("kwargs", Value.dict (named.map fun m => .plain m.1) (named.map Prod.snd))] else []) ++
    (if d.uses "varargs" then [("varargs", Value.tuple extra)] else [])
  let undefined := open'.map ((·, Value.undefined))
  return (passed ++ caller ++ others ++ undefined,
    defaults.filter fun d => open'.contains d.1)

end Rendering

end RealmModels.Template
