import RealmModels.Template.Expression
import RealmModels.Template.Piece

namespace RealmModels.Template

namespace Parser

def maxNesting : Nat := 70

def expr : Parser Expr := expression maxNesting

def closing : Parser Unit := do
  match ← get with
  | .closing :: ts => set ts
  | _ => failure

def newName : Parser String := do
  let n ← name
  if (constant? n).isSome then failure
  return n

end Parser

mutual

def Target.ofExpr? : Expr → Option Target
  | .var n => some (.name n)
  | .tuple es => do return .parts (← Target.ofExprs? es)
  | _ => none

def Target.ofExprs? : List Expr → Option (List Target)
  | [] => some []
  | e :: es => do return (← Target.ofExpr? e) :: (← Target.ofExprs? es)

end

namespace Parser

def targetPart (allowsAttributes : Bool) : Parser Target := do
  match ← get with
  | .name owner :: .mark "." :: .name n :: ts =>
    if !allowsAttributes || (constant? owner).isSome then failure
    set ts
    return .member owner n
  | _ =>
    match Target.ofExpr? (← primary expr) with
    | some t => return t
    | none => failure

def target (allowsAttributes : Bool) (words : List String) : Parser Target := do
  match ← separated (targetPart allowsAttributes) (endsHere words) ((← get).length + 1) with
  | ([t], false) => return t
  | (ts, hasComma) => if hasComma then return .parts ts else failure

def parameterList : Nat → Parser (List (String × Option Expr))
  | 0 => failure
  | fuel + 1 => do
    let n ← newName
    let default ← if ← mark? "=" then some <$> expr else pure none
    if ← mark? ")" then return [(n, default)]
    mark ","
    let more ← parameterList fuel
    if default.isSome && more.any (·.2.isNone) then failure
    return (n, default) :: more

def parameters : Parser Parameters := do
  mark "("
  if ← mark? ")" then return ⟨[], []⟩
  let ps ← parameterList ((← get).length + 1)
  return ⟨ps.map Prod.fst, ps.filterMap Prod.snd⟩

def filters : Nat → Expr → Parser Expr
  | 0, e => return e
  | fuel + 1, e => do
    if ← mark? "|" then filters fuel (← filter expr e) else return e

def contextChoice (default : Bool) : Parser Bool := do
  if ← words? "with" "context" then return true
  else if ← words? "without" "context" then return false
  else return default

def loadedNames : Nat → Parser (List (String × String) × Bool)
  | 0 => failure
  | fuel + 1 => do
    if ← words? "with" "context" then return ([], true)
    if ← words? "without" "context" then return ([], false)
    let n ← newName
    if n.startsWith "_" then failure
    let new ← if ← word? "as" then newName else pure n
    if ← mark? "," then
      let (more, withContext) ← loadedNames fuel
      return ((n, new) :: more, withContext)
    return ([(n, new)], ← contextChoice false)

def assignments : Nat → Parser (List (Target × Expr))
  | 0 => failure
  | fuel + 1 => do
    let t ← target false []
    mark "="
    let e ← expr
    if ← mark? "," then return (t, e) :: (← assignments fuel) else return [(t, e)]

def printedExprs : Parser (List Expr) := do
  match ← get with
  | .closing :: _ => return []
  | _ => between expr "," ((← get).length + 1)

def isBlankText : Node → Bool
  | .text s => s.toList.all Text.isBlank
  | _ => false

mutual

def nodes (ends : List String) : Nat → Parser (List Node)
  | 0 => failure
  | fuel + 1 => do
    match ← get with
    | [] => if ends.isEmpty then return [] else failure
    | .text s :: ts =>
      set ts
      return .text s :: (← nodes ends fuel)
    | .opening true :: ts =>
      set ts
      let e ← tuple expr false []
      closing
      return .print [e] :: (← nodes ends fuel)
    | .opening false :: .name w :: ts =>
      if ends.contains w then
        set (.name w :: ts)
        return []
      set ts
      let n ← statement w fuel
      closing
      return n :: (← nodes ends fuel)
    | _ => failure

def body (ends : List String) : Nat → Parser (List Node)
  | 0 => failure
  | fuel + 1 => do
    let _ ← mark? ":"
    closing
    nodes ends fuel

def bodyTo (ending : String) : Nat → Parser (List Node)
  | 0 => failure
  | fuel + 1 => do
    let ns ← body [ending] fuel
    word ending
    return ns

def branch : Nat → Parser Node
  | 0 => failure
  | fuel + 1 => do
    let test ← tuple (disjunction expr) false []
    let yes ← body ["elif", "else", "endif"] fuel
    if ← word? "elif" then return .branch test yes [← branch fuel]
    else if ← word? "else" then return .branch test yes (← bodyTo "endif" fuel)
    else
      word "endif"
      return .branch test yes []

def statement (w : String) : Nat → Parser Node
  | 0 => failure
  | fuel + 1 =>
    match w with
    | "if" => branch fuel
    | "for" => do
      let t ← target false ["in"]
      word "in"
      let items ← tuple (disjunction expr) false ["recursive"]
      let test ← if ← word? "if" then some <$> expr else pure none
      let isRecursive ← word? "recursive"
      let each ← body ["endfor", "else"] fuel
      if ← word? "endfor" then return .loop t items test isRecursive each []
      word "else"
      return .loop t items test isRecursive each (← bodyTo "endfor" fuel)
    | "set" => do
      let t ← target true []
      if ← mark? "=" then return .assign t (← tuple expr false [])
      let shown ← filters (← get).length .printed
      return .capture t shown (← bodyTo "endset" fuel)
    | "with" => do
      let bound ← match ← get with
        | .closing :: _ => pure []
        | _ => assignments ((← get).length + 1)
      if ← isNext ":" then failure
      return .scope (bound.map Prod.fst) (bound.map Prod.snd) (← bodyTo "endwith" fuel)
    | "filter" => do
      let shown ← filters (← get).length (← filter expr .printed)
      return .filtered shown (← bodyTo "endfilter" fuel)
    | "macro" => do
      let n ← newName
      let ps ← parameters
      return .define n ps (← bodyTo "endmacro" fuel)
    | "call" => do
      let ps ← if ← isNext "(" then parameters else pure ⟨[], []⟩
      match ← expr with
      | .call callee shape es => return .callWith callee shape es ps (← bodyTo "endcall" fuel)
      | _ => failure
    | "autoescape" => do
      let e ← expr
      return .escaping e (← bodyTo "endautoescape" fuel)
    | "block" => do
      let n ← name
      let isScoped ← word? "scoped"
      let isRequired ← word? "required"
      let ns ← bodyTo "endblock" fuel
      if isRequired && !ns.all isBlankText then failure
      let _ ← word? n
      return .block n isScoped isRequired ns
    | "print" => do return .print (← printedExprs)
    | "extends" => do return .inherit (← expr)
    | "include" => do
      let e ← expr
      let mayMiss ← words? "ignore" "missing"
      return .insert e mayMiss (← contextChoice true)
    | "import" => do
      let e ← expr
      word "as"
      let n ← newName
      return .load e n (← contextChoice false)
    | "from" => do
      let e ← expr
      word "import"
      let (ns, withContext) ← loadedNames ((← get).length + 1)
      return .loadNames e ns withContext
    | _ => failure

end

def template : Parser (List Node) := do nodes [] (4 * (← get).length + 4)

end Parser

end RealmModels.Template
