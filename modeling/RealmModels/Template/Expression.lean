import RealmModels.Template.Basic
import RealmModels.Template.Token

namespace RealmModels.Template

abbrev Parser := StateT (List Token) Option

namespace Parser

def mark? (m : String) : Parser Bool := do
  match ← get with
  | .mark m' :: ts =>
    if m' = m then
      set ts
      return true
    else return false
  | _ => return false

def mark (m : String) : Parser Unit := do
  if ← mark? m then return () else failure

def word? (w : String) : Parser Bool := do
  match ← get with
  | .name w' :: ts =>
    if w' = w then
      set ts
      return true
    else return false
  | _ => return false

def word (w : String) : Parser Unit := do
  if ← word? w then return () else failure

def words? (v w : String) : Parser Bool := do
  match ← get with
  | .name v' :: .name w' :: ts =>
    if v' = v && w' = w then
      set ts
      return true
    else return false
  | _ => return false

def name : Parser String := do
  match ← get with
  | .name n :: ts =>
    set ts
    return n
  | _ => failure

def isNext (m : String) : Parser Bool := do
  match ← get with
  | .mark m' :: _ => return m' == m
  | _ => return false

def endsHere (words : List String) : Parser Bool := do
  match ← get with
  | .closing :: _ => return true
  | .mark m :: _ => return m == ")"
  | .name w :: _ => return words.contains w
  | _ => return false

def constant? : String → Option Json
  | "true" | "True" => some (.bool true)
  | "false" | "False" => some (.bool false)
  | "none" | "None" => some .null
  | _ => none

def repeated (step : Expr → Parser (Option Expr)) : Nat → Expr → Parser Expr
  | 0, e => return e
  | fuel + 1, e => do
    match ← step e with
    | some e => repeated step fuel e
    | none => return e

def chain (operand : Parser Expr) (step : Expr → Parser (Option Expr)) : Parser Expr := do
  let e ← operand
  repeated step ((← get).length + 1) e

def separated {α : Type} (part : Parser α) (ends : Parser Bool) : Nat → Parser (List α × Bool)
  | 0 => failure
  | fuel + 1 => do
    if ← ends then return ([], false)
    let a ← part
    if ← mark? "," then
      let (more, _) ← separated part ends fuel
      return (a :: more, true)
    else return ([a], false)

def tuple (expr : Parser Expr) (mayBeEmpty : Bool) (words : List String) : Parser Expr := do
  match ← separated expr (endsHere words) ((← get).length + 1) with
  | ([e], false) => return e
  | (es, hasComma) => if hasComma || mayBeEmpty then return .tuple es else failure

def strings : Nat → String → Parser String
  | 0, s => return s
  | fuel + 1, s => do
    match ← get with
    | .string t :: ts =>
      set ts
      strings fuel (s ++ t)
    | _ => return s

def enclosed {α : Type} (part : Parser α) (closer : String) : Nat → Parser (List α)
  | 0 => failure
  | fuel + 1 => do
    if ← mark? closer then return []
    let a ← part
    if ← mark? "," then return a :: (← enclosed part closer fuel)
    mark closer
    return [a]

def entry (expr : Parser Expr) : Parser (Expr × Expr) := do
  let key ← expr
  mark ":"
  return (key, ← expr)

def primary (expr : Parser Expr) : Parser Expr := do
  let fuel := (← get).length + 1
  match ← get with
  | .name n :: ts =>
    set ts
    return (constant? n).elim (.var n) .const
  | .number v :: ts =>
    set ts
    return .const v
  | .string s :: ts =>
    set ts
    return .const (.str (← strings fuel s))
  | _ =>
    if ← mark? "(" then
      let e ← tuple expr true []
      mark ")"
      return e
    else if ← mark? "[" then return .list (← enclosed expr "]" fuel)
    else
      mark "\x7b"
      let entries ← enclosed (entry expr) "\x7d" fuel
      return .dict (entries.map Prod.fst) (entries.map Prod.snd)

structure Passed where
  places : List Expr := []
  named : List (String × Expr) := []
  items : Option Expr := none
  members : Option Expr := none

def Passed.shape (p : Passed) : Shape :=
  { places := p.places.length, names := p.named.map Prod.fst, spreadsItems := p.items.isSome,
    spreadsMembers := p.members.isSome }

def Passed.exprs (p : Passed) : List Expr :=
  p.places ++ p.named.map Prod.snd ++ p.items.toList ++ p.members.toList

def argument (expr : Parser Expr) (p : Passed) : Parser Passed := do
  if p.members.isSome then failure
  if ← mark? "*" then
    if p.items.isSome then failure
    return { p with items := some (← expr) }
  if ← mark? "**" then return { p with members := some (← expr) }
  match ← get with
  | .name n :: .mark "=" :: ts =>
    set ts
    return { p with named := p.named ++ [(n, ← expr)] }
  | _ =>
    if p.items.isSome || !p.named.isEmpty then failure
    return { p with places := p.places ++ [← expr] }

def arguments (expr : Parser Expr) : Nat → Passed → Parser Passed
  | 0, _ => failure
  | fuel + 1, p => do
    if ← mark? ")" then return p
    let p ← argument expr p
    if ← mark? "," then arguments expr fuel p
    else
      mark ")"
      return p

def arguments? (expr : Parser Expr) : Parser (Option Passed) := do
  if ← mark? "(" then return some (← arguments expr ((← get).length + 1) {}) else return none

def subscript (expr : Parser Expr) : Parser (Expr ⊕ (Expr × Expr × Expr)) := do
  let bound : Parser Expr := do
    if (← isNext "]") || (← isNext ",") || (← isNext ":") then return .const .null else expr
  let start ← if ← isNext ":" then pure (.const .null) else expr
  if ← mark? ":" then
    let stop ← bound
    let step ← if ← mark? ":" then bound else pure (.const .null)
    return .inr (start, stop, step)
  else return .inl start

def subscripts (expr : Parser Expr) (e : Expr) : Parser Expr := do
  if ← mark? "]" then return .item e (.tuple [])
  let (keys, hasComma) ← separated (subscript expr) (pure false) ((← get).length + 1)
  mark "]"
  match keys, hasComma with
  | [.inl key], false => return .item e key
  | [.inr (start, stop, step)], false => return .slice e start stop step
  | _, _ =>
    match keys.mapM fun key => key.getLeft? with
    | some keys => return .item e (.tuple keys)
    | none => failure

def accessed? (expr : Parser Expr) (e : Expr) : Parser (Option Expr) := do
  if ← mark? "." then
    match ← get with
    | .number v :: ts =>
      if v.whole?.isNone then failure
      set ts
      return some (.item e (.const v))
    | _ => return some (.member e (← name))
  else if ← mark? "[" then return some (← subscripts expr e)
  else return (← arguments? expr).map fun p => .call e p.shape p.exprs

def dotted : Nat → String → Parser String
  | 0, n => return n
  | fuel + 1, n => do
    if ← mark? "." then dotted fuel (n ++ "." ++ (← name)) else return n

def filter (expr : Parser Expr) (e : Expr) : Parser Expr := do
  let n ← dotted (← get).length (← name)
  let p := (← arguments? expr).getD {}
  return .filter n e p.shape p.exprs

def takesOperand : Parser Bool := do
  match ← get with
  | .name w :: _ =>
    if w = "is" then failure
    return not (["else", "or", "and"].contains w)
  | .string _ :: _ | .number _ :: _ => return true
  | .mark m :: _ => return m == "[" || m == "\x7b"
  | _ => return false

def test (expr : Parser Expr) (e : Expr) : Parser Expr := do
  let isNegated ← word? "not"
  let n ← dotted (← get).length (← name)
  let p ← match ← arguments? expr with
    | some p => pure p
    | none =>
      if ← takesOperand then
        pure { places := [← chain (primary expr) (accessed? expr)] }
      else pure {}
  let tested := Expr.test n e p.shape p.exprs
  return if isNegated then .not tested else tested

def treated? (expr : Parser Expr) (e : Expr) : Parser (Option Expr) := do
  if ← mark? "|" then return some (← filter expr e)
  else if ← word? "is" then return some (← test expr e)
  else return (← arguments? expr).map fun p => .call e p.shape p.exprs

def signed (expr : Parser Expr) : Nat → Parser Expr
  | 0 => failure
  | fuel + 1 => do
    let first ←
      if ← mark? "-" then pure (.negative (← signed expr fuel))
      else if ← mark? "+" then pure (.positive (← signed expr fuel))
      else primary expr
    repeated (accessed? expr) ((← get).length + 1) first

def operand (expr : Parser Expr) : Parser Expr := do
  chain (signed expr ((← get).length + 1)) (treated? expr)

def marked? (operand : Parser Expr) (marks : List (String × Arithmetic)) (a : Expr) :
    Parser (Option Expr) := do
  match ← get with
  | .mark m :: ts =>
    match marks.lookup m with
    | some op =>
      set ts
      return some (.arithmetic op a (← operand))
    | none => return none
  | _ => return none

def power (expr : Parser Expr) : Parser Expr :=
  chain (operand expr) (marked? (operand expr) [("**", .pow)])

def product (expr : Parser Expr) : Parser Expr :=
  chain (power expr)
    (marked? (power expr) [("*", .mul), ("/", .div), ("//", .floorDiv), ("%", .mod)])

def between (operand : Parser Expr) (m : String) : Nat → Parser (List Expr)
  | 0 => failure
  | fuel + 1 => do
    let e ← operand
    if ← mark? m then return e :: (← between operand m fuel) else return [e]

def joined (expr : Parser Expr) : Parser Expr := do
  match ← between (product expr) "~" ((← get).length + 1) with
  | [e] => return e
  | es => return .concat es

def sum (expr : Parser Expr) : Parser Expr :=
  chain (joined expr) (marked? (joined expr) [("+", .add), ("-", .sub)])

def relation? : Parser (Option Relation) := do
  if ← mark? "==" then return some .equal
  else if ← mark? "!=" then return some .unequal
  else if ← mark? "<" then return some .less
  else if ← mark? "<=" then return some .lessOrEqual
  else if ← mark? ">" then return some .greater
  else if ← mark? ">=" then return some .greaterOrEqual
  else if ← word? "in" then return some .within
  else if ← words? "not" "in" then return some .notWithin
  else return none

def relations (expr : Parser Expr) : Nat → Parser (List (Relation × Expr))
  | 0 => failure
  | fuel + 1 => do
    match ← relation? with
    | some r =>
      let e ← sum expr
      return (r, e) :: (← relations expr fuel)
    | none => return []

def comparison (expr : Parser Expr) : Parser Expr := do
  let first ← sum expr
  match ← relations expr ((← get).length + 1) with
  | [] => return first
  | rs => return .compare first (rs.map Prod.fst) (rs.map Prod.snd)

def negation (expr : Parser Expr) : Nat → Parser Expr
  | 0 => failure
  | fuel + 1 => do
    if ← word? "not" then return .not (← negation expr fuel) else comparison expr

def conjunction (expr : Parser Expr) : Parser Expr := do
  let part := negation expr ((← get).length + 1)
  chain part fun a => do
    if ← word? "and" then return some (.and a (← part)) else return none

def disjunction (expr : Parser Expr) : Parser Expr :=
  chain (conjunction expr) fun a => do
    if ← word? "or" then return some (.or a (← conjunction expr)) else return none

def choice? (expr : Parser Expr) (yes : Expr) : Parser (Option Expr) := do
  if ← word? "if" then
    let test ← disjunction expr
    let no ← if ← word? "else" then expr else pure .missing
    return some (.choice test yes no)
  else return none

def expression : Nat → Parser Expr
  | 0 => failure
  | fuel + 1 => chain (disjunction (expression fuel)) (choice? (expression fuel))

end Parser

end RealmModels.Template
