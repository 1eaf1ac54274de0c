import RealmModels.Json.Basic

namespace RealmModels.Template

inductive Arithmetic where
  | add
  | sub
  | mul
  | div
  | floorDiv
  | mod
  | pow
  deriving DecidableEq, Repr

inductive Relation where
  | equal
  | unequal
  | less
  | lessOrEqual
  | greater
  | greaterOrEqual
  | within
  | notWithin
  deriving DecidableEq, Repr

structure Shape where
  places : Nat := 0
  names : List String := []
  spreadsItems : Bool := false
  spreadsMembers : Bool := false
  deriving DecidableEq, Repr

inductive Expr where
  | const (v : Json)
  | var (name : String)
  | printed
  | missing
  | list (es : List Expr)
  | tuple (es : List Expr)
  | dict (keys values : List Expr)
  | member (e : Expr) (name : String)
  | item (e key : Expr)
  | slice (e start stop step : Expr)
  | call (callee : Expr) (shape : Shape) (arguments : List Expr)
  | filter (name : String) (e : Expr) (shape : Shape) (arguments : List Expr)
  | test (name : String) (e : Expr) (shape : Shape) (arguments : List Expr)
  | not (e : Expr)
  | negative (e : Expr)
  | positive (e : Expr)
  | arithmetic (op : Arithmetic) (a b : Expr)
  | concat (es : List Expr)
  | compare (first : Expr) (relations : List Relation) (others : List Expr)
  | and (a b : Expr)
  | or (a b : Expr)
  | choice (test yes no : Expr)
  deriving Inhabited

inductive Target where
  | name (s : String)
  | member (owner name : String)
  | parts (ts : List Target)
  deriving Inhabited

structure Parameters where
  names : List String
  defaults : List Expr

inductive Node where
  | text (s : String)
  | print (es : List Expr)
  | branch (test : Expr) (body otherwise : List Node)
  | loop (target : Target) (items : Expr) (test : Option Expr) (isRecursive : Bool)
      (body otherwise : List Node)
  | assign (target : Target) (e : Expr)
  | capture (target : Target) (shown : Expr) (body : List Node)
  | scope (targets : List Target) (values : List Expr) (body : List Node)
  | filtered (shown : Expr) (body : List Node)
  | define (name : String) (parameters : Parameters) (body : List Node)
  | callWith (callee : Expr) (shape : Shape) (arguments : List Expr) (parameters : Parameters)
      (body : List Node)
  | escaping (e : Expr) (body : List Node)
  | block (name : String) (isScoped isRequired : Bool) (body : List Node)
  | inherit (e : Expr)
  | insert (e : Expr) (mayMiss withContext : Bool)
  | load (e : Expr) (name : String) (withContext : Bool)
  | loadNames (e : Expr) (names : List (String × String)) (withContext : Bool)
  deriving Inhabited

def Expr.variableFilters : List String :=
  ["map", "random", "reject", "rejectattr", "select", "selectattr"]

namespace Expr

mutual

def isConstant : Expr → Bool
  | .const _ => true
  | .var _ | .printed | .missing | .call _ _ _ => false
  | .list es | .tuple es | .concat es => allConstant es
  | .dict keys values => allConstant keys && allConstant values
  | .member e _ | .not e | .negative e | .positive e => e.isConstant
  | .item a b | .arithmetic _ a b | .and a b | .or a b => a.isConstant && b.isConstant
  | .slice e start stop step =>
    e.isConstant && start.isConstant && stop.isConstant && step.isConstant
  | .compare e _ es | .test _ e _ es => e.isConstant && allConstant es
  | .filter n e _ es => !variableFilters.contains n && e.isConstant && allConstant es
  | .choice a b c => a.isConstant && b.isConstant && c.isConstant

def allConstant : List Expr → Bool
  | [] => true
  | e :: es => e.isConstant && allConstant es

end

end Expr

end RealmModels.Template
