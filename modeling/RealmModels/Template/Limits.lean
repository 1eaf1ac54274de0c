import RealmModels.Template.Basic

namespace RealmModels.Template

namespace Expr

mutual

def namesOnce (e : Expr) : Bool :=
  match e with
  | .const _ | .var _ | .printed | .missing => true
  | .list es | .tuple es | .concat es => allNameOnce es
  | .dict keys values => allNameOnce keys && allNameOnce values
  | .member e _ | .not e | .negative e | .positive e => e.namesOnce
  | .item a b | .arithmetic _ a b | .and a b | .or a b => a.namesOnce && b.namesOnce
  | .slice e start stop step =>
    e.namesOnce && start.namesOnce && stop.namesOnce && step.namesOnce
  | .compare e _ es => e.namesOnce && allNameOnce es
  | .call e shape es => shape.names.Nodup && e.namesOnce && allNameOnce es
  | .filter n e shape es =>
    (Expr.filter n e shape es).isConstant ||
      (shape.names.Nodup && e.namesOnce && allNameOnce es)
  | .test n e shape es =>
    (Expr.test n e shape es).isConstant ||
      (shape.names.Nodup && e.namesOnce && allNameOnce es)
  | .choice a b c => a.namesOnce && b.namesOnce && c.namesOnce

def allNameOnce : List Expr → Bool
  | [] => true
  | e :: es => e.namesOnce && allNameOnce es

end

end Expr

def Parameters.fit (ps : Parameters) : Bool := ps.names.Nodup && Expr.allNameOnce ps.defaults

def maxLoops : Nat := 20

def maxParts : Nat := 99

namespace Node

def isChoice : List Node → Bool
  | [.branch _ _ _] => true
  | _ => false

mutual

def fits (loops parts : Nat) : Node → Bool
  | .text _ => true
  | .print es => Expr.allNameOnce es
  | .branch e body otherwise =>
    e.namesOnce && parts < maxParts && allFit loops (parts + 1) body &&
      allFit loops (if isChoice otherwise then parts else parts + 1) otherwise
  | .loop _ e test isRecursive body otherwise =>
    let outer := if isRecursive then 0 else loops
    let parts := if isRecursive then parts + 1 else parts
    e.namesOnce && test.all Expr.namesOnce && outer < maxLoops && parts < maxParts &&
      allFit (outer + 1) (parts + 1) body && allFit outer (parts + 1) otherwise
  | .assign _ e | .inherit e | .load e _ _ | .loadNames e _ _ => e.namesOnce
  | .insert e _ _ => e.namesOnce && loops < maxLoops
  | .capture _ e body | .filtered e body | .escaping e body => e.namesOnce && allFit loops parts body
  | .scope _ es body => Expr.allNameOnce es && allFit loops parts body
  | .define _ ps body => ps.fit && parts < maxParts && allFit 0 (parts + 1) body
  | .callWith e shape es ps body =>
    e.namesOnce && shape.names.Nodup && Expr.allNameOnce es && ps.fit && parts < maxParts &&
      allFit 0 (parts + 1) body
  | .block _ _ _ body => allFit 0 1 body

def allFit (loops parts : Nat) : List Node → Bool
  | [] => true
  | n :: ns => n.fits loops parts && allFit loops parts ns

end

end Node

end RealmModels.Template
