import RealmModels.Template.Statement

namespace RealmModels.Template

def filterNames : List String :=
  ["abs", "attr", "batch", "camel_case", "capitalize", "center", "count", "d", "default", "dictsort",
    "e", "escape", "filesizeformat", "first", "float", "forceescape", "format", "groupby", "indent",
    "int", "items", "join", "last", "length", "list", "lower", "map", "max", "min", "pascal_case",
    "pprint", "random", "reject", "rejectattr", "replace", "reverse", "round", "safe", "select",
    "selectattr", "slice", "sort", "string", "striptags", "sum", "title", "tojson", "trim",
    "truncate", "unique", "upper", "urlencode", "urlize", "wordcount", "wordwrap", "xmlattr"]

def testNames : List String :=
  ["!=", "<", "<=", "==", ">", ">=", "boolean", "callable", "defined", "divisibleby", "eq", "equalto",
    "escaped", "even", "false", "filter", "float", "ge", "greaterthan", "gt", "in", "integer",
    "iterable", "le", "lessthan", "lower", "lt", "mapping", "ne", "none", "number", "odd", "sameas",
    "sequence", "string", "test", "true", "undefined", "upper"]

namespace Expr

mutual

def namesKnown (isLate : Bool) : Expr → Bool
  | .const _ | .var _ | .printed | .missing => true
  | .list es | .tuple es | .concat es => allNamesKnown isLate es
  | .dict keys values => allNamesKnown isLate keys && allNamesKnown isLate values
  | .member e _ | .not e | .negative e | .positive e => e.namesKnown isLate
  | .item a b | .arithmetic _ a b | .and a b | .or a b => a.namesKnown isLate && b.namesKnown isLate
  | .slice e start stop step =>
    e.namesKnown isLate && start.namesKnown isLate && stop.namesKnown isLate &&
      step.namesKnown isLate
  | .call e _ es | .compare e _ es => e.namesKnown isLate && allNamesKnown isLate es
  | .filter n e _ es =>
    (isLate || filterNames.contains n) && e.namesKnown isLate && allNamesKnown isLate es
  | .test n e _ es =>
    (isLate || testNames.contains n) && e.namesKnown isLate && allNamesKnown isLate es
  | .choice a b c => a.namesKnown true && b.namesKnown true && c.namesKnown true

def allNamesKnown (isLate : Bool) : List Expr → Bool
  | [] => true
  | e :: es => e.namesKnown isLate && allNamesKnown isLate es

end

mutual

def reads (n : String) : Expr → Bool
  | .const _ | .printed | .missing => false
  | .var m => m == n
  | .list es | .tuple es | .concat es => anyReads n es
  | .dict keys values => anyReads n keys || anyReads n values
  | .member e _ | .not e | .negative e | .positive e => e.reads n
  | .item a b | .arithmetic _ a b | .and a b | .or a b => a.reads n || b.reads n
  | .slice e start stop step => e.reads n || start.reads n || stop.reads n || step.reads n
  | .call e _ es | .compare e _ es | .filter _ e _ es | .test _ e _ es => e.reads n || anyReads n es
  | .choice a b c => a.reads n || b.reads n || c.reads n

def anyReads (n : String) : List Expr → Bool
  | [] => false
  | e :: es => e.reads n || anyReads n es

end

end Expr

mutual

def Target.contains (n : String) : Target → Bool
  | .name m => m == n
  | .member _ _ => false
  | .parts ts => Target.anyContains n ts

def Target.anyContains (n : String) : List Target → Bool
  | [] => false
  | t :: ts => t.contains n || Target.anyContains n ts

end

namespace Node

mutual

def reads (n : String) : Node → Bool
  | .text _ | .block _ _ _ _ => false
  | .print es => Expr.anyReads n es
  | .branch e body otherwise => e.reads n || anyReads n body || anyReads n otherwise
  | .loop _ e test _ body otherwise =>
    e.reads n || test.any (Expr.reads n) || anyReads n body || anyReads n otherwise
  | .assign _ e | .inherit e | .insert e _ _ | .load e _ _ | .loadNames e _ _ => e.reads n
  | .capture _ e body | .filtered e body | .escaping e body => e.reads n || anyReads n body
  | .scope _ es body => Expr.anyReads n es || anyReads n body
  | .define _ ps body => Expr.anyReads n ps.defaults || anyReads n body
  | .callWith e _ es ps body =>
    e.reads n || Expr.anyReads n es || Expr.anyReads n ps.defaults || anyReads n body

def anyReads (n : String) : List Node → Bool
  | [] => false
  | m :: ms => m.reads n || anyReads n ms

end

mutual

def assigns (n : String) : Node → Bool
  | .assign t _ => t.contains n
  | .capture t _ body => t.contains n || anyAssigns n body
  | .loop t _ _ _ body otherwise => t.contains n || anyAssigns n body || anyAssigns n otherwise
  | .branch _ body otherwise => anyAssigns n body || anyAssigns n otherwise
  | .scope _ _ body | .filtered _ body | .define _ _ body | .callWith _ _ _ _ body
  | .escaping _ body | .block _ _ _ body => anyAssigns n body
  | _ => false

def anyAssigns (n : String) : List Node → Bool
  | [] => false
  | m :: ms => m.assigns n || anyAssigns n ms

end

mutual

def blocks : Node → List (String × Node)
  | .block n isScoped isRequired body =>
    (n, .block n isScoped isRequired body) :: allBlocks body
  | .branch _ body otherwise | .loop _ _ _ _ body otherwise => allBlocks body ++ allBlocks otherwise
  | .capture _ _ body | .scope _ _ body | .filtered _ body | .define _ _ body
  | .callWith _ _ _ _ body | .escaping _ body => allBlocks body
  | _ => []

def allBlocks : List Node → List (String × Node)
  | [] => []
  | n :: ns => n.blocks ++ allBlocks ns

end

def callerFits (ps : Parameters) (body : List Node) : Bool :=
  let required := ps.names.take (ps.names.length - ps.defaults.length)
  !required.contains "caller" || !anyReads "caller" body

mutual

def isSound (isLate isOuter : Bool) : Node → Bool
  | .text _ => true
  | .print es => Expr.allNamesKnown isLate es
  | .branch e body otherwise =>
    e.namesKnown true && allSound true isOuter body && allSound true isOuter otherwise
  | .loop t e test _ body otherwise =>
    !t.contains "loop" && !anyAssigns "loop" body && !anyAssigns "loop" otherwise &&
      e.namesKnown isLate && test.all (Expr.namesKnown false) && allSound false false body &&
      allSound false false otherwise
  | .assign _ e | .insert e _ _ | .load e _ _ | .loadNames e _ _ => e.namesKnown isLate
  | .inherit e => isOuter && e.namesKnown isLate
  | .capture _ e body | .filtered e body | .escaping e body =>
    e.namesKnown false && allSound false false body
  | .scope _ es body => Expr.allNamesKnown false es && allSound false false body
  | .define _ ps body =>
    Expr.allNamesKnown false ps.defaults && allSound false false body && callerFits ps body
  | .callWith e _ es ps body =>
    e.namesKnown isLate && Expr.allNamesKnown isLate es && Expr.allNamesKnown false ps.defaults &&
      allSound false false body && callerFits ps body
  | .block _ _ _ body => allSound false false body

def allSound (isLate isOuter : Bool) : List Node → Bool
  | [] => true
  | n :: ns => n.isSound isLate isOuter && allSound isLate isOuter ns

end

def isTemplate (ns : List Node) : Bool :=
  allSound false true ns && ((allBlocks ns).map Prod.fst).Nodup

end Node

end RealmModels.Template
