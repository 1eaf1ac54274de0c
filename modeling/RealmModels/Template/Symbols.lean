import RealmModels.Template.Check

namespace RealmModels.Template

abbrev Symbols := List (String × Bool)

namespace Symbols

def add (isAssigned : Bool) (n : String) (found : Symbols) : Symbols :=
  if found.any (·.1 = n) then found else found ++ [(n, isAssigned)]

def merge (found : Symbols) (branches : List Symbols) : Symbols :=
  branches.foldl (fun s t => t.foldl (fun s (n, _) => s.add false n) s) found

end Symbols

namespace Expr

mutual

def symbols (found : Symbols) : Expr → Symbols
  | .const _ | .printed | .missing => found
  | .var n => found.add false n
  | .list es | .tuple es | .concat es => allSymbols found es
  | .dict keys values => allSymbols (allSymbols found keys) values
  | .member e _ | .not e | .negative e | .positive e => e.symbols found
  | .item a b | .arithmetic _ a b | .and a b | .or a b => b.symbols (a.symbols found)
  | .slice e start stop step => step.symbols (stop.symbols (start.symbols (e.symbols found)))
  | .call e _ es | .compare e _ es | .filter _ e _ es | .test _ e _ es =>
    allSymbols (e.symbols found) es
  | .choice a b c => c.symbols (b.symbols (a.symbols found))

def allSymbols (found : Symbols) : List Expr → Symbols
  | [] => found
  | e :: es => allSymbols (e.symbols found) es

end

end Expr

mutual

def Target.symbols (found : Symbols) : Target → Symbols
  | .name n => found.add true n
  | .member owner _ => found.add false owner
  | .parts ts => Target.allSymbols found ts

def Target.allSymbols (found : Symbols) : List Target → Symbols
  | [] => found
  | t :: ts => Target.allSymbols (t.symbols found) ts

end

namespace Node

mutual

def symbols (found : Symbols) : Node → Symbols
  | .text _ | .escaping _ _ | .block _ _ _ _ => found
  | .print es | .scope _ es _ => Expr.allSymbols found es
  | .branch e body otherwise =>
    let found := e.symbols found
    found.merge [allSymbols found body, allSymbols found otherwise]
  | .loop _ e _ _ _ _ | .filtered e _ | .inherit e | .insert e _ _ => e.symbols found
  | .assign t e => t.symbols (e.symbols found)
  | .capture t _ _ => t.symbols found
  | .define n _ _ => found.add true n
  | .callWith e _ es _ _ => Expr.allSymbols (e.symbols found) es
  | .load e n _ => (e.symbols found).add true n
  | .loadNames e names _ => names.foldl (fun s m => s.add true m.2) (e.symbols found)

def allSymbols (found : Symbols) : List Node → Symbols
  | [] => found
  | n :: ns => allSymbols (n.symbols found) ns

end

end Node

end RealmModels.Template
