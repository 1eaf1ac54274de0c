import RealmModels.GraphQL.Standard

namespace RealmModels.GraphQL

def addStandard (listed : List String) : Nat → List TypeDef → String → List TypeDef
  | 0, found, _ => found
  | fuel + 1, found, name =>
    if listed.contains name || found.any (·.name == name) then found
    else
      match standardType? name with
      | none => found
      | some t =>
        t.references.foldl (fun acc r => addStandard listed fuel acc r.name) (found ++ [t])

def addReferenced (listed : List String) (found : List TypeDef) (names : List String) :
    List TypeDef :=
  names.foldl (addStandard listed (standardTypes.length + 1)) found

def Schema.arrange (listed : List TypeDef) (directiveTypes : List String) : Schema :=
  let names := listed.map (·.name)
  let found := listed.foldl
    (fun acc t => addReferenced names (acc ++ [t]) (t.references.map (·.name))) []
  ⟨addReferenced names (addReferenced names found directiveTypes) ["__Schema"]⟩

def argumentTypeNames (decls : List DirectiveDecl) : List String :=
  decls.flatMap fun d => d.arguments.map (·.type.leaf)

def Schema.empty : Schema := Schema.arrange [] (argumentTypeNames Standard.directives)

end RealmModels.GraphQL
