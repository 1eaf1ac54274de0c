import RealmModels.Template.Check
import RealmModels.Template.Limits
import RealmModels.Template.Render

/-!
The language of the templates that come with the library.
-/

namespace RealmModels.Template

def parse (source : String) : Except Flaw (List Node) :=
  match (tokens? source).bind Parser.template.run with
  | some (ns, []) =>
    if !Node.isTemplate ns then .error .misused
    else if Node.allFit 0 1 ns then .ok ns
    else .error .overloaded
  | _ => .error .malformed

def Engine.library (engine : Engine) : Library where
  find name := (engine.find? name).map fun c =>
    match c.decode? with
    | some text => parse text
    | none => .error .notText
  escapes := escapes
  takesAll := match engine with
    | memory _ => true
    | folder _ _ => false

def standard : Language where
  check text := (parse text).map fun _ => ()
  printed σ text context :=
    match parse text with
    | .error _ => .error .failed
    | .ok ns => Named.printed σ.engine.library ⟨σ.name, σ.escapes, ns⟩ context

end RealmModels.Template
