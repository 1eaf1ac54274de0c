import RealmModels.GraphQL.Note
import RealmModels.Swift.Literal
import RealmModels.Text.Lines
import RealmModels.Writing.Block

namespace RealmModels.Swift

open GraphQL Writing

def joinParts (separator : String) (parts : List String) : String :=
  Text.joinWith separator (parts.filter (· != ""))

def wrap (start text ending : String) : String :=
  if text = "" then "" else start ++ text ++ ending

def documentation (text : String) : List String :=
  (((Text.cutAt '\n' text.toList).map Text.trim).filter (!·.isEmpty)).map fun l =>
    "/// " ++ String.ofList l

def words (note : Note) : Writing String :=
  match note.words? with
  | some s => pure s
  | none => throw .noWords

def comment (note : Note) : Writing Unit := do (documentation (← words note)).forM line

def deprecation (reason : String) : String :=
  "@available(*, deprecated, message: " ++ literal reason ++ ")"

def deprecationAttribute (reason : Note) : Writing Unit := do line (deprecation (← words reason))

structure Header where
  modifiers : List String := []
  inherited : List String := []
  description : Note := .absent
  deriving DecidableEq, Repr

def openDeclaration (frame : Frame) (header : Header) : Writing Unit := do
  newlineIfNeeded
  comment header.description
  line (wrap "" (joinParts " " header.modifiers) " " ++ frame.keyword ++ " " ++ frame.name)
  print (wrap ": " (joinParts ", " header.inherited) "")
  push frame
  openBlock " \x7b"

def closeDeclaration : Writing Frame := do
  closeBlock "\x7d"
  pop

def declaration (frame : Frame) (header : Header) : Block :=
  ⟨openDeclaration frame header, do let _ ← closeDeclaration⟩

def namespaceBlock (frame : Option Frame) : Block :=
  match frame with
  | none => .bare
  | some f =>
    declaration f { modifiers := ["public"], description := .text (f.name ++ " namespace") }

def namespaceFrame? (name : String) : Option Frame :=
  if name = "" then none else some { name := name, keyword := "enum" }

def classBlock (name : String) (modifiers : List String) (superclass : String)
    (protocols : List String) : Block :=
  declaration { name := name, keyword := "class" }
    { modifiers := modifiers, inherited := superclass :: protocols }

def structBlock (name : String) (protocols : List String) (description : Note) : Block :=
  declaration { name := name, keyword := "struct" }
    { modifiers := ["public"], inherited := protocols, description := description }

def protocolBlock (name : String) (protocols : List String) : Block :=
  declaration { name := name, keyword := "protocol" }
    { modifiers := ["public"], inherited := protocols }

end RealmModels.Swift
