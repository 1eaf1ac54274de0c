import RealmModels.Settings.Basic
import RealmModels.Swift.Property

namespace RealmModels

structure Style where
  typeNaming : Swift.TypeNaming := {}
  scope : Option Frame := none
  comments : Bool := true
  initializers : Bool := false
  deprecations : Bool := false
  deriving DecidableEq, Repr

namespace Settings

def isOn (s : Settings) (setting : Setting) : Bool := (s.value setting).truthy

def text? (s : Settings) (setting : Setting) : Option String :=
  match s.value setting with
  | .str text => some text
  | _ => none

def indent (s : Settings) (room : Option Nat := none) : Indent :=
  if s.isOn .useTabs then .tab
  else
    match (s.value .indentSize).whole? with
    | some width => .spaces width room
    | none => .unusable

def typeNaming (s : Settings) : Swift.TypeNaming :=
  ⟨s.isOn .passthrough, s.text? .customPrefix⟩

def scope (s : Settings) : Option Frame :=
  if s.isOn .namespaceName then
    some { name := (s.value .namespaceName).display, keyword := "enum",
           isText := (s.text? .namespaceName).isSome }
  else none

def style (s : Settings) : Style :=
  { typeNaming := s.typeNaming, scope := s.scope, comments := s.isOn .addComments,
    initializers := s.isOn .initializers, deprecations := s.isOn .deprecations }

end Settings

end RealmModels
