import RealmModels.Template.Engine

/-!
Rendering templates in a language that is given: it says which texts are templates and what these print.
-/

namespace RealmModels.Template

/-- Why a text is no template, or a template cannot be used: the text does not read as one; something
is used that is not there, or where it cannot be; a name is given twice or loops stand too deep in one
another; or there is no text. -/
inductive Flaw where
  | malformed
  | misused
  | overloaded
  | notText
  deriving DecidableEq, Repr

inductive Trouble where
  | missing
  | failed
  deriving DecidableEq, Repr

inductive TemplateError where
  | notFound (name : String)
  | failed (name : String)
  | textFailed
  deriving DecidableEq, Repr

def TemplateError.message : TemplateError → String
  | notFound name => "Template not found: " ++ name
  | failed name => "Failed to render template " ++ name ++ ": "
  | textFailed => "Failed to render template string: "

def escapedChar (c : Char) : List Char :=
  match c with
  | '&' => "&amp;".toList
  | '<' => "&lt;".toList
  | '>' => "&gt;".toList
  | '"' => "&#34;".toList
  | '\'' => "&#39;".toList
  | c => [c]

def escapedText (s : String) : String := String.ofList (s.toList.flatMap escapedChar)

/-- A part of what a template prints: a text of its own, or the text of a value, which may be markup. -/
inductive Segment where
  | own (s : String)
  | value (s : String) (isMarkup : Bool)
  deriving DecidableEq, Repr

namespace Segment

def shown (escapes : Bool) : Segment → String
  | own s => s
  | value s isMarkup => if escapes && !isMarkup then escapedText s else s

def shownAll (escapes : Bool) (printed : List Segment) : String := String.join (printed.map (shown escapes))

end Segment

/-- Where a template is rendered: the engine whose templates it can use, its own name, and whether the
values that it prints are escaped. -/
structure Setting where
  engine : Engine
  name : Option String
  escapes : Bool

/-- Which texts are templates, and what such a text prints in a context. -/
structure Language where
  check : String → Except Flaw Unit
  printed : Setting → String → Json → Except Trouble (List Segment)

def Language.render (L : Language) (σ : Setting) (text : String) (context : Json) :
    Except Trouble String := (L.printed σ text context).map (Segment.shownAll σ.escapes)

namespace Engine

def template? (engine : Engine) (L : Language) (name : String) : Option (Except Flaw String) :=
  (engine.find? name).map fun c =>
    match c.decode? with
    | some text => (L.check text).map fun _ => text
    | none => .error .notText

def contains (engine : Engine) (L : Language) (name : String) : Except Flaw Bool :=
  match engine.template? L name with
  | none => .ok false
  | some (.ok _) => .ok true
  | some (.error flaw) => .error flaw

def render (engine : Engine) (L : Language) (name : String) (context : Json) :
    Except TemplateError String :=
  match engine.template? L name with
  | none => .error (.notFound name)
  | some (.error _) => .error (.failed name)
  | some (.ok text) =>
    (L.render ⟨engine, some name, escapes name⟩ text context).mapError fun trouble =>
      match trouble with
      | .missing => .notFound name
      | .failed => .failed name

/-- Renders a text as a template without a name; what it prints is escaped. -/
def renderText (engine : Engine) (L : Language) (text : String) (context : Json) :
    Except TemplateError String :=
  match L.check text with
  | .error _ => .error .textFailed
  | .ok _ => (L.render ⟨engine, none, true⟩ text context).mapError fun _ => .textFailed

end Engine

end RealmModels.Template
