import RealmModels.Report

namespace RealmModels

open GraphQL Swift Writing

inductive Answer where
  | nothing
  | frame (f : Frame)
  | text (s : String)
  | texts (ts : List String)
  | property (p : Property)
  | truth (b : Bool)
  | about (settings : Settings)

inductive Action where
  | print (text : String)
  | line (text : String)
  | newline
  | newlineIfNeeded
  | printIndent
  | deepen
  | dedent
  | reset
  | push (frame : Frame)
  | pop
  | scope
  | qualified (name : String)
  | openBlock (opening : String)
  | closeBlock (ending : String)
  | interrupt (message : String)
  | literal (text : Option String)
  | comment (note : Note)
  | primaryKey (name : Option String)
  | deprecation (isDeprecated : Bool) (reason : Note)
  | openDeclaration (frame : Frame) (header : Header)
  | closeDeclaration
  | declareProperty (p : Property)
  | requireProperty (p : Property)
  | declareProperties (ps : List Property)
  | requireProperties (ps : List Property)
  | parameters (ps : Option (List Property))
  | memberwise (ps : Option (List Property))
  | printProperty (type : TypeRef) (name : String) (typeName : Option String)
  | header
  | requiredInitializers
  | declareIfModel (type : String)
  | declareType (type : String)
  | singleType (type : String)
  | source
  | schemaWarnings
  | declareField (type field : String)
  | resetNames
  | render (template : String) (context : Json)
  | hasTemplate (template : String)
  | about
  | unfit (fault : Fault)

inductive Step where
  | act (label : String) (action : Action)
  | block (label : String) (around : Block) (body : List Step)

instance : Inhabited Step := ⟨.act "" .newline⟩

structure Workshop where
  settings : Settings
  schema : Schema
  language : Template.Language

namespace Workshop

def style (w : Workshop) : Style := w.settings.style

def typeNaming (w : Workshop) : TypeNaming := w.style.typeNaming

def type (w : Workshop) (name : String) : Writing TypeDef :=
  match w.schema.find? name with
  | some t => pure t
  | none => throw (.unknownName name)

def field (w : Workshop) (type name : String) : Writing Field := do
  let t ← w.type type
  let some fields := t.fields? | throw (.noFields type)
  let some f := fields.find? (·.name == name) | throw (.unknownName name)
  return f

end Workshop

def given {α : Type} (ps : Option (List α)) : Writing (List α) :=
  match ps with
  | some list => pure list
  | none => throw .noProperties

def quietly (w : Writing Unit) : Writing Answer := do
  w
  return .nothing

def Action.perform (w : Workshop) : Action → Writing Answer
  | print text => quietly (Writing.print text)
  | line text => quietly (Writing.line text)
  | newline => quietly Writing.newline
  | newlineIfNeeded => quietly Writing.newlineIfNeeded
  | printIndent => quietly Writing.printIndent
  | deepen => quietly Writing.deepen
  | dedent => quietly Writing.dedent
  | reset => quietly (onPrinter Printer.reset)
  | push frame => quietly (Writing.push frame)
  | pop => do return .frame (← Writing.pop)
  | scope => do return .frame (← look Printer.scope)
  | qualified name => do return .text (← look (·.qualified name))
  | openBlock opening => quietly (Writing.openBlock opening)
  | closeBlock ending => quietly (Writing.closeBlock ending)
  | interrupt message => throw (.interrupted message)
  | literal none => throw .noWords
  | literal (some text) => quietly (Writing.line (Swift.literal text))
  | comment note => quietly (Swift.comment note)
  | primaryKey name => quietly (Swift.primaryKey name)
  | deprecation isDeprecated reason => quietly do
      if isDeprecated then deprecationAttribute reason
  | openDeclaration frame h => quietly (Swift.openDeclaration frame h)
  | closeDeclaration => do return .frame (← Swift.closeDeclaration)
  | declareProperty p => quietly (Swift.declareProperty w.typeNaming p)
  | requireProperty p => quietly (Swift.requireProperty p)
  | declareProperties ps => quietly (ps.forM (Swift.declareProperty w.typeNaming))
  | requireProperties ps => quietly (ps.forM Swift.requireProperty)
  | parameters none => quietly do
      Writing.print "("
      throw .noProperties
  | parameters (some ps) => quietly (Model.parameters w.typeNaming ps)
  | memberwise ps => quietly do Model.memberwise w.typeNaming (← given ps)
  | printProperty type name typeName => quietly do
      Swift.printProperty w.typeNaming (← classified type) name typeName
  | header => quietly Model.header
  | requiredInitializers => quietly Model.required
  | declareIfModel type => quietly do Model.declareIfModel w.style (← w.type type)
  | declareType type => quietly do Model.declareType w.style (← w.type type)
  | singleType type => do return .text (← Model.singleType w.style (← w.type type))
  | source => do return .text (← Model.source w.style w.schema)
  | schemaWarnings => do
      let ws ← MonadExcept.ofExcept (RealmModels.schemaWarnings w.schema)
      return .texts (ws.map Warning.message)
  | declareField type field => do
      return .property (← Model.declareField w.style (← w.field type field))
  | resetNames => quietly (modify fun s => { s with names := .empty })
  | render template context => do
      match Model.templates.render w.language template context with
      | .ok text => return .text text
      | .error e => throw (.template e)
  | hasTemplate template => return .truth (Model.templates.find? template).isSome
  | about => return .about w.settings
  | unfit fault => throw fault

end RealmModels
