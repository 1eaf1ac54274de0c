import RealmModels.GraphQL.Classified
import RealmModels.Log.Event
import RealmModels.Naming.Scope
import RealmModels.Printer.Basic
import RealmModels.Settings.Check
import RealmModels.Template.Language

namespace RealmModels

inductive Fault where
  | printer (e : PrinterError)
  | unclassified (u : GraphQL.Unclassified)
  | naming (e : Naming.EscapeError)
  | setting (e : SettingFault)
  | template (e : Template.TemplateError)
  | noFields (type : String)
  | noProperties
  | noWords
  | unknownName (name : String)
  | malformedType
  | incomplete
  | interrupted (message : String)
  deriving DecidableEq, Repr

def Fault.message? : Fault → Option String
  | printer e => if e.isMisuse then some e.message else none
  | unclassified u => some u.message
  | template e => some e.message
  | interrupted message => some message
  | _ => none

structure Session where
  printer : Printer
  names : Naming.Scope := .empty
  events : List Log.Event := []
  deriving Repr

abbrev Writing := EStateM Fault Session

namespace Writing

def onPrinter (f : Printer → Printer) : Writing Unit :=
  modify fun s => { s with printer := f s.printer }

def tryPrinter (f : Printer → Except PrinterError Printer) : Writing Unit := do
  match f (← get).printer with
  | .ok p => modify fun s => { s with printer := p }
  | .error e => throw (.printer e)

def look {α : Type} (f : Printer → Except PrinterError α) : Writing α := do
  match f (← get).printer with
  | .ok a => return a
  | .error e => throw (.printer e)

def report (e : Log.Event) : Writing Unit := modify fun s => { s with events := s.events ++ [e] }

def classified (t : GraphQL.TypeRef) : Writing GraphQL.Classified :=
  match GraphQL.classify t with
  | .ok c => pure c
  | .error u => throw (.unclassified u)

def print (text : String) : Writing Unit := onPrinter (·.print text)

def newline : Writing Unit := onPrinter Printer.newline

def newlineIfNeeded : Writing Unit := onPrinter Printer.newlineIfNeeded

def printIndent : Writing Unit := tryPrinter Printer.printIndent

def line (text : String) : Writing Unit := do
  if text ≠ "" then
    newline
    printIndent
    print text

def deepen : Writing Unit := onPrinter Printer.deepen

def dedent : Writing Unit := tryPrinter Printer.dedent

def push (frame : Frame) : Writing Unit := onPrinter (·.push frame)

def pop : Writing Frame := do
  let (frame, p) ← look Printer.pop
  modify fun s => { s with printer := p }
  return frame

def openBlock (opening : String) : Writing Unit := do
  print opening
  deepen

def closeBlock (ending : String) : Writing Unit := do
  dedent
  line ending

end Writing

end RealmModels
