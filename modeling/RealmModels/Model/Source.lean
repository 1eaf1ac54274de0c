import RealmModels.Model.Class
import RealmModels.Template.Language
import RealmModels.Writing.Basic

namespace RealmModels.Model

open GraphQL Swift Writing

def notice : String := "//  This file was automatically generated and should not be edited."

def modules : List String := ["Apollo", "Realm", "RealmSwift"]

def headerLines : List String := [notice, ""] ++ modules.map ("import " ++ ·)

def header : Writing Unit :=
  headerLines.forM fun l => if l = "" then newline else line l

def headerTemplate : String :=
  Text.unlines [notice, "", "\x7b% for module in imports %\x7d", "import \x7b\x7b module \x7d\x7d",
    "\x7b% endfor %\x7d", ""]

def templates : Template.Engine := .memory [("header.swift.j2", headerTemplate)]

def declareIfModel (style : Style) (t : TypeDef) : Writing Unit :=
  match t.model? with
  | some m => declareClass style m.name (some m.fields)
  | none => report (.skipped t.name)

def source (style : Style) (s : Schema) : Writing String := do
  onPrinter Printer.reset
  header
  unless s.models.isEmpty do
    (namespaceBlock style.scope).around (s.types.forM (declareIfModel style))
  return (← get).printer.output

def singleType (style : Style) (t : TypeDef) : Writing String := do
  onPrinter Printer.reset
  declareType style t
  return (← get).printer.output

end RealmModels.Model
