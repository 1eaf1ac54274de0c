namespace RealmModels

/-- How a level of indentation is written. The room of spaces is the most of them that there is
memory for in front of a line; without it there is no limit. -/
inductive Indent where
  | tab
  | spaces (width : Int) (room : Option Nat := none)
  | unusable
  deriving DecidableEq, Repr

structure Frame where
  name : String
  keyword : String
  isText : Bool := true
  deriving DecidableEq, Repr

inductive PrinterError where
  | popWithoutScope
  | noActiveScope
  | dedentAtMargin
  | indentUnusable
  | indentTooLong
  | indentBeyondCount
  | nameNotText
  deriving DecidableEq, Repr

def PrinterError.message : PrinterError → String
  | popWithoutScope => "pop_scope called with no open scope"
  | noActiveScope => "No active scope"
  | dedentAtMargin => "dedent called at indent level 0"
  | indentUnusable => "the indentation is not a whole number"
  | indentTooLong => "the indentation takes too much room"
  | indentBeyondCount => "the indentation has more places than can be counted"
  | nameNotText => "the name of a scope is not a text"

def PrinterError.isMisuse : PrinterError → Bool
  | popWithoutScope | noActiveScope | dedentAtMargin => true
  | _ => false

namespace Indent

def countLimit : Nat := 0x8000000000000000

def exceeds (room : Option Nat) (places : Int) : Bool := room.any fun most => most < places

def text : Indent → Nat → Except PrinterError String
  | tab, level => .ok (String.ofList (List.replicate level '\t'))
  | spaces width room, level =>
    let places := level * width
    if places ≥ countLimit || places < -countLimit then .error .indentBeyondCount
    else if exceeds room places then .error .indentTooLong
    else .ok (String.ofList (List.replicate places.toNat ' '))
  | unusable, _ => .error .indentUnusable

end Indent

/-- `atBlockStart` holds as long as nothing stands in the block that was opened last; `scopes` are
the open declarations, innermost first. -/
structure Printer where
  indent : Indent
  output : String := ""
  level : Nat := 0
  atBlockStart : Bool := false
  scopes : List Frame := []
  deriving DecidableEq, Repr

namespace Printer

def reset (p : Printer) : Printer := { indent := p.indent }

def print (text : String) (p : Printer) : Printer := { p with output := p.output ++ text }

def newline (p : Printer) : Printer :=
  if p.output = "" then p else { p.print "\n" with atBlockStart := false }

def newlineIfNeeded (p : Printer) : Printer := if p.atBlockStart then p else p.newline

def printIndent (p : Printer) : Except PrinterError Printer :=
  return p.print (← p.indent.text p.level)

def deepen (p : Printer) : Printer := { p with level := p.level + 1, atBlockStart := true }

def dedent (p : Printer) : Except PrinterError Printer :=
  match p.level with
  | 0 => .error .dedentAtMargin
  | level + 1 => .ok { p with level := level }

def push (frame : Frame) (p : Printer) : Printer := { p with scopes := frame :: p.scopes }

def pop (p : Printer) : Except PrinterError (Frame × Printer) :=
  match p.scopes with
  | [] => .error .popWithoutScope
  | frame :: rest => .ok (frame, { p with scopes := rest })

def scope (p : Printer) : Except PrinterError Frame :=
  match p.scopes with
  | [] => .error .noActiveScope
  | frame :: _ => .ok frame

def depth (p : Printer) : Nat := p.scopes.length

def qualified (name : String) (p : Printer) : Except PrinterError String :=
  if p.scopes.all (·.isText) then
    .ok (p.scopes.foldl (fun inner frame => frame.name ++ "." ++ inner) name)
  else .error .nameNotText

end Printer

end RealmModels
