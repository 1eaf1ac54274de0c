import RealmModels.Console.Constant
import RealmModels.Console.Emoji
import RealmModels.Console.Style
import RealmModels.Text.Lines

namespace RealmModels.Console

open Text

inductive MarkFault where
  | misplaced
  | badColour
  deriving DecidableEq, Repr

def startsMark (c : Char) : Bool := ('a' ≤ c && c ≤ 'z') || c == '#' || c == '/' || c == '@'

def mark? (cs : List Char) : Option (List Char × List Char) :=
  match cs with
  | [] => none
  | c :: _ =>
    if startsMark c then
      match cs.span fun c => c != '[' && c != ']' with
      | (inside, ']' :: rest) => some (inside, rest)
      | _ => none
    else none

inductive Span where
  | text (cs : List Char)
  | mark (inside : List Char)

def textBefore (cs : List Char) (spans : List Span) : List Span :=
  match spans with
  | .text more :: rest => .text (cs ++ more) :: rest
  | _ => if cs.isEmpty then spans else .text cs :: spans

def spans : Nat → List Char → List Span
  | 0, cs => [.text cs]
  | _ + 1, [] => []
  | fuel + 1, c :: cs =>
    let (slashes, rest) := (c :: cs).span (· == '\\')
    match rest with
    | '[' :: tail =>
      match mark? tail with
      | some (inside, after) =>
        let half := List.replicate (slashes.length / 2) '\\'
        let mark := if slashes.length % 2 = 1 then .text ('[' :: inside ++ [']']) else .mark inside
        .text [] :: .text half :: mark :: spans fuel after
      | none => textBefore (slashes.dropLast ++ ['[']) (spans fuel tail)
    | _ =>
      if slashes.isEmpty then textBefore [c] (spans fuel cs)
      else textBefore slashes (spans fuel rest)

structure OpenMark where
  name : List Char
  setting : Option (List Char)

def OpenMark.isHandler (m : OpenMark) : Bool := m.name.head? = some '@'

def split (inside : List Char) : List Char × Option (List Char) :=
  match inside.span (· != '=') with
  | (name, _ :: setting) => (name, some setting)
  | (name, []) => (name, none)

def normalName (name : List Char) : Except MarkFault (List Char) :=
  (Style.normalName name).mapError fun _ => .badColour

def checkStyle (m : OpenMark) : Except MarkFault Unit :=
  match m.setting with
  | none => .ok ()
  | some setting =>
    match Style.ofText (m.name ++ ' ' :: setting) with
    | .error .notNumber => .error .badColour
    | _ => .ok ()

def handlerArguments (setting : List Char) : List Char :=
  let named := setting.dropWhile fun c => Text.isIdentifierContinue c || c = '.'
  if named.isEmpty then ['(', ')']
  else if named.head? = some '(' && named.getLast? = some ')' && !named.contains '\n' then named
  else setting

def checkClosing (m : OpenMark) : Except MarkFault Unit :=
  match m.setting with
  | none | some [] => .ok ()
  | some setting =>
    if m.isHandler && !Constant.isWritten (handlerArguments (trim setting)) then
      .error .misplaced
    else .ok ()

def close? (name : List Char) : List OpenMark → Option (OpenMark × List OpenMark)
  | [] => none
  | m :: ms =>
    if name.isEmpty || m.name = name then some (m, ms)
    else (close? name ms).map fun (found, rest) => (found, m :: rest)

def unmarked (opened : List OpenMark) : List Span → Except MarkFault (List Char × List OpenMark)
  | [] => .ok ([], opened)
  | .text cs :: rest => do
    let (more, used) ← unmarked opened rest
    return (Emoji.replace (cs.length + 1) cs ++ more, used)
  | .mark inside :: rest =>
    let (name, setting) := split inside
    match name with
    | '/' :: name => do
      let name := trim name
      let name ← if name.isEmpty then pure [] else normalName name
      match close? name opened with
      | none => throw .misplaced
      | some (m, opened) =>
        checkClosing m
        let (more, used) ← unmarked opened rest
        return (more, if m.isHandler then used else m :: used)
    | name => do unmarked (⟨← normalName name, setting⟩ :: opened) rest

def isControl (c : Char) : Bool := [7, 8, 11, 12, 13].contains c.toNat

def plain (markup : String) : Except MarkFault (List Char) := do
  let (cs, used) ← unmarked [] (spans (markup.length + 1) markup.toList)
  used.forM checkStyle
  return cs.filter (!isControl ·)

end RealmModels.Console
