import RealmModels.Template.Access
import RealmModels.Template.Arguments
import RealmModels.Template.Layout
import RealmModels.Text.Pattern

namespace RealmModels.Template.Placeholder

open Value

inductive Order where
  | open
  | next (n : Nat)
  | numbered

abbrev Filling := StateT Order Option

def value (a : Arguments) (key : String) : Filling Value := do
  match Text.Pattern.index? key, key with
  | some i, _ =>
    match ← get with
    | .next _ => failure
    | _ =>
      set Order.numbered
      (a.places[i]? : Option Value)
  | none, "" =>
    let i ← match ← get with
      | .open => pure 0
      | .next n => pure n
      | .numbered => failure
    set (Order.next (i + 1))
    (a.places[i]? : Option Value)
  | none, key => (Json.lookup key a.named : Option Value)

def access (v : Value) : Text.Access → Option Value
  | .fault => none
  | .attribute n => v.attribute? n
  | .item key => v.ownItem? ((Text.Pattern.index? key).elim (plain key) fun i => int i)

def converted (v : Value) : Option Char → Option Value
  | none => some v
  | some 's' => some (plain v.display)
  | some 'r' => some (plain v.inspect)
  | some 'a' => some (chars (v.inspect.toList.flatMap Text.asciiChar))
  | some _ => none

def laidOut (v : Value) (layout : List Char) : Option (List Char) :=
  match v with
  | .text s _ =>
    (Text.Field.ofChars? layout).bind fun f =>
      if f.width ≤ Layout.maxWidth then some (f.apply s.toList) else none
  | .bool _ | .int _ =>
    if layout.isEmpty then some v.display.toList
    else (Layout.ofChars? layout).bind fun l => v.whole?.bind l.whole?
  | .real x => (Layout.ofChars? layout).bind fun l => l.real? x
  | v => if layout.isEmpty then some v.display.toList else none

def laidOutSafe (v : Value) (layout : List Char) : Option (List Char) :=
  match v with
  | .text s true => if layout.isEmpty then some s.toList else none
  | v => (laidOut v layout).map fun cs => (escapedText (String.ofList cs)).toList

mutual

def fillPiece (isSafe : Bool) (a : Arguments) : Text.Piece → Filling (List Char)
  | .text s => return s.toList
  | .fault => failure
  | .field key parts conversion layout => do
    let v ← value a key
    let v ← (parts.foldlM access v : Option Value)
    let v ← (converted v conversion : Option Value)
    let cs ← fillAll false a layout
    ((if isSafe then laidOutSafe v cs else laidOut v cs) : Option (List Char))

def fillAll (isSafe : Bool) (a : Arguments) : Text.Pattern → Filling (List Char)
  | [] => return []
  | p :: ps => do
    let cs ← fillPiece isSafe a p
    return cs ++ (← fillAll isSafe a ps)

end

def format? (pattern : List Char) (isSafe : Bool) (a : Arguments) : Option Value :=
  ((fillAll isSafe a (Text.Pattern.ofString (String.ofList pattern))).run .open).map fun r =>
    text (String.ofList r.1) isSafe

end RealmModels.Template.Placeholder
