import RealmModels.Decimal.Shortest
import RealmModels.Json.Basic
import RealmModels.Text.Lines
import RealmModels.Text.Quoted

namespace RealmModels.Json

def writtenReal : Decimal.Layout := ⟨-3, 16, "Infinity", "NaN"⟩

def escapedChar (c : Char) : List Char :=
  if c = '"' then ['\\', '"']
  else if c = '\\' then ['\\', '\\']
  else if c = '\n' then ['\\', 'n']
  else if c = '\r' then ['\\', 'r']
  else if c = '\t' then ['\\', 't']
  else if c = '\x08' then ['\\', 'b']
  else if c = '\x0c' then ['\\', 'f']
  else if c.toNat < 0x20 then '\\' :: 'u' :: Text.hexDigits 4 c.toNat
  else [c]

def writeText (s : String) : String :=
  String.ofList ('"' :: s.toList.flatMap escapedChar ++ ['"'])

def writeScalar : Json → String
  | .null => "null"
  | .bool b => if b then "true" else "false"
  | .int n => toString n
  | .real x => Decimal.render writtenReal x
  | .str s => writeText s
  | .arr _ => "[]"
  | .obj _ => "\x7b\x7d"

def bracketed (opening closing : String) (depth : Nat) (parts : List String) : String :=
  let newline := fun d => "\n" ++ String.ofList (List.replicate (2 * d) ' ')
  if parts.isEmpty then opening ++ closing
  else
    opening ++ newline (depth + 1) ++ Text.joinWith ("," ++ newline (depth + 1)) parts ++
      newline depth ++ closing

mutual

def indented (depth : Nat) : Json → String
  | .arr items => bracketed "[" "]" depth (indentedItems (depth + 1) items)
  | .obj members => bracketed "\x7b" "\x7d" depth (indentedMembers (depth + 1) members)
  | v => writeScalar v

def indentedItems (depth : Nat) : List Json → List String
  | [] => []
  | v :: vs => indented depth v :: indentedItems depth vs

def indentedMembers (depth : Nat) : List (String × Json) → List String
  | [] => []
  | (key, v) :: rest => (writeText key ++ ": " ++ indented depth v) :: indentedMembers depth rest

end

def pretty (v : Json) : String := indented 0 v

mutual

def compact : Json → String
  | .arr items => "[" ++ Text.joinWith ", " (compactItems items) ++ "]"
  | .obj members => "\x7b" ++ Text.joinWith ", " (compactMembers members) ++ "\x7d"
  | v => writeScalar v

def compactItems : List Json → List String
  | [] => []
  | v :: vs => compact v :: compactItems vs

def compactMembers : List (String × Json) → List String
  | [] => []
  | (key, v) :: rest => (writeText key ++ ": " ++ compact v) :: compactMembers rest

end

end RealmModels.Json
