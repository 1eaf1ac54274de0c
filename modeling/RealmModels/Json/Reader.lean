import RealmModels.Decimal.Basic
import RealmModels.Json.Basic
import RealmModels.Text.Digits

namespace RealmModels.Json

inductive Lack where
  | value
  | propertyName
  | colon
  | comma
  | endOfText
  | closingQuote
  | printable
  | escape
  | hexEscape
  | unmarkedStart
  deriving DecidableEq

def Lack.message : Lack → String
  | .value => "Expecting value"
  | .propertyName => "Expecting property name enclosed in double quotes"
  | .colon => "Expecting ':' delimiter"
  | .comma => "Expecting ',' delimiter"
  | .endOfText => "Extra data"
  | .closingQuote => "Unterminated string starting at"
  | .printable => "Invalid control character at"
  | .escape => "Invalid \\escape"
  | .hexEscape => "Invalid \\uXXXX escape"
  | .unmarkedStart => "Unexpected UTF-8 BOM (decode using utf-8-sig)"

/-- What JSON may hold and is not read here: whole numbers of too many digits, lists and objects too
deep in each other, and half of a pair of units that stands alone, which is no character. -/
inductive Limit where
  | digits
  | levels
  | halves
  deriving DecidableEq, Repr

inductive Refusal where
  | lacking (lack : Lack) (remaining : Nat)
  | beyond (limit : Limit)

def refuse {α : Type} (lack : Lack) (rest : List Char) : Except Refusal α :=
  .error (.lacking lack rest.length)

def isSpace (c : Char) : Bool := c = ' ' || c = '\t' || c = '\n' || c = '\r'

def skipSpace (cs : List Char) : List Char := cs.dropWhile isSpace

def hexValue? (c : Char) : Option Nat :=
  if '0' ≤ c && c ≤ '9' then some (c.toNat - 48)
  else if 'a' ≤ c && c ≤ 'f' then some (c.toNat - 87)
  else if 'A' ≤ c && c ≤ 'F' then some (c.toNat - 55)
  else none

def fourHex? : List Char → Option (Nat × List Char)
  | a :: b :: c :: d :: rest => do
    let n ← [a, b, c, d].foldlM (fun n h => (hexValue? h).map (16 * n + ·)) 0
    pure (n, rest)
  | _ => none

def isHighHalf (n : Nat) : Bool := 0xd800 ≤ n && n < 0xdc00

def isLowHalf (n : Nat) : Bool := 0xdc00 ≤ n && n < 0xe000

def unitChar (n : Nat) : Except Refusal Char :=
  if isHighHalf n || isLowHalf n then .error (.beyond .halves) else .ok (Char.ofNat n)

def unitAlone (n : Nat) (rest : List Char) : Except Refusal (Char × List Char) := do
  return (← unitChar n, rest)

def readUnit (cs : List Char) : Except Refusal (Char × List Char) :=
  match fourHex? (cs.drop 1) with
  | some (_, []) => refuse .hexEscape cs
  | none => refuse .hexEscape cs
  | some (n, '\\' :: 'u' :: rest) =>
    if isHighHalf n && 4 < rest.length then
      match fourHex? rest with
      | none => refuse .hexEscape ('u' :: rest)
      | some (m, after) =>
        if isLowHalf m then .ok (Char.ofNat (0x10000 + (n - 0xd800) * 1024 + (m - 0xdc00)), after)
        else unitAlone n ('\\' :: 'u' :: rest)
    else unitAlone n ('\\' :: 'u' :: rest)
  | some (n, rest) => unitAlone n rest

def simpleEscape? : Char → Option Char
  | '"' => some '"'
  | '\\' => some '\\'
  | '/' => some '/'
  | 'b' => some '\x08'
  | 'f' => some '\x0c'
  | 'n' => some '\n'
  | 'r' => some '\r'
  | 't' => some '\t'
  | _ => none

def readChars (opened : List Char) : Nat → List Char → Except Refusal (List Char × List Char)
  | 0, _ => refuse .closingQuote opened
  | _ + 1, [] => refuse .closingQuote opened
  | _ + 1, '"' :: rest => .ok ([], rest)
  | _ + 1, ['\\'] => refuse .closingQuote opened
  | fuel + 1, '\\' :: 'u' :: rest => do
    let (c, after) ← readUnit ('u' :: rest)
    let (cs, left) ← readChars opened fuel after
    .ok (c :: cs, left)
  | fuel + 1, '\\' :: e :: rest =>
    match simpleEscape? e with
    | none => refuse .escape ('\\' :: e :: rest)
    | some c => do
      let (cs, left) ← readChars opened fuel rest
      .ok (c :: cs, left)
  | fuel + 1, c :: rest =>
    if c.toNat < 0x20 then refuse .printable (c :: rest)
    else do
      let (cs, left) ← readChars opened fuel rest
      .ok (c :: cs, left)

def readText (fuel : Nat) (rest : List Char) : Except Refusal (String × List Char) := do
  let (cs, left) ← readChars ('"' :: rest) (fuel + 1) rest
  .ok (String.ofList cs, left)

def spanDigits (cs : List Char) : List Char × List Char := cs.span Char.isDigit

def digitsValue (ds : List Char) : Nat := ds.foldl (fun n d => 10 * n + (d.toNat - 48)) 0

def fraction? : List Char → Option (List Char × List Char)
  | '.' :: cs =>
    match spanDigits cs with
    | ([], _) => none
    | found => some found
  | _ => none

def signedDigits? (cs : List Char) : Option (Int × List Char) :=
  let (negative, body) :=
    match cs with
    | '+' :: rest => (false, rest)
    | '-' :: rest => (true, rest)
    | _ => (false, cs)
  match spanDigits body with
  | ([], _) => none
  | (ds, rest) => some (if negative then -(digitsValue ds : Int) else digitsValue ds, rest)

def exponent? : List Char → Option (Int × List Char)
  | 'e' :: cs => signedDigits? cs
  | 'E' :: cs => signedDigits? cs
  | _ => none

def number? (negative : Bool) (cs : List Char) : Option (Json × List Char) :=
  let whole : List Char × List Char :=
    match cs with
    | '0' :: rest => (['0'], rest)
    | _ => spanDigits cs
  if whole.1.isEmpty then none
  else
    let afterWhole := fraction? whole.2
    let rest := (afterWhole.map Prod.snd).getD whole.2
    let afterPower := exponent? rest
    if afterWhole.isNone && afterPower.isNone then
      if Text.digitLimit < whole.1.length then none else
      let n : Int := digitsValue whole.1
      some (.int (if negative then -n else n), rest)
    else
      let places := (afterWhole.map Prod.fst).getD []
      let power := (afterPower.map Prod.fst).getD 0
      let x := Decimal.nearest (digitsValue (whole.1 ++ places)) (power - places.length)
      some (.real (if negative then -x else x), (afterPower.map Prod.snd).getD rest)

def startsTooLong (cs : List Char) : Bool :=
  let unsigned := if cs.head? == some '-' then cs.drop 1 else cs
  unsigned.head? != some '0' && Text.digitLimit < (spanDigits unsigned).1.length

def scalar? (cs : List Char) : Option (Json × List Char) :=
  match cs with
  | 'n' :: 'u' :: 'l' :: 'l' :: rest => some (.null, rest)
  | 't' :: 'r' :: 'u' :: 'e' :: rest => some (.bool true, rest)
  | 'f' :: 'a' :: 'l' :: 's' :: 'e' :: rest => some (.bool false, rest)
  | 'N' :: 'a' :: 'N' :: rest => some (.real (0.0 / 0.0), rest)
  | 'I' :: 'n' :: 'f' :: 'i' :: 'n' :: 'i' :: 't' :: 'y' :: rest => some (.real (1.0 / 0.0), rest)
  | '-' :: 'I' :: 'n' :: 'f' :: 'i' :: 'n' :: 'i' :: 't' :: 'y' :: rest =>
    some (.real (-1.0 / 0.0), rest)
  | '-' :: rest => number? true rest
  | _ => number? false cs

mutual

/-- A value at the very start of the text, inside at most `levels` lists and objects. Each level of
nesting takes two of `fuel`, each further item one. -/
def readValue (levels : Option Nat) : Nat → List Char → Except Refusal (Json × List Char)
  | 0, cs => refuse .value cs
  | _ + 1, [] => refuse .value []
  | fuel + 1, '"' :: rest => do
    let (s, left) ← readText fuel rest
    .ok (.str s, left)
  | fuel + 1, '[' :: rest => do
    if levels = some 0 then throw (.beyond .levels)
    match skipSpace rest with
    | ']' :: left => .ok (.arr [], left)
    | start => do
      let (items, left) ← readItems (levels.map (· - 1)) fuel start
      .ok (.arr items, left)
  | fuel + 1, '\x7b' :: rest => do
    if levels = some 0 then throw (.beyond .levels)
    match skipSpace rest with
    | '\x7d' :: left => .ok (.obj [], left)
    | start => do
      let (members, left) ← readMembers (levels.map (· - 1)) fuel [] start
      .ok (.obj members, left)
  | _ + 1, cs =>
    match scalar? cs with
    | some found => .ok found
    | none => if startsTooLong cs then .error (.beyond .digits) else refuse .value cs

def readItems (levels : Option Nat) : Nat → List Char → Except Refusal (List Json × List Char)
  | 0, cs => refuse .value cs
  | fuel + 1, cs => do
    let (v, left) ← readValue levels fuel cs
    match skipSpace left with
    | ']' :: rest => .ok ([v], rest)
    | ',' :: rest => do
      let (vs, after) ← readItems levels fuel (skipSpace rest)
      .ok (v :: vs, after)
    | other => refuse .comma other

def readMembers (levels : Option Nat) : Nat → List (String × Json) → List Char →
    Except Refusal (List (String × Json) × List Char)
  | 0, _, cs => refuse .propertyName cs
  | fuel + 1, seen, '"' :: cs => do
    let (key, afterKey) ← readText fuel cs
    match skipSpace afterKey with
    | ':' :: rest => do
      let (v, left) ← readValue levels fuel (skipSpace rest)
      let members := put key v seen
      match skipSpace left with
      | '\x7d' :: after => .ok (members, after)
      | ',' :: after => readMembers levels fuel members (skipSpace after)
      | other => refuse .comma other
    | other => refuse .colon other
  | _ + 1, _, cs => refuse .propertyName cs

end

def read (text : String) (levels : Option Nat := none) : Except Refusal Json :=
  let cs := text.toList
  match cs with
  | '\ufeff' :: _ => refuse .unmarkedStart cs
  | _ => do
    let (v, left) ← readValue levels (2 * cs.length + 2) (skipSpace cs)
    match skipSpace left with
    | [] => .ok v
    | rest => refuse .endOfText rest

def Refusal.message (text : String) : Refusal → String
  | beyond .digits => "Too many digits in a whole number"
  | beyond .levels => "Too many lists and objects in each other"
  | beyond .halves => "Half of a pair of units stands alone"
  | lacking lack remaining =>
    let before := text.toList.take (text.length - remaining)
    let line := before.count '\n' + 1
    let column := (before.reverse.takeWhile (· != '\n')).length + 1
    s!"{lack.message}: line {line} column {column} (char {before.length})"

end RealmModels.Json
