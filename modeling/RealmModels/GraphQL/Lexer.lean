import RealmModels.GraphQL.Token
import RealmModels.Json.Reader
import RealmModels.Text.Blank
import RealmModels.Text.Lines

namespace RealmModels.GraphQL

open Json (hexValue? fourHex? isHighHalf isLowHalf)

def isIndentation (c : Char) : Bool := c = ' ' || c = '\t'

def isBlankLine (line : List Char) : Bool := line.all isIndentation

def commonIndentation (ls : List (List Char)) : Option Nat :=
  ((ls.filter (!isBlankLine ·)).map fun l => (l.takeWhile isIndentation).length).min?

def unindent : List (List Char) → List (List Char)
  | [] => []
  | first :: rest =>
    match commonIndentation rest with
    | none => first :: rest
    | some n => first :: rest.map (·.drop n)

def blockLines (ls : List (List Char)) : List (List Char) :=
  Text.stripEnds isBlankLine (unindent ls)

def isScalarValue (n : Nat) : Bool := n < 0xd800 || (0xe000 ≤ n && n < 0x110000)

def codePoint? (n : Nat) : Option Char :=
  if isScalarValue n then some (Char.ofNat n) else none

def bracedCode? : Nat → Nat → List Char → Option (Nat × List Char)
  | 0, _, _ => none
  | _ + 1, n, '\x7d' :: rest => some (n, rest)
  | fuel + 1, n, c :: rest => do
    let h ← hexValue? c
    bracedCode? fuel (16 * n + h) rest
  | _ + 1, _, [] => none

def unicodeEscape? : List Char → Option (Char × List Char)
  | '\x7b' :: '\x7d' :: _ => none
  | '\x7b' :: rest => do
    let (n, after) ← bracedCode? 9 0 rest
    pure (← codePoint? n, after)
  | cs => do
    let (n, rest) ← fourHex? cs
    if isHighHalf n then
      match rest with
      | '\\' :: 'u' :: low => do
        let (m, after) ← fourHex? low
        if isLowHalf m then
          pure (Char.ofNat (0x10000 + (n - 0xd800) * 1024 + (m - 0xdc00)), after)
        else none
      | _ => none
    else pure (← codePoint? n, rest)

def stringChars : Nat → List Char → Option (List Char × List Char)
  | 0, _ => none
  | _ + 1, [] => none
  | _ + 1, '"' :: rest => some ([], rest)
  | fuel + 1, '\\' :: 'u' :: rest => do
    let (c, after) ← unicodeEscape? rest
    let (cs, left) ← stringChars fuel after
    pure (c :: cs, left)
  | fuel + 1, '\\' :: e :: rest => do
    let c ← Json.simpleEscape? e
    let (cs, left) ← stringChars fuel rest
    pure (c :: cs, left)
  | fuel + 1, c :: rest =>
    if c = '\\' || c = '\n' || c = '\r' then none
    else do
      let (cs, left) ← stringChars fuel rest
      pure (c :: cs, left)

def blockChars : List Char → Option (List Char × List Char)
  | '"' :: '"' :: '"' :: rest => some ([], rest)
  | '\\' :: '"' :: '"' :: '"' :: rest => do
    let (cs, left) ← blockChars rest
    pure ('"' :: '"' :: '"' :: cs, left)
  | c :: rest => do
    let (cs, left) ← blockChars rest
    pure (c :: cs, left)
  | [] => none

def blockValue (cs : List Char) : String :=
  Text.unlines ((blockLines (Text.cutAt '\n' (Text.unifyLineEnds cs))).map String.ofList)

def someDigits? (cs : List Char) : Option (List Char × List Char) :=
  match cs.span Char.isDigit with
  | ([], _) => none
  | found => some found

def wholePart? : List Char → Option (List Char × List Char)
  | '0' :: rest => if (rest.head?.map Char.isDigit).getD false then none else some (['0'], rest)
  | cs => someDigits? cs

def fractionPart? : List Char → Option (List Char × List Char)
  | '.' :: rest => (someDigits? rest).map fun (ds, left) => ('.' :: ds, left)
  | cs => some ([], cs)

def exponentPart? : List Char → Option (List Char × List Char)
  | e :: rest =>
    if e = 'e' || e = 'E' then
      match rest with
      | s :: digits =>
        if s = '+' || s = '-' then (someDigits? digits).map fun (ds, left) => (e :: s :: ds, left)
        else (someDigits? rest).map fun (ds, left) => (e :: ds, left)
      | [] => none
    else some ([], e :: rest)
  | [] => some ([], [])

def number? (cs : List Char) : Option (Token × List Char) := do
  let (sign, body) := match cs with
    | '-' :: rest => (['-'], rest)
    | _ => ([], cs)
  let (whole, afterWhole) ← wholePart? body
  let (fraction, afterFraction) ← fractionPart? afterWhole
  let (power, rest) ← exponentPart? afterFraction
  let text := String.ofList (sign ++ whole ++ fraction ++ power)
  match rest with
  | c :: _ => if c = '.' || isNameStart c then none else pure ()
  | [] => pure ()
  pure (if fraction.isEmpty && power.isEmpty then .int text else .float text, rest)

def token? (cs : List Char) : Option (Token × List Char) :=
  match cs with
  | '.' :: '.' :: '.' :: rest => some (.spread, rest)
  | '"' :: '"' :: '"' :: rest =>
    (blockChars rest).map fun (b, left) => (.string (blockValue b), left)
  | '"' :: rest =>
    (stringChars (rest.length + 1) rest).map fun (s, left) => (.string (String.ofList s), left)
  | c :: rest =>
    if isPunctuator c then some (.punctuator c, rest)
    else if isNameStart c then
      let (name, left) := cs.span isNameContinue
      some (.name (String.ofList name), left)
    else if c = '-' || c.isDigit then number? cs
    else none
  | [] => none

def tokensFrom : Nat → List Char → Option (List Token)
  | _, [] => some []
  | 0, _ => none
  | fuel + 1, '#' :: rest => tokensFrom fuel (rest.dropWhile fun c => c != '\n' && c != '\r')
  | fuel + 1, c :: rest =>
    if isIgnored c then tokensFrom fuel rest
    else do
      let (t, left) ← token? (c :: rest)
      let ts ← tokensFrom fuel left
      pure (t :: ts)

def tokens? (text : String) : Option (List Token) :=
  tokensFrom text.length text.toList

end RealmModels.GraphQL
