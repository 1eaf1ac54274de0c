import RealmModels.Json.Reader
import RealmModels.Text.Blank
import RealmModels.Text.Digits
import RealmModels.Text.Identifier
import RealmModels.Text.Quoted

namespace RealmModels.Template

open Json (hexValue?)

inductive Token where
  | text (s : String)
  | opening (isPrint : Bool)
  | closing
  | name (s : String)
  | number (v : Json)
  | string (s : String)
  | mark (s : String)
  deriving Inhabited

def doubleMarks : List (List Char) :=
  [['*', '*'], ['/', '/'], ['=', '='], ['!', '='], ['>', '='], ['<', '=']]

def isMark (c : Char) : Bool := "+-/*%~[]()\x7b\x7d><=.:|,;".toList.contains c

def mark? : List Char → Option (String × List Char)
  | a :: b :: rest =>
    if doubleMarks.contains [a, b] then some (String.ofList [a, b], rest)
    else if isMark a then some (String.singleton a, b :: rest)
    else none
  | [a] => if isMark a then some (String.singleton a, []) else none
  | [] => none

def hexCode? : Nat → Nat → List Char → Option (Nat × List Char)
  | 0, n, cs => some (n, cs)
  | width + 1, n, c :: cs => do hexCode? width (16 * n + (← hexValue? c)) cs
  | _ + 1, _, [] => none

def codeWidth? : Char → Option Nat
  | 'x' => some 2
  | 'u' => some 4
  | 'U' => some 8
  | _ => none

def octalCode (width : Nat) (cs : List Char) : Char × List Char :=
  let digits := (cs.take width).takeWhile Text.isOctalDigit
  (Char.ofNat (digits.foldl (fun n c => 8 * n + (c.toNat - '0'.toNat)) 0), cs.drop digits.length)

def escape? (e : Char) (rest : List Char) : Option (List Char × List Char) :=
  match codeWidth? e with
  | some width => do
    let (n, rest) ← hexCode? width 0 rest
    if n.isValidChar then some ([Char.ofNat n], rest) else none
  | none =>
    match e with
    | '\n' => some ([], rest)
    | '\\' | '\'' | '"' => some ([e], rest)
    | 'a' => some (['\x07'], rest)
    | 'b' => some (['\x08'], rest)
    | 'f' => some (['\x0c'], rest)
    | 'n' => some (['\n'], rest)
    | 'r' => some (['\x0d'], rest)
    | 't' => some (['\t'], rest)
    | 'v' => some (['\x0b'], rest)
    | 'N' => none
    | _ =>
      if Text.isOctalDigit e then
        let (c, rest) := octalCode 3 (e :: rest)
        some ([c], rest)
      else if e.toNat < 128 then some (['\\', e], rest)
      else some (Text.numberedChar e, rest)

def stringChars (quote : Char) : Nat → List Char → Option (List Char × List Char)
  | 0, _ | _ + 1, [] => none
  | fuel + 1, '\\' :: e :: rest => do
    let (cs, rest) ← escape? e rest
    let (more, rest) ← stringChars quote fuel rest
    some (cs ++ more, rest)
  | fuel + 1, c :: rest =>
    if c = quote then some ([], rest)
    else do
      let (more, rest) ← stringChars quote fuel rest
      some (c :: more, rest)

def maxDigits : Nat := 4300

def valueOf (base : Nat) (digits : List Char) : Nat :=
  digits.foldl (fun n c => base * n + ((Text.digitValue? c).orElse fun _ => hexValue? c).getD 0) 0

def exponent? (cs : List Char) : Option (Int × List Char) :=
  match cs with
  | e :: rest =>
    if e ≠ 'e' && e ≠ 'E' then none
    else
      let (sign, rest) : Int × List Char := match rest with
        | '-' :: rest => (-1, rest)
        | '+' :: rest => (1, rest)
        | _ => (1, rest)
      match Text.groupedDigits Text.isDecimalDigit rest with
      | ([], _) => none
      | (ds, rest) => some (sign * valueOf 10 ds, rest)
  | [] => none

def real? (cs : List Char) : Option (Json × List Char) :=
  let (whole, rest) := Text.groupedDigits Text.isDecimalDigit cs
  let (fraction, rest) :=
    match rest with
    | '.' :: behind =>
      match Text.groupedDigits Text.isDecimalDigit behind with
      | ([], _) => ([], rest)
      | found => found
    | _ => ([], rest)
  let value := fun exponent : Int =>
    Json.real (Decimal.nearest (valueOf 10 (whole ++ fraction)) (exponent - fraction.length))
  match exponent? rest with
  | some (e, rest) => some (value e, rest)
  | none => if fraction.isEmpty then none else some (value 0, rest)

def whole (cs : List Char) : Nat × List Char :=
  let based := fun (base : Nat) (ok : Char → Bool) (digits : List Char) =>
    match Text.moreDigits ok digits with
    | ([], _) => (0, cs.drop 1)
    | (ds, rest) => (valueOf base ds, rest)
  match cs with
  | '0' :: mark :: rest =>
    if mark = 'x' || mark = 'X' then
      based 16 (fun c => Text.isHexDigit c || Text.isDecimalDigit c) rest
    else if mark = 'o' || mark = 'O' then based 8 Text.isOctalDigit rest
    else if mark = 'b' || mark = 'B' then based 2 Text.isBinaryDigit rest
    else (0, (Text.moreDigits (· = '0') cs).2)
  | _ =>
    let (ds, rest) := Text.moreDigits Text.isDecimalDigit cs
    (valueOf 10 ds, rest)

def number? (afterPoint : Bool) (cs : List Char) : Option (Json × List Char) :=
  match if afterPoint then none else real? cs with
  | some (v, rest) =>
    if (cs.take (cs.length - rest.length)).all (·.toNat < 128) then some (v, rest) else none
  | none =>
    let (n, rest) := whole cs
    if cs.length - rest.length > maxDigits && n ≥ Decimal.tenTo maxDigits then none
    else some (.int n, rest)

def token? (afterPoint : Bool) (cs : List Char) : Option (Token × List Char) :=
  match cs with
  | [] => none
  | c :: rest =>
    if c.isDigit then (number? afterPoint cs).map fun (v, rest) => (.number v, rest)
    else if c = '\'' || c = '"' then
      (stringChars c cs.length rest).map fun (s, rest) => (.string (String.ofList s), rest)
    else if Text.isIdentifierStart c then
      let (name, rest) := cs.span Text.isIdentifierContinue
      some (.name (String.ofList name), rest)
    else (mark? cs).map fun (m, rest) => (.mark m, rest)

def due? (due : List String) (m : String) : Option (List String) :=
  match m with
  | "(" => some (")" :: due)
  | "[" => some ("]" :: due)
  | "\x7b" => some ("\x7d" :: due)
  | ")" | "]" | "\x7d" =>
    match due with
    | d :: due => if d = m then some due else none
    | [] => none
  | _ => some due

def tagTokens {α : Type} (ending? : List Char → Option α) :
    Nat → Bool → List String → List Char → Option (List Token × α)
  | 0, _, _, _ => none
  | fuel + 1, afterPoint, due, cs =>
    match if due.isEmpty then ending? cs else none with
    | some a => some ([], a)
    | none =>
      match cs with
      | [] => none
      | c :: rest =>
        if Text.isBlank c then tagTokens ending? fuel false due rest
        else do
          let (t, rest) ← token? afterPoint cs
          let (due, afterPoint) ← match t with
            | .mark m => (due? due m).map fun due => (due, m == ".")
            | _ => some (due, false)
          let (ts, a) ← tagTokens ending? fuel afterPoint due rest
          some (t :: ts, a)

end RealmModels.Template
