import RealmModels.Text.Digits
import RealmModels.Text.Identifier

namespace RealmModels.Console

open Text

inductive Constant where
  | real
  | imaginary
  | signedReal
  | other
  | changeable
  deriving DecidableEq, Repr

namespace Constant

def isKey (c : Constant) : Bool := c ≠ changeable

def signed? : Constant → Option Constant
  | real => some signedReal
  | imaginary => some other
  | _ => none

def sum? : Constant → Constant → Option Constant
  | real, imaginary | signedReal, imaginary => some other
  | _, _ => none

def skip (inside : Bool) : Bool → List Char → List Char
  | _, [] => []
  | true, c :: cs => if c = '\n' then skip inside false (c :: cs) else skip inside true cs
  | false, '\\' :: '\n' :: cs => skip inside false cs
  | false, c :: cs =>
    if c = ' ' || c = '\t' || c = '\x0c' || (inside && c = '\n') then skip inside false cs
    else if c = '#' then skip inside true cs
    else c :: cs
termination_by remark cs => (cs.length, if remark then 1 else 0)

def endNumber (kind : Constant) : List Char → Option (Constant × List Char)
  | [] => some (kind, [])
  | c :: cs =>
    if kind = real && (c = 'j' || c = 'J') then endNumber imaginary cs
    else if isIdentifierContinue c then none else some (kind, c :: cs)

def exponent? : List Char → Option (List Char)
  | [] => none
  | c :: cs =>
    if c = 'e' || c = 'E' then
      let cs := match cs with
        | '+' :: cs | '-' :: cs => cs
        | cs => cs
      match groupedDigits Char.isDigit cs with
      | ([], _) => none
      | (_, rest) => some rest
    else none

def based (ok : Char → Bool) (cs : List Char) : Option (Constant × List Char) :=
  match moreDigits ok cs with
  | ([], _) => none
  | (_, c :: rest) => if isIdentifierContinue c then none else some (real, c :: rest)
  | (_, []) => some (real, [])

def number? (cs : List Char) : Option (Constant × List Char) :=
  match cs with
  | '0' :: 'x' :: cs | '0' :: 'X' :: cs => based isHexDigit cs
  | '0' :: 'o' :: cs | '0' :: 'O' :: cs => based isOctalDigit cs
  | '0' :: 'b' :: cs | '0' :: 'B' :: cs => based isBinaryDigit cs
  | cs =>
    let (whole, rest) := groupedDigits Char.isDigit cs
    let (part, isReal, rest) : List Char × Bool × List Char := match rest with
      | '.' :: rest => let (part, rest) := groupedDigits Char.isDigit rest; (part, true, rest)
      | rest => ([], false, rest)
    if whole.isEmpty && part.isEmpty then none
    else
      let (isReal, rest) := match exponent? rest with
        | some rest => (true, rest)
        | none => (isReal, rest)
      let isPadded := whole.head? = some '0' && whole.any (· ≠ '0')
      match endNumber real rest with
      | some (real, rest) => if isPadded && !isReal then none else some (real, rest)
      | found => found

def escape? (isText : Bool) : List Char → Option (List Char)
  | 'x' :: a :: b :: cs => if isHexDigit a && isHexDigit b then some cs else none
  | 'x' :: _ => none
  | 'u' :: cs =>
    if !isText then some cs
    else if cs.length ≥ 4 && (cs.take 4).all isHexDigit then some (cs.drop 4) else none
  | 'U' :: cs =>
    if !isText then some cs
    else if cs.length ≥ 8 && (cs.take 8).all isHexDigit && (cs.take 2).all (· = '0') &&
      ((cs.take 3).all (· = '0') || (cs.take 4).drop 2 = ['1', '0']) then some (cs.drop 8)
    else none
  | 'N' :: cs => if isText then none else some cs
  | _ :: cs => some cs
  | [] => none

def closeQuote (quote : Char) (isLong isText isRaw : Bool) : Nat → List Char → Option (List Char)
  | 0, _ | _, [] => none
  | fuel + 1, c :: cs =>
    if c = '\\' then
      if isRaw then closeQuote quote isLong isText isRaw fuel (cs.drop 1)
      else (escape? isText cs).bind (closeQuote quote isLong isText isRaw fuel)
    else if c = '\n' && !isLong then none
    else if !isText && c.toNat ≥ 128 then none
    else if c ≠ quote then closeQuote quote isLong isText isRaw fuel cs
    else if !isLong then some cs
    else if cs.take 2 = [quote, quote] then some (cs.drop 2)
    else closeQuote quote isLong isText isRaw fuel cs

def quoted? (mark : List Char) (cs : List Char) : Option (Bool × List Char) :=
  let mark := mark.map Char.toLower
  let isText := !mark.contains 'b'
  if !([[], ['r'], ['u'], ['b'], ['r', 'b'], ['b', 'r']].contains mark) then none
  else
    match cs with
    | [] => none
    | quote :: rest =>
      if quote ≠ '\'' && quote ≠ '"' then none
      else
        let isLong := rest.take 2 = [quote, quote]
        let body := if isLong then rest.drop 2 else rest
        (closeQuote quote isLong isText (mark.contains 'r') (body.length + 1) body).map
          ((isText, ·))

def moreQuoted (inside isText : Bool) : Nat → List Char → Option (List Char)
  | 0, cs => some cs
  | fuel + 1, cs =>
    let next := skip inside false cs
    let (mark, rest) := next.span Char.isAlpha
    match rest with
    | '"' :: _ | '\'' :: _ =>
      match quoted? mark rest with
      | some (isText', rest) =>
        if isText = isText' then moreQuoted inside isText fuel rest else none
      | none => none
    | _ => some cs

def word? (name : List Char) : Option Constant :=
  if ["True", "False", "None"].contains (String.ofList name) then some other else none

inductive Gathering where
  | empty
  | set
  | table

mutual

def atom? (inside : Bool) : Nat → List Char → Option (Constant × List Char)
  | 0, _ => none
  | fuel + 1, cs =>
    match skip inside false cs with
    | '.' :: '.' :: '.' :: rest => some (other, rest)
    | '(' :: rest =>
      match skip true false rest with
      | ')' :: rest => some (other, rest)
      | rest => do
        let (c, rest) ← many? true fuel rest
        match skip true false rest with
        | ')' :: rest => return (c, rest)
        | _ => none
    | '\x7b' :: rest => gather? .empty fuel rest
    | next =>
      let (mark, rest) := next.span Char.isAlpha
      match rest with
      | '"' :: _ | '\'' :: _ => do
        let (isText, rest) ← quoted? mark rest
        return (other, ← moreQuoted inside isText rest.length rest)
      | _ =>
        let (name, rest) := next.span isIdentifierContinue
        match number? next with
        | some found => some found
        | none =>
          if name = "set".toList then
            match skip inside false rest with
            | '(' :: rest =>
              match skip true false rest with
              | ')' :: rest => some (changeable, rest)
              | _ => none
            | _ => none
          else (word? name).map ((·, rest))

def signed (inside : Bool) : Nat → List Char → Option (Constant × List Char)
  | 0, _ => none
  | fuel + 1, cs =>
    match skip inside false cs with
    | '+' :: rest | '-' :: rest => do
      let (c, rest) ← atom? inside fuel rest
      return (← c.signed?, rest)
    | rest => atom? inside fuel rest

def one? (inside : Bool) : Nat → List Char → Option (Constant × List Char)
  | 0, _ => none
  | fuel + 1, cs => do
    let (c, rest) ← signed inside fuel cs
    match skip inside false rest with
    | '+' :: rest | '-' :: rest => do
      let (d, rest) ← atom? inside fuel rest
      return (← c.sum? d, rest)
    | rest => return (c, rest)

def many? (inside : Bool) : Nat → List Char → Option (Constant × List Char)
  | 0, _ => none
  | fuel + 1, cs => do
    let (c, rest) ← one? inside fuel cs
    match skip inside false rest with
    | ',' :: rest =>
      let c := if c.isKey then other else changeable
      match skip inside false rest with
      | [] => return (c, [])
      | ')' :: rest => return (c, ')' :: rest)
      | rest =>
        let (d, rest) ← many? inside fuel rest
        return (if c.isKey && d.isKey then other else changeable, rest)
    | rest => return (c, rest)

def gather? (gathered : Gathering) : Nat → List Char → Option (Constant × List Char)
  | 0, _ => none
  | fuel + 1, cs =>
    match skip true false cs with
    | '\x7d' :: rest => some (changeable, rest)
    | rest => do
      let (key, rest) ← one? true fuel rest
      if !key.isKey then none
      let (kind, rest) ← match gathered, skip true false rest with
        | .empty, ':' :: rest | .table, ':' :: rest => do
          let (_, rest) ← one? true fuel rest
          pure (Gathering.table, rest)
        | .table, _ | .set, ':' :: _ => none
        | _, rest => pure (Gathering.set, rest)
      match skip true false rest with
      | ',' :: rest => gather? kind fuel rest
      | '\x7d' :: rest => return (changeable, rest)
      | _ => none

end

def isWritten (cs : List Char) : Bool :=
  let cs := cs.dropWhile fun c => c = ' ' || c = '\t'
  match many? false (6 * cs.length + 6) cs with
  | some (_, rest) => (skip true false rest).isEmpty
  | none => false

end Constant

end RealmModels.Console
