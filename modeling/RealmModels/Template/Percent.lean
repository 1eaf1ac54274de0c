import RealmModels.Decimal.Fixed
import RealmModels.Template.Value
import RealmModels.Text.Field
import RealmModels.Text.LetterCase

namespace RealmModels.Template.Percent

inductive Count where
  | absent
  | given (n : Nat)
  | next

structure Conversion where
  key : Option (List Char) := none
  flags : List Char := []
  width : Count := .absent
  precision : Count := .absent
  kind : Char

def Conversion.has (c : Conversion) (flag : Char) : Bool := c.flags.contains flag

structure Supply where
  rest : List Value
  source : Option Value

def Supply.ofValue : Value → Supply
  | .tuple vs => ⟨vs, none⟩
  | v =>
    match v with
    | .dict _ _ | .list _ | .range _ _ _ | .undefined => ⟨[v], some v⟩
    | _ => ⟨[v], none⟩

def parenthesized (depth : Nat) : List Char → Option (List Char × List Char)
  | [] => none
  | ')' :: cs =>
    match depth with
    | 0 => some ([], cs)
    | n + 1 => (parenthesized n cs).map fun (key, rest) => (')' :: key, rest)
  | c :: cs =>
    (parenthesized (if c = '(' then depth + 1 else depth) cs).map fun (key, rest) => (c :: key, rest)

def count (cs : List Char) : Count × List Char :=
  match cs with
  | '*' :: rest => (.next, rest)
  | _ =>
    match cs.span Char.isDigit with
    | ([], _) => (.absent, cs)
    | (ds, rest) => (.given (((Text.leadingNumber ds).1).getD 0), rest)

def conversion? (cs : List Char) : Option (Conversion × List Char) := do
  let (key, cs) ← match cs with
    | '(' :: cs => (parenthesized 0 cs).map fun (key, rest) => (some key, rest)
    | _ => some (none, cs)
  let (flags, cs) := cs.span "-+ #0".toList.contains
  let (width, cs) := count cs
  let (precision, cs) := match cs with
    | '.' :: cs =>
      match count cs with
      | (.absent, cs) => (.given 0, cs)
      | found => found
    | _ => (.absent, cs)
  let cs := match cs with
    | c :: rest => if c = 'h' || c = 'l' || c = 'L' then rest else cs
    | [] => []
  match cs with
  | kind :: rest => some (⟨key, flags, width, precision, kind⟩, rest)
  | [] => none

def maxWidth : Nat := 1000000

def resolve (c : Count) (s : Supply) : Option (Option Int × Supply) :=
  match c with
  | .absent => some (none, s)
  | .given n => if n ≤ maxWidth then some (some n, s) else none
  | .next =>
    match s.rest with
    | v :: rest => v.whole?.map fun n => (some n, { s with rest := rest })
    | [] => none

structure Written where
  isNegative : Bool
  size : String

def written? (c : Conversion) (precision : Option Nat) (v : Value) : Option Written := do
  let based := fun (base : Nat) (mark : String) => do
    let n ← v.whole?
    let digits := String.ofList (Nat.toDigits base n.natAbs)
    let digits := Decimal.zeroPadded (precision.getD 0) digits
    return Written.mk (n < 0) (if c.has '#' then mark ++ digits else digits)
  let real := fun (size : Float → String) => do
    let x ← match v with
      | .real x => some x
      | v => v.whole?.bind Decimal.ofWhole?
    if x.isNaN then return ⟨false, "nan"⟩
    let isNegative := x.toBits.toNat ≥ Decimal.twoTo 63
    return Written.mk isNegative (if x.isInf then "inf" else size x)
  let places := precision.getD 6
  let capital := fun w : Written => { w with size := String.ofList (Text.upper w.size.toList) }
  match c.kind with
  | 'd' | 'i' | 'u' =>
    let n ← match v with
      | .real x => if x.isFinite then some (Decimal.truncated x) else none
      | v => v.whole?
    return ⟨n < 0, Decimal.zeroPadded (precision.getD 0) (toString n.natAbs)⟩
  | 'o' => based 8 "0o"
  | 'x' => based 16 "0x"
  | 'X' => (based 16 "0x").map capital
  | 'f' => real (Decimal.fixedSize · places)
  | 'F' => (real (Decimal.fixedSize · places)).map capital
  | 'e' => real (Decimal.exponentialSize · places)
  | 'E' => (real (Decimal.exponentialSize · places)).map capital
  | 'g' => real (Decimal.generalSize · places (c.has '#'))
  | 'G' => (real (Decimal.generalSize · places (c.has '#'))).map capital
  | _ => none

def padded (isLeft : Bool) (width : Nat) (cs : List Char) : List Char :=
  let blanks := List.replicate (width - cs.length) ' '
  if isLeft then cs ++ blanks else blanks ++ cs

def placed (c : Conversion) (isLeft : Bool) (width : Nat) (w : Written) : List Char :=
  let sign := if w.isNegative then ['-'] else if c.has '+' then ['+']
    else if c.has ' ' then [' '] else []
  let size := w.size.toList
  if c.has '0' && !isLeft then
    sign ++ List.replicate (width - sign.length - size.length) '0' ++ size
  else padded isLeft width (sign ++ size)

def textOf (isSafe : Bool) (kind : Char) (v : Value) : List Char :=
  let shown := if kind = 's' then (if isSafe then v.markup else v.display)
    else if isSafe then escapedText v.inspect else v.inspect
  if kind = 'a' then shown.toList.flatMap Text.asciiChar else shown.toList

def converted? (isSafe : Bool) (c : Conversion) (isLeft : Bool) (width : Nat)
    (precision : Option Nat) (v : Value) : Option (List Char) :=
  if ['s', 'r', 'a'].contains c.kind then
    let cs := textOf isSafe c.kind v
    some (padded isLeft width (precision.elim cs cs.take))
  else if c.kind = 'c' then
    match v with
    | .text s _ => if s.length = 1 && !isSafe then some (padded isLeft width s.toList) else none
    | v => v.whole?.bind fun n =>
      if 0 ≤ n && n.toNat.isValidChar then some (padded isLeft width [Char.ofNat n.toNat]) else none
  else (written? c precision v).map (placed c isLeft width)

def fill (isSafe : Bool) : Nat → Supply → List Char → Option (List Char)
  | 0, _, _ => none
  | _ + 1, s, [] => if s.rest.isEmpty || s.source.isSome then some [] else none
  | fuel + 1, s, '%' :: cs => do
    let (c, rest) ← conversion? cs
    let s ← match c.key, s.source with
      | none, _ => some s
      | some key, some (.dict ks vs) =>
        (Value.plain (String.ofList key)).key?.bind fun k =>
          (Value.lookup k ks vs).map fun v => { s with rest := [v] }
      | some _, _ => none
    let (width, s) ← resolve c.width s
    let (precision, s) ← resolve c.precision s
    let isLeft := c.has '-' || width.any (· < 0)
    let width := (width.getD 0).natAbs
    if width > maxWidth then none
    if c.kind = '%' then return '%' :: (← fill isSafe fuel s rest)
    match s.rest with
    | v :: more =>
      let shown ← converted? isSafe c isLeft width (precision.map Int.toNat) v
      return shown ++ (← fill isSafe fuel { s with rest := more } rest)
    | [] => none
  | fuel + 1, s, c :: cs => do return c :: (← fill isSafe fuel s cs)

def format? (pattern : String) (isSafe : Bool) (v : Value) : Option Value :=
  (fill isSafe (pattern.length + 1) (.ofValue v) pattern.toList).map fun cs =>
    .text (String.ofList cs) isSafe

end RealmModels.Template.Percent
