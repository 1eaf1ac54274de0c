import RealmModels.Decimal.Fixed
import RealmModels.Template.Value
import RealmModels.Text.Field
import RealmModels.Text.LetterCase

namespace RealmModels.Template

inductive Standing where
  | left
  | right
  | center
  | inside
  deriving DecidableEq, Repr

structure Layout where
  fill : Char := ' '
  standing : Standing := .right
  sign : Char := '-'
  isMarked : Bool := false
  width : Nat := 0
  separator : Option Char := none
  places : Option Nat := none
  kind : Option Char := none
  deriving DecidableEq, Repr

namespace Layout

def standing? : Char → Option Standing
  | '<' => some .left
  | '>' => some .right
  | '^' => some .center
  | '=' => some .inside
  | _ => none

def start (cs : List Char) : Layout × Bool × Bool × List Char :=
  match cs with
  | fill :: c :: rest =>
    match standing? c, standing? fill with
    | some s, _ => ({ fill := fill, standing := s }, true, true, rest)
    | none, some s => ({ standing := s }, false, true, c :: rest)
    | none, none => ({}, false, false, cs)
  | [c] => (standing? c).elim ({}, false, false, cs) fun s => ({ standing := s }, false, true, [])
  | [] => ({}, false, false, [])

def takeIf (ok : Char → Bool) : List Char → Option Char × List Char
  | c :: rest => if ok c then (some c, rest) else (none, c :: rest)
  | [] => (none, [])

def maxWidth : Nat := 1000000

def ofChars? (cs : List Char) : Option Layout := do
  let (layout, hasFill, hasPlace, cs) := start cs
  let (sign, cs) := takeIf "+- ".toList.contains cs
  let (mark, cs) := takeIf (· == '#') cs
  let (zero, cs) := if hasFill then (none, cs) else takeIf (· == '0') cs
  let (width, cs) := Text.leadingNumber cs
  let (separator, cs) := takeIf ",_".toList.contains cs
  let (places, cs) ← Text.Field.longest? cs
  let (kind, cs) := takeIf (fun _ => true) cs
  if !cs.isEmpty || width.getD 0 > maxWidth || places.getD 0 > maxWidth then none
  some { layout with
    fill := if zero.isSome then '0' else layout.fill
    standing := if zero.isSome && !hasPlace then .inside else layout.standing
    sign := sign.getD '-'
    isMarked := mark.isSome
    width := width.getD 0
    separator, places, kind }

def separated (size : Nat) (c : Char) (digits : List Char) : List Char :=
  (go 0 digits.reverse).reverse
where
  go (n : Nat) : List Char → List Char
    | [] => []
    | d :: ds => if n = size then c :: d :: go 1 ds else d :: go (n + 1) ds

def widened (size : Nat) (c : Char) (width : Nat) : Nat → List Char → List Char
  | 0, digits => separated size c digits
  | fuel + 1, digits =>
    let cs := separated size c digits
    if cs.length < width then widened size c width fuel ('0' :: digits) else cs

def assemble (layout : Layout) (groupSize : Nat) (isNegative : Bool) (mark whole rest : List Char) :
    List Char :=
  let sign := if isNegative then ['-'] else if layout.sign = '-' then [] else [layout.sign]
  let lead := sign ++ mark
  let whole := match layout.separator with
    | none => whole
    | some c =>
      let isWidened := layout.standing = .inside && layout.fill = '0'
      widened groupSize c
        (if isWidened then layout.width - lead.length - rest.length else 0) layout.width whole
  let missing := layout.width - (lead ++ whole ++ rest).length
  let fills := fun n => List.replicate n layout.fill
  match layout.standing with
  | .left => lead ++ whole ++ rest ++ fills missing
  | .right => fills missing ++ lead ++ whole ++ rest
  | .center => fills (missing / 2) ++ lead ++ whole ++ rest ++ fills (missing - missing / 2)
  | .inside => lead ++ fills missing ++ whole ++ rest

def generalWithPoint (x : Float) (places : Nat) : String :=
  let digits := if places = 0 then 1 else places
  let (units, e) := Decimal.leadingDigits x (digits - 1)
  if e < -4 || e + 1 ≥ digits then
    Decimal.dropZeros (Decimal.withPoint (digits - 1) units) ++ Decimal.exponentText e
  else
    let text := Decimal.dropZeros (Decimal.fixedSize x (digits - 1 - e).toNat)
    if text.contains '.' then text else text ++ ".0"

def realSize? (layout : Layout) (x : Float) : Option String :=
  let places := layout.places.getD 6
  let finite := fun (size : Float → String) =>
    if x.isNaN then "nan" else if x.isInf then "inf" else size x
  let capital := fun s : String => String.ofList (Text.upper s.toList)
  match layout.kind with
  | none => some <| finite fun x =>
    match layout.places with
    | some n => generalWithPoint x n
    | none => Decimal.render Json.shownReal x.abs
  | some 'f' => some (finite (Decimal.fixedSize · places))
  | some 'F' => some (capital (finite (Decimal.fixedSize · places)))
  | some 'e' => some (finite (Decimal.exponentialSize · places))
  | some 'E' => some (capital (finite (Decimal.exponentialSize · places)))
  | some 'g' | some 'n' => some (finite (Decimal.generalSize · places layout.isMarked))
  | some 'G' => some (capital (finite (Decimal.generalSize · places layout.isMarked)))
  | some '%' => some (finite (fun x => Decimal.fixedSize (x * 100.0) places) ++ "%")
  | _ => none

def real? (layout : Layout) (x : Float) : Option (List Char) := do
  let size ← layout.realSize? x
  let (whole, rest) := size.toList.span Char.isDigit
  let isNegative := !x.isNaN && x.toBits.toNat ≥ Decimal.twoTo 63
  return layout.assemble 3 isNegative [] whole rest

def isRealKind (kind : Option Char) : Bool := kind.any "eEfFgG%".toList.contains

def whole? (layout : Layout) (n : Int) : Option (List Char) :=
  let based := fun (base : Nat) (mark : String) =>
    if layout.separator = some ',' then none
    else some <| layout.assemble 4 (n < 0) (if layout.isMarked then mark.toList else [])
      (Nat.toDigits base n.natAbs) []
  if isRealKind layout.kind then (Decimal.ofWhole? n).bind layout.real?
  else if layout.places.isSome then none
  else
    match layout.kind with
    | none | some 'd' =>
      some (layout.assemble 3 (n < 0) [] (toString n.natAbs).toList [])
    | some 'n' =>
      if layout.separator.isSome then none
      else some (layout.assemble 3 (n < 0) [] (toString n.natAbs).toList [])
    | some 'b' => based 2 "0b"
    | some 'o' => based 8 "0o"
    | some 'x' => based 16 "0x"
    | some 'X' => (based 16 "0x").map Text.upper
    | some 'c' =>
      if layout.sign ≠ '-' || layout.isMarked || layout.separator.isSome || n < 0 ||
          !n.toNat.isValidChar then none
      else some (layout.assemble 3 false [] [Char.ofNat n.toNat] [])
    | _ => none

end Layout

end RealmModels.Template
