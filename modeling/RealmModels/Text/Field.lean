import RealmModels.Text.Digits

namespace RealmModels.Text

inductive Alignment where
  | left
  | right
  | center
  deriving DecidableEq, Repr

structure Field where
  fill : Char := ' '
  alignment : Alignment := .left
  width : Nat := 0
  longest : Option Nat := none
  deriving DecidableEq, Repr

def Alignment.ofChar? : Char → Option Alignment
  | '<' => some .left
  | '>' => some .right
  | '^' => some .center
  | _ => none

def leadingNumber (cs : List Char) : Option Nat × List Char :=
  let (ds, rest) := cs.span isDecimalDigit
  (if ds.isEmpty then none else some (ds.foldl (fun n d => 10 * n + (digitValue? d).getD 0) 0), rest)

namespace Field

def ofStart (cs : List Char) : Field × List Char :=
  match cs with
  | fill :: c :: rest =>
    match Alignment.ofChar? c, Alignment.ofChar? fill with
    | some a, _ => ({ fill := fill, alignment := a }, rest)
    | none, some a => ({ alignment := a }, c :: rest)
    | none, none => ({}, cs)
  | [c] => ((Alignment.ofChar? c).elim ({}, cs) fun a => ({ alignment := a }, []))
  | [] => ({}, [])

def maxNumber : Nat := 9223372036854775807

def leastTooWide : Nat := 0x80000000

def isTooWide (field : Field) : Bool := leastTooWide ≤ field.width

def hasFill (cs : List Char) : Bool := (cs[1]?.bind Alignment.ofChar?).isSome

def longest? (cs : List Char) : Option (Option Nat × List Char) :=
  match cs with
  | '.' :: rest =>
    match leadingNumber rest with
    | (some n, rest) => some (some n, rest)
    | (none, _) => none
  | _ => some (none, cs)

def ofChars? (cs : List Char) : Option Field := do
  let (field, rest) := ofStart cs
  let (field, rest) :=
    match hasFill cs, rest with
    | false, '0' :: rest => ({ field with fill := '0' }, rest)
    | _, _ => (field, rest)
  let (width, rest) := leadingNumber rest
  let (longest, rest) ← longest? rest
  if (rest = [] || rest = ['s']) && width.getD 0 ≤ maxNumber && longest.getD 0 ≤ maxNumber then
    some { field with width := width.getD 0, longest := longest }
  else none

def apply (field : Field) (cs : List Char) : List Char :=
  let kept := field.longest.elim cs cs.take
  let missing := field.width - kept.length
  let before :=
    match field.alignment with
    | .left => 0
    | .right => missing
    | .center => missing / 2
  List.replicate before field.fill ++ kept ++ List.replicate (missing - before) field.fill

end Field

end RealmModels.Text
