import RealmModels.Decimal.Exact
import RealmModels.Decimal.Shortest

namespace RealmModels.Decimal

def zeroPadded (width : Nat) (digits : String) : String := zeros (width - digits.length) ++ digits

def withPoint (places units : Nat) : String :=
  let digits := zeroPadded (places + 1) (toString units)
  let whole := (digits.take (digits.length - places)).toString
  if places = 0 then whole else whole ++ "." ++ (digits.drop (digits.length - places)).toString

def shifted (num den : Nat) (k : Int) : Nat :=
  roundHalfEven (num * tenTo k.toNat) (den * tenTo (-k).toNat)

def fixedSize (x : Float) (places : Nat) : String :=
  let (num, den) := ratio x
  withPoint places (shifted num.natAbs den places)

def leadingPlace (num den : Nat) : Int :=
  let guess : Int := (toString num).length - (toString den).length
  if num * tenTo (-guess).toNat < den * tenTo guess.toNat then guess - 1 else guess

def leadingDigits (x : Float) (places : Nat) : Nat × Int :=
  let (num, den) := ratio x
  if num = 0 then (0, 0)
  else
    let e := leadingPlace num.natAbs den
    let units := shifted num.natAbs den (places - e)
    if units < tenTo (places + 1) then (units, e) else (units / 10, e + 1)

def exponentText (e : Int) : String :=
  (if e < 0 then "e-" else "e+") ++ zeroPadded 2 (toString e.natAbs)

def exponentialSize (x : Float) (places : Nat) : String :=
  let (units, e) := leadingDigits x places
  withPoint places units ++ exponentText e

def dropZeros (text : String) : String :=
  if text.contains '.' then
    let cs := (text.toList.reverse.dropWhile (· = '0')).dropWhile (· = '.')
    String.ofList cs.reverse
  else text

def generalSize (x : Float) (digits : Nat) (keepsZeros : Bool) : String :=
  let digits := if digits = 0 then 1 else digits
  let (units, e) := leadingDigits x (digits - 1)
  let tidy := fun text => if keepsZeros then text else dropZeros text
  if e < -4 || e ≥ digits then tidy (withPoint (digits - 1) units) ++ exponentText e
  else tidy (fixedSize x (digits - 1 - e).toNat)

def rounded? (x : Float) (places : Int) : Option Float :=
  let (num, den) := ratio x
  if places > 400 || num = 0 then some x
  else if places < -400 then some (if x < 0.0 then -0.0 else 0.0)
  else
    let units := shifted num.natAbs den places
    ofRatio? (x < 0.0) (units * tenTo (-places).toNat) (tenTo places.toNat)

end RealmModels.Decimal
