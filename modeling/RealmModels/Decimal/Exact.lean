import RealmModels.Decimal.Basic

namespace RealmModels.Decimal

def digitsOf (bits : UInt64) : Nat × Int :=
  let fraction := bits.toNat % twoTo 52
  let scale := bits.toNat / twoTo 52 % twoTo 11
  if scale = 0 then (fraction, -1074) else (fraction + twoTo 52, (scale : Int) - 1075)

def isExactly (x : Float) (n : Int) : Bool :=
  let (m, q) := digitsOf x.abs.toBits
  x.isFinite && (x < 0.0) == (n < 0) && n.natAbs * twoTo (-q).toNat == m * twoTo q.toNat

def ofRatio? (isNegative : Bool) (num den : Nat) : Option Float :=
  let bits := if num = 0 then 0 else bitsOfRatio num den
  if bits < infinityBits then
    let x := Float.ofBits bits.toUInt64
    some (if isNegative then -x else x)
  else none

def ofWhole? (n : Int) : Option Float := ofRatio? (n < 0) n.natAbs 1

def ratio (x : Float) : Int × Nat :=
  let (m, q) := digitsOf x.abs.toBits
  let num := m * twoTo q.toNat
  (if x < 0.0 then -(num : Int) else num, twoTo (-q).toNat)

def compareWhole (x : Float) (n : Int) : Option Ordering :=
  if x.isNaN then none
  else if x.isInf then some (if x < 0.0 then .lt else .gt)
  else
    let (num, den) := ratio x
    some (compare num (n * den))

def floor (x : Float) : Int := let (num, den) := ratio x; num.fdiv den

def ceil (x : Float) : Int := -floor (-x)

def truncated (x : Float) : Int := let (num, den) := ratio x; num.tdiv den

def remainder (x y : Float) : Float :=
  let (a, c) := ratio x
  let (b, d) := ratio y
  (ofRatio? (x < 0.0) ((a.natAbs * d) % (b.natAbs * c)) (c * d)).getD 0.0

end RealmModels.Decimal
