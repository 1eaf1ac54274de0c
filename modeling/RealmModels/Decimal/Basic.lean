namespace RealmModels.Decimal

def twoTo (n : Nat) : Nat := Nat.pow 2 n

def tenTo (n : Nat) : Nat := Nat.pow 10 n

def onGrid (n : Nat) (e k : Int) : Nat × Nat :=
  (n * twoTo e.toNat * tenTo (-k).toNat, twoTo (-e).toNat * tenTo k.toNat)

def roundHalfEven (num den : Nat) : Nat :=
  let down := num / den
  let twice := 2 * (num % den)
  if den < twice || (twice = den && down % 2 = 1) then down + 1 else down

def scaled (num den : Nat) (q : Int) : Nat × Nat := (num * twoTo (-q).toNat, den * twoTo q.toNat)

def lastPlace (num den : Nat) : Int :=
  let guess : Int := num.log2 - den.log2 - 53
  let (n, d) := scaled num den guess
  let q := if n / d < twoTo 53 then guess else guess + 1
  if q < -1074 then -1074 else q

def bitsOfRatio (num den : Nat) : Nat :=
  let q := lastPlace num den
  let (n, d) := scaled num den q
  let m := roundHalfEven n d
  if m < twoTo 52 then m else (q + 1074).toNat * twoTo 52 + m

def infinityBits : Nat := 0x7ff0000000000000

def nearest (mantissa : Nat) (exponent : Int) : Float :=
  let size := (toString mantissa).length + exponent
  let bits :=
    if mantissa = 0 || size < -400 then 0
    else if 400 < size then infinityBits
    else
      let (num, den) := onGrid mantissa 0 (-exponent)
      bitsOfRatio num den
  Float.ofBits (if bits < infinityBits then bits else infinityBits).toUInt64

end RealmModels.Decimal
