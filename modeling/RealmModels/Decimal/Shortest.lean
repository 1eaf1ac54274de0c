import RealmModels.Decimal.Basic

namespace RealmModels.Decimal

structure Interval where
  low : Nat
  value : Nat
  high : Nat
  exponent : Int
  closed : Bool

def Interval.ofBits (bits : UInt64) : Interval :=
  let fraction := bits.toNat % twoTo 52
  let scale := bits.toNat / twoTo 52 % twoTo 11
  let m := if scale = 0 then fraction else fraction + twoTo 52
  let q : Int := (if scale = 0 then 1 else scale : Nat) - 1075
  let gap := if fraction = 0 && 1 < scale then 1 else 2
  { low := 4 * m - gap, value := 4 * m, high := 4 * m + 2, exponent := q - 2, closed := m % 2 = 0 }

def Interval.holds (i : Interval) (k : Int) (d : Nat) : Bool :=
  let (lowNum, den) := onGrid i.low i.exponent k
  let (highNum, _) := onGrid i.high i.exponent k
  let here := d * den
  0 < d && if i.closed then lowNum ≤ here && here ≤ highNum else lowNum < here && here < highNum

def Interval.digits? (i : Interval) (k : Int) : Option Nat :=
  let (num, den) := onGrid i.value i.exponent k
  let below := num / den
  match i.holds k below, i.holds k (below + 1) with
  | true, true => some (roundHalfEven num den)
  | true, false => some below
  | false, true => some (below + 1)
  | false, false => none

def Interval.coarsest (i : Interval) : Nat → Int → Nat × Int
  | 0, k => (0, k)
  | fuel + 1, k =>
    match i.digits? k with
    | some d => (d, k)
    | none => i.coarsest fuel (k - 1)

def shortest (x : Float) : Nat × Int :=
  (Interval.ofBits x.abs.toBits).coarsest 652 309

structure Layout where
  smallest : Int
  largest : Int
  infinity : String
  notANumber : String

def zeros (n : Nat) : String := String.ofList (List.replicate n '0')

def positional (digits : String) (point : Int) : String :=
  if point ≤ 0 then "0." ++ zeros (-point).toNat ++ digits
  else if digits.length ≤ point.toNat then digits ++ zeros (point.toNat - digits.length) ++ ".0"
  else (digits.take point.toNat).toString ++ "." ++ (digits.drop point.toNat).toString

def scientific (digits : String) (exponent : Int) : String :=
  let fraction := if digits.length ≤ 1 then "" else "." ++ (digits.drop 1).toString
  let size := toString exponent.natAbs
  let padded := if size.length < 2 then "0" ++ size else size
  (digits.take 1).toString ++ fraction ++ (if exponent < 0 then "e-" else "e+") ++ padded

def render (layout : Layout) (x : Float) : String :=
  if x.isNaN then layout.notANumber
  else
    let sign := if x.toBits.toNat < twoTo 63 then "" else "-"
    if x.isInf then sign ++ layout.infinity
    else if x == 0.0 then sign ++ "0.0"
    else
      let (d, k) := shortest x
      let digits := toString d
      let point := k + digits.length
      sign ++
        if layout.smallest ≤ point && point ≤ layout.largest then positional digits point
        else scientific digits (point - 1)

end RealmModels.Decimal
