import RealmModels.Text.CasedRanges
import RealmModels.Text.CaseTable

namespace RealmModels.Text

def isAscii (c : Char) : Bool := c.toNat < 128

def shifted? (shifts : Array (Nat × Nat × Nat × Int)) (n : Nat) : Option Nat :=
  (shifts.find? fun (first, last, step, _) => first ≤ n && n ≤ last && (n - first) % step == 0).map
    fun (_, _, _, shift) => (n + shift).toNat

def expansion? (table : Array (Nat × List Nat)) (n : Nat) : Option (List Char) :=
  (table.find? fun entry => entry.1 == n).map fun entry => entry.2.map Char.ofNat

def lowerChar (c : Char) : List Char :=
  if isAscii c then [c.toLower]
  else if c = 'İ' then ['i', '\u0307']
  else [(shifted? lowerShifts c.toNat).elim c Char.ofNat]

def upperChar (c : Char) : List Char :=
  if isAscii c then [c.toUpper]
  else
    (expansion? upperExpansions c.toNat).getD
      [(shifted? upperShifts c.toNat).elim c Char.ofNat]

def titleChar (c : Char) : List Char :=
  if isAscii c then [c.toUpper] else (expansion? titleForms c.toNat).getD (upperChar c)

def isCaseIgnorable (c : Char) : Bool := inRanges caseIgnorableRanges c.toNat

def hasCase (c : Char) : Bool :=
  if isAscii c then c.isAlpha else inRanges casedRanges c.toNat

def wordGoesOn (cs : List Char) : Bool := (cs.find? (!isCaseIgnorable ·)).any hasCase

def isInWord (before : Bool) (c : Char) : Bool :=
  if isCaseIgnorable c then before else hasCase c

def lowerWithin (inWord : Bool) (c : Char) (rest : List Char) : List Char :=
  if c = 'Σ' && inWord && !wordGoesOn rest then ['ς'] else lowerChar c

def lowerFrom (inWord : Bool) : List Char → List Char
  | [] => []
  | c :: cs => lowerWithin inWord c cs ++ lowerFrom (isInWord inWord c) cs

def lower (cs : List Char) : List Char := lowerFrom false cs

def upper (cs : List Char) : List Char := cs.flatMap upperChar

def isCherokee (c : Char) : Bool :=
  (0x13a0 ≤ c.toNat && c.toNat ≤ 0x13fd) || (0xab70 ≤ c.toNat && c.toNat ≤ 0xabbf)

def foldChar (c : Char) : List Char :=
  if c = 'ı' then [c]
  else if isCherokee c then upperChar c
  else ((lowerChar c).flatMap upperChar).flatMap lowerChar

def fold (cs : List Char) : List Char := cs.flatMap foldChar

def capitalize : List Char → List Char
  | [] => []
  | c :: cs => titleChar c ++ lowerFrom (isInWord false c) cs

end RealmModels.Text
