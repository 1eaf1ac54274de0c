namespace RealmModels.Text

def isBlank (c : Char) : Bool :=
  let n := c.toNat
  (9 ≤ n && n ≤ 13) || (0x1c ≤ n && n ≤ 0x20) || n == 0x85 || n == 0xa0 || n == 0x1680 ||
    (0x2000 ≤ n && n ≤ 0x200a) || n == 0x2028 || n == 0x2029 || n == 0x202f || n == 0x205f ||
    n == 0x3000

def dropEndWhile {α : Type} (p : α → Bool) : List α → List α
  | [] => []
  | a :: as =>
    match dropEndWhile p as with
    | [] => if p a then [] else [a]
    | rest => a :: rest

def stripEnds {α : Type} (p : α → Bool) (as : List α) : List α :=
  dropEndWhile p (as.dropWhile p)

def trimEnd (cs : List Char) : List Char := dropEndWhile isBlank cs

def trim (cs : List Char) : List Char := stripEnds isBlank cs

end RealmModels.Text
