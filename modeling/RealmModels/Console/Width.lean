import RealmModels.Text.WidthRanges

namespace RealmModels.Console

def charWidth (c : Char) : Nat :=
  if Text.inRanges Text.zeroWidthRanges c.toNat then 0
  else if Text.inRanges Text.doubleWidthRanges c.toNat then 2
  else 1

def isWidened (c : Char) : Bool := Text.inRanges Text.widenedRanges c.toNat

def widthAfter : Option Char → List Char → Nat
  | _, [] => 0
  | last, '\u200d' :: _ :: cs => widthAfter last cs
  | last, '\ufe0f' :: cs => (if last.any isWidened then 1 else 0) + widthAfter none cs
  | last, c :: cs =>
    match charWidth c with
    | 0 => widthAfter last cs
    | n => n + widthAfter (some c) cs

def width (cs : List Char) : Nat := widthAfter none cs

def spaces (n : Nat) : List Char := List.replicate n ' '

def padded (n : Nat) (cs : List Char) : List Char := cs ++ spaces (n - width cs)

structure Cluster where
  chars : List Char
  cells : Nat
  deriving DecidableEq, Repr

def clustersAfter (found : List Cluster) (last : Option Char) : List Char → List Cluster
  | [] => found.reverse
  | c :: cs =>
    match found with
    | [] => clustersAfter [⟨[c], charWidth c⟩] (if charWidth c = 0 then none else some c) cs
    | sign :: signs =>
      if c = '\u200d' then
        match cs with
        | d :: cs => clustersAfter ({ sign with chars := sign.chars ++ [c, d] } :: signs) last cs
        | [] => clustersAfter ({ sign with chars := sign.chars ++ [c] } :: signs) last []
      else if c = '\ufe0f' then
        if last.any isWidened then
          clustersAfter (⟨sign.chars ++ [c], sign.cells + 1⟩ :: signs) none cs
        else clustersAfter ({ sign with chars := sign.chars ++ [c] } :: signs) last cs
      else if charWidth c = 0 then
        clustersAfter ({ sign with chars := sign.chars ++ [c] } :: signs) last cs
      else clustersAfter (⟨[c], charWidth c⟩ :: sign :: signs) (some c) cs

def clusters (cs : List Char) : List Cluster := clustersAfter [] none cs

def takeCells (n : Nat) : List Cluster → List Char
  | [] => []
  | sign :: signs =>
    if sign.cells ≤ n then sign.chars ++ takeCells (n - sign.cells) signs
    else spaces n

def cutTo (n : Nat) (cs : List Char) : List Char := takeCells n (clusters cs)

end RealmModels.Console
