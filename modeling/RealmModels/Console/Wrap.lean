import RealmModels.Console.Width
import RealmModels.Text.Lines

/-!
Breaking texts into lines of a limited width. Lines break between words; a word that is too long for
any line is either folded wherever a line is full, or cut off behind an ellipsis.
-/

namespace RealmModels.Console

open Text

inductive Overflow where
  | fold
  | ellipsis
  deriving DecidableEq, Repr

def tabWidth : Nat := 8

def fillTabs (cell : Nat) : List (List Char) → List Char
  | [] => []
  | [part] => part
  | part :: parts =>
    let stop := cell + width (part ++ [' '])
    let stop := stop + (tabWidth - stop % tabWidth) % tabWidth
    part ++ spaces (stop - cell - width part) ++ fillTabs stop parts

def expandTabs (cs : List Char) : List Char := fillTabs 0 (cutAt '\t' cs)

def words : Nat → List Char → List (List Char)
  | 0, _ => []
  | fuel + 1, cs =>
    let (before, rest) := cs.span isBlank
    let (word, rest) := rest.span (!isBlank ·)
    let (after, rest) := rest.span isBlank
    if word.isEmpty then [] else (before ++ word ++ after) :: words fuel rest

def chop (limit : Nat) (piece : List Char) (used : Nat) : List Cluster → List (List Char)
  | [] => if used = 0 then [] else [piece]
  | sign :: signs =>
    if used + sign.cells > limit then piece :: chop limit sign.chars sign.cells signs
    else chop limit (piece ++ sign.chars) (used + sign.cells) signs

def fill (overflow : Overflow) (limit : Nat) (last : List Char) (used : Nat) :
    List (List Char) → List (List Char)
  | [] => [last]
  | w :: ws =>
    let needed := width (trimEnd w)
    let before := if last.isEmpty then [] else [last]
    if used + needed ≤ limit then fill overflow limit (last ++ w) (used + width w) ws
    else if needed ≤ limit || overflow = .ellipsis then
      before ++ fill overflow limit w (width w) ws
    else
      let pieces := chop limit [] 0 (clusters w)
      let piece := pieces.getLast?.getD []
      before ++ pieces.dropLast ++ fill overflow limit piece (width piece) ws

def wrapLine (overflow : Overflow) (limit : Nat) (cs : List Char) : List (List Char) :=
  let cs := expandTabs cs
  match words (cs.length + 1) cs with
  | [] => [cs]
  | ws => fill overflow limit [] 0 ws

def cropEnd (limit : Nat) (cs : List Char) : List Char :=
  let blanks := cs.length - (trimEnd cs).length
  cs.take (cs.length - min blanks (cs.length - limit))

def truncate (overflow : Overflow) (limit : Nat) (cs : List Char) : List Char :=
  if width cs ≤ limit then cs
  else
    match overflow with
    | .fold => cutTo limit cs
    | .ellipsis => cutTo (limit - 1) cs ++ ['…']

def wrap (overflow : Overflow) (limit : Nat) (cs : List Char) : List (List Char) :=
  (cutAt '\n' cs).flatMap fun l =>
    (wrapLine overflow limit l).map fun l => truncate overflow limit (cropEnd limit l)

end RealmModels.Console
