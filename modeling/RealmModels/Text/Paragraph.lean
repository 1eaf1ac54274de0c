import RealmModels.Text.Search

namespace RealmModels.Text

structure Breaking where
  cutsLong : Bool
  atHyphens : Bool
  deriving DecidableEq, Repr

def isBreak (c : Char) : Bool := "\t\n\x0b\x0c\r ".toList.contains c

def isBeforeDash (c : Char) : Bool := isWordChar c || "!\"'&.,?".toList.contains c

def isWordLetter (c : Char) : Bool := isIdentifierStart c

def dash? (cs : List Char) : Option (List Char × List Char) :=
  match cs.span (· == '-') with
  | (hyphens, c :: rest) =>
    if 2 ≤ hyphens.length && isWordChar c then some (hyphens, c :: rest) else none
  | _ => none

def dividesWord : List Char → List Char → Bool
  | before, c :: rest =>
    isWordLetter c &&
      (match rest with
        | '-' :: d :: _ => isWordLetter d
        | d :: _ => isWordLetter d
        | [] => false) &&
      (match before with
        | a :: '-' :: b :: _ => isBeforeDash a && isWordLetter b
        | a :: b :: _ => isWordLetter a && isWordLetter b
        | _ => false)
  | _, [] => false

def restOfPiece (before : List Char) : List Char → List Char
  | [] => []
  | c :: cs =>
    if c = '-' && dividesWord before cs then ['-']
    else if isBreak c then []
    else if before.head?.any isBeforeDash && (dash? (c :: cs)).isSome then []
    else c :: restOfPiece (c :: before) cs

def pieces (atHyphens : Bool) : Nat → List Char → List Char → List (List Char)
  | 0, _, _ | _, _, [] => []
  | fuel + 1, before, c :: cs =>
    let piece :=
      if isBreak c then (c :: cs).takeWhile isBreak
      else if !atHyphens then (c :: cs).takeWhile (!isBreak ·)
      else
        match if before.head?.any isBeforeDash then dash? (c :: cs) else none with
        | some (hyphens, _) => hyphens
        | none => c :: restOfPiece (c :: before) cs
    piece :: pieces atHyphens fuel (piece.reverse ++ before) ((c :: cs).drop piece.length)

def cutPoint (b : Breaking) (room : Nat) (piece : List Char) : Nat :=
  if b.atHyphens && room < piece.length then
    match lastIndexOf? ['-'] (piece.take room) with
    | some i => if 0 < i && (piece.take i).any (· != '-') then i + 1 else room
    | none => room
  else room

def takeLine (b : Breaking) (width : Nat) (used : Nat) :
    List (List Char) → List (List Char) × List (List Char)
  | [] => ([], [])
  | p :: ps =>
    if used + p.length ≤ width then
      let (line, rest) := takeLine b width (used + p.length) ps
      (p :: line, rest)
    else if width < p.length then
      if b.cutsLong then
        let n := cutPoint b (width - used) p
        ([p.take n], p.drop n :: ps)
      else if used = 0 then ([p], ps)
      else ([], p :: ps)
    else ([], p :: ps)

def isBlankPiece (p : List Char) : Bool := p.all isBlank

def fillLines (b : Breaking) (width : Nat) (isFirst : Bool) :
    Nat → List (List Char) → List (List Char)
  | 0, _ | _, [] => []
  | fuel + 1, p :: ps =>
    let (line, rest) := takeLine b width 0 (if !isFirst && isBlankPiece p then ps else p :: ps)
    let line := if line.getLast?.any isBlankPiece then line.dropLast else line
    if line.isEmpty then fillLines b width isFirst fuel rest
    else line.flatten :: fillLines b width false fuel rest

def paragraph (b : Breaking) (width : Nat) (cs : List Char) : List (List Char) :=
  fillLines b width true (2 * cs.length + 2) (pieces b.atHyphens (cs.length + 1) [] cs)

end RealmModels.Text
