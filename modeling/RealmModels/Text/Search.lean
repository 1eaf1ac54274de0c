import RealmModels.Text.Digits
import RealmModels.Text.Identifier
import RealmModels.Text.LetterCase
import RealmModels.Text.Lines

namespace RealmModels.Text

def breakAt (sub : List Char) : List Char → Option (List Char × List Char)
  | [] => if sub.isEmpty then some ([], []) else none
  | c :: cs =>
    if sub.isPrefixOf (c :: cs) then some ([], (c :: cs).drop sub.length)
    else (breakAt sub cs).map fun (before, rest) => (c :: before, rest)

def indexOf? (sub cs : List Char) : Option Nat := (breakAt sub cs).map (·.1.length)

def lastIndexOf? (sub cs : List Char) : Option Nat :=
  (indexOf? sub.reverse cs.reverse).map fun n => cs.length - n - sub.length

def isWithin (sub cs : List Char) : Bool := (breakAt sub cs).isSome

def cutAtAll (sub : List Char) : Nat → List Char → List (List Char)
  | 0, cs => [cs]
  | limit + 1, cs =>
    match breakAt sub cs with
    | some (before, rest) => before :: cutAtAll sub limit rest
    | none => [cs]

def cutAtLast (sub : List Char) (limit : Nat) (cs : List Char) : List (List Char) :=
  ((cutAtAll sub.reverse limit cs.reverse).map List.reverse).reverse

def interleave (new : List Char) : Nat → List Char → List Char
  | 0, cs => cs
  | _ + 1, [] => new
  | limit + 1, c :: cs => new ++ c :: interleave new limit cs

def joinChars (sep : List Char) : List (List Char) → List Char
  | [] => []
  | [cs] => cs
  | cs :: more => cs ++ sep ++ joinChars sep more

def replaceAll (old new : List Char) (limit : Nat) (cs : List Char) : List Char :=
  if old.isEmpty then interleave new limit cs else joinChars new (cutAtAll old limit cs)

def occurrences (sub cs : List Char) : Nat :=
  if sub.isEmpty then cs.length + 1 else (cutAtAll sub cs.length cs).length - 1

def wordsUpTo : Nat → Nat → List Char → List (List Char)
  | 0, _, _ => []
  | fuel + 1, limit, cs =>
    let cs := cs.dropWhile isBlank
    if cs.isEmpty then []
    else
      match limit with
      | 0 => [cs]
      | limit + 1 =>
        let (word, rest) := cs.span (!isBlank ·)
        word :: wordsUpTo fuel limit rest

def splitWords (limit : Nat) (cs : List Char) : List (List Char) :=
  wordsUpTo (cs.length + 1) limit cs

def splitLastWords (limit : Nat) (cs : List Char) : List (List Char) :=
  ((splitWords limit cs.reverse).map List.reverse).reverse

def endsLine (c : Char) : Bool :=
  [0xa, 0xb, 0xc, 0xd, 0x1c, 0x1d, 0x1e, 0x85, 0x2028, 0x2029].contains c.toNat

def splitLines (keepsEnds : Bool) (line : List Char) : List Char → List (List Char)
  | [] => if line.isEmpty then [] else [line.reverse]
  | '\r' :: '\n' :: cs =>
    (if keepsEnds then ('\n' :: '\r' :: line).reverse else line.reverse) ::
      splitLines keepsEnds [] cs
  | c :: cs =>
    if endsLine c then
      (if keepsEnds then (c :: line).reverse else line.reverse) :: splitLines keepsEnds [] cs
    else splitLines keepsEnds (c :: line) cs

def isLoneCapital (c : Char) : Bool := inRanges loneCapitalRanges c.toNat

def isUpper (c : Char) : Bool :=
  hasCase c && upperChar c == [c] && (lowerChar c != [c] || isLoneCapital c)

def isLower (c : Char) : Bool := hasCase c && lowerChar c == [c] && !isLoneCapital c

def isLetter (c : Char) : Bool := c != '_' && isIdentifierStart c

def titleWords (afterCased inWord : Bool) : List Char → List Char
  | [] => []
  | c :: cs =>
    (if afterCased then lowerWithin inWord c cs else titleChar c) ++
      titleWords (hasCase c) (isInWord inWord c) cs

def isTitled (afterCased : Bool) : List Char → Bool
  | [] => true
  | c :: cs =>
    (if isUpper c then !afterCased else if isLower c then afterCased else true) &&
      isTitled (hasCase c) cs

def swapCase (inWord : Bool) : List Char → List Char
  | [] => []
  | c :: cs =>
    (if isUpper c then lowerWithin inWord c cs else if isLower c then upperChar c else [c]) ++
      swapCase (isInWord inWord c) cs

def isWordChar (c : Char) : Bool := isIdentifierStart c || isDecimalDigit c

end RealmModels.Text
