import RealmModels.Template.Token
import RealmModels.Text.Lines

namespace RealmModels.Template

open Text

inductive Piece where
  | text (s : String)
  | print (tokens : List Token)
  | tag (tokens : List Token)

inductive Side where
  | plain
  | all
  | none
  deriving DecidableEq

def side : List Char → Side × List Char
  | '-' :: cs => (.all, cs)
  | '+' :: cs => (.none, cs)
  | cs => (.plain, cs)

structure Resumed where
  atLineStart : Bool
  rest : List Char

def resume (isPrint : Bool) (s : Side) (cs : List Char) : Resumed :=
  match s with
  | .all => ⟨(cs.takeWhile isBlank).getLast? == some '\n', cs.dropWhile isBlank⟩
  | .none => ⟨false, cs⟩
  | .plain =>
    match isPrint, cs with
    | false, '\n' :: rest => ⟨true, rest⟩
    | _, _ => ⟨false, cs⟩

def closed? (isPrint : Bool) (ending : List Char) (cs : List Char) : Option Resumed :=
  let (s, body) := side cs
  if isPrint && s = .none then none
  else if ending.isPrefixOf body then some (resume isPrint s (body.drop ending.length))
  else none

def tagEnd : List Char := ['%', '\x7d']

def printEnd : List Char := ['\x7d', '\x7d']

def commentEnd : List Char := ['#', '\x7d']

def searchFor {α : Type} (found? : List Char → Option α) : List Char → Option (List Char × α)
  | [] => (found? []).map fun a => ([], a)
  | c :: cs =>
    match found? (c :: cs) with
    | some a => some ([], a)
    | none => (searchFor found? cs).map fun (before, a) => (c :: before, a)

inductive Opening where
  | print
  | tag
  | comment
  deriving DecidableEq

def opening? : List Char → Option (Opening × Side × List Char)
  | '\x7b' :: c :: rest =>
    let found := fun o => some (o, side rest)
    match c with
    | '\x7b' => found .print
    | '%' => found .tag
    | '#' => found .comment
    | _ => none
  | _ => none

def textBefore (isPrint : Bool) (s : Side) (atLineStart : Bool) (cs : List Char) : List Char :=
  match s with
  | .all => trimEnd cs
  | .none => cs
  | .plain =>
    let lastLine := (cs.reverse.takeWhile (· != '\n')).reverse
    if isPrint || !(atLineStart || cs.contains '\n') || !lastLine.all isBlank then cs
    else cs.take (cs.length - lastLine.length)

def afterWord? (word : String) (cs : List Char) : Option (List Char) :=
  let body := cs.dropWhile isBlank
  if word.toList.isPrefixOf body then some ((body.drop word.length).dropWhile isBlank) else none

def rawStart? (cs : List Char) : Option Resumed := do
  let rest ← afterWord? "raw" cs
  let (s, body) := side rest
  if s ≠ .none && tagEnd.isPrefixOf body then some (resume true s (body.drop 2)) else none

def rawEnd? : List Char → Option (Side × Resumed)
  | '\x7b' :: '%' :: cs => do
    let (s, body) := side cs
    some (s, ← closed? false tagEnd (← afterWord? "endraw" body))
  | _ => none

def textPiece (cs : List Char) : List Piece := if cs.isEmpty then [] else [.text (String.ofList cs)]

def piecesFrom : Nat → Resumed → Option (List Piece)
  | 0, _ => none
  | fuel + 1, ⟨atLineStart, cs⟩ =>
    match searchFor opening? cs with
    | none => some (textPiece cs)
    | some (before, o, s, rest) => do
      let isPrint := o == .print
      let shown := textPiece (textBefore isPrint s atLineStart before)
      match o with
      | .print =>
        let (ts, after) ← tagTokens (closed? true printEnd) (rest.length + 1) false [] rest
        return shown ++ .print ts :: (← piecesFrom fuel after)
      | .comment =>
        if rest.isEmpty then return shown
        let (_, after) ← searchFor (closed? false commentEnd) rest
        return shown ++ (← piecesFrom fuel after)
      | .tag =>
        match rawStart? rest with
        | some start =>
          if start.rest.isEmpty then return shown
          let (raw, s, after) ← searchFor rawEnd? start.rest
          return shown ++ textPiece (textBefore false s start.atLineStart raw) ++
            (← piecesFrom fuel after)
        | none =>
          let (ts, after) ← tagTokens (closed? false tagEnd) (rest.length + 1) false [] rest
          return shown ++ .tag ts :: (← piecesFrom fuel after)

def dropLastBreak (cs : List Char) : List Char :=
  if cs.getLast? == some '\n' then cs.dropLast else cs

def pieces? (source : String) : Option (List Piece) :=
  let cs := dropLastBreak (unifyLineEnds source.toList)
  piecesFrom (cs.length + 1) ⟨true, cs⟩

def Piece.tokens : Piece → List Token
  | .text s => [.text s]
  | .print ts => .opening true :: ts ++ [.closing]
  | .tag ts => .opening false :: ts ++ [.closing]

def tokens? (source : String) : Option (List Token) :=
  (pieces? source).map fun ps => ps.flatMap Piece.tokens

end RealmModels.Template
