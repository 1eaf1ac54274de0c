import RealmModels.Text.Blank

namespace RealmModels.Text

def cutAt (sep : Char) : List Char → List (List Char)
  | [] => [[]]
  | c :: cs =>
    if c = sep then [] :: cutAt sep cs
    else
      match cutAt sep cs with
      | [] => [[c]]
      | piece :: pieces => (c :: piece) :: pieces

def joinWith (sep : String) : List String → String
  | [] => ""
  | [t] => t
  | t :: u :: ts => t ++ sep ++ joinWith sep (u :: ts)

def lines (text : String) : List String :=
  (cutAt '\n' text.toList).map String.ofList

def unlines (ls : List String) : String := joinWith "\n" ls

def blankLineLimit : Nat := 2

def tidyLines (run : Nat) : List (List Char) → List (List Char)
  | [] => []
  | l :: ls =>
    match trimEnd l with
    | [] => if run < blankLineLimit then [] :: tidyLines (run + 1) ls else tidyLines (run + 1) ls
    | kept => kept :: tidyLines 0 ls

def tidy (text : String) : String :=
  unlines ((tidyLines 0 (cutAt '\n' text.toList)).map String.ofList)

def unifyLineEnds : List Char → List Char
  | '\r' :: '\n' :: cs => '\n' :: unifyLineEnds cs
  | '\r' :: cs => '\n' :: unifyLineEnds cs
  | c :: cs => c :: unifyLineEnds cs
  | [] => []

end RealmModels.Text
