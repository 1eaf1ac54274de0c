import RealmModels.Text.LetterCase
import RealmModels.Text.Lines

namespace RealmModels

/-- A path as the slashes it starts with and the names it leads through; `..` stands for the folder
above. -/
structure Path where
  root : String
  names : List String
  deriving DecidableEq, Repr

namespace Path

def rootOf : List Char → String
  | '/' :: '/' :: '/' :: _ => "/"
  | '/' :: '/' :: _ => "//"
  | '/' :: _ => "/"
  | _ => ""

def ofString (s : String) : Path :=
  { root := rootOf s.toList
    names := ((Text.cutAt '/' s.toList).map String.ofList).filter fun n => n != "" && n != "." }

def isAbsolute (p : Path) : Bool := p.root != ""

def toString (p : Path) : String :=
  let shown := p.root ++ Text.joinWith "/" p.names
  if shown = "" then "." else shown

def name (p : Path) : String := p.names.getLast?.getD ""

def suffix (p : Path) : String :=
  let cs := p.name.toList
  let tail := (cs.reverse.takeWhile (· != '.')).reverse
  if tail.isEmpty || cs.length ≤ tail.length + 1 then "" else String.ofList ('.' :: tail)

def lowerSuffix (p : Path) : String := String.ofList (Text.lower p.suffix.toList)

end Path

end RealmModels
