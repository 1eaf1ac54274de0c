import RealmModels.Text.LetterCase
import RealmModels.Text.Lines

namespace RealmModels.Naming

inductive Style where
  | snake
  | camel
  | pascal
  | verbatim
  deriving DecidableEq, Repr

def splitAcronyms : List Char → List Char
  | a :: b :: c :: rest =>
    if a.isUpper && b.isUpper && c.isLower then a :: '_' :: splitAcronyms (b :: c :: rest)
    else a :: splitAcronyms (b :: c :: rest)
  | cs => cs

def splitHumps : List Char → List Char
  | a :: b :: rest =>
    if (a.isLower || a.isDigit) && b.isUpper then a :: '_' :: splitHumps (b :: rest)
    else a :: splitHumps (b :: rest)
  | cs => cs

def squeeze : List Char → List Char
  | a :: b :: rest => if a = '_' ∧ b = '_' then squeeze (b :: rest) else a :: squeeze (b :: rest)
  | cs => cs

def snake (name : List Char) : List Char :=
  let hyphenless := name.map fun c => if c = '-' then '_' else c
  let cut := splitHumps (splitAcronyms hyphenless)
  Text.stripEnds (· == '_') (squeeze (Text.lower cut))

def words (name : List Char) : List (List Char) :=
  (Text.cutAt '_' (snake name)).filter (!·.isEmpty)

def camel (name : List Char) : List Char :=
  match words name with
  | [] => name
  | w :: ws => w ++ ws.flatMap Text.capitalize

def pascal (name : List Char) : List Char := (words name).flatMap Text.capitalize

def convert (style : Style) (name : String) : String :=
  match style with
  | .snake => String.ofList (snake name.toList)
  | .camel => String.ofList (camel name.toList)
  | .pascal => String.ofList (pascal name.toList)
  | .verbatim => name

def isNameChar (c : Char) : Bool := c.isAlphanum || c = '_' || c = '-'

def fallback : List Char := ['f', 'i', 'e', 'l', 'd']

def clean (name : List Char) : List Char :=
  match Text.stripEnds (· == '-') (name.map fun c => if isNameChar c then c else '_') with
  | [] => fallback
  | c :: cs => if c.isDigit then '_' :: c :: cs else c :: cs

def base (style : Style) (name : String) : String :=
  convert style (String.ofList (clean name.toList))

end RealmModels.Naming
