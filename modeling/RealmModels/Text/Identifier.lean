import RealmModels.Text.IdentifierRanges

namespace RealmModels.Text

def isIdentifierStart (c : Char) : Bool := inRanges identifierStartRanges c.toNat

def isIdentifierContinue (c : Char) : Bool :=
  isIdentifierStart c || inRanges identifierContinueOnlyRanges c.toNat

def isIdentifier : List Char → Bool
  | [] => false
  | c :: cs => isIdentifierStart c && cs.all isIdentifierContinue

end RealmModels.Text
