namespace RealmModels.GraphQL

inductive Token where
  | punctuator (c : Char)
  | spread
  | name (s : String)
  | int (text : String)
  | float (text : String)
  | string (value : String)
  deriving DecidableEq, Repr

def isNameStart (c : Char) : Bool :=
  c = '_' || ('a' ≤ c && c ≤ 'z') || ('A' ≤ c && c ≤ 'Z')

def isNameContinue (c : Char) : Bool := isNameStart c || c.isDigit

def isName (s : String) : Bool :=
  match s.toList with
  | [] => false
  | c :: cs => isNameStart c && cs.all isNameContinue

def isPunctuator (c : Char) : Bool := "!$&():=@[]\x7b|\x7d".toList.contains c

def isIgnored (c : Char) : Bool := " \t,\ufeff\n\r".toList.contains c

end RealmModels.GraphQL
