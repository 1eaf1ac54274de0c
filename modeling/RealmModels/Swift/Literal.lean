namespace RealmModels.Swift

def escapedChar (c : Char) : List Char :=
  if c = '"' then ['\\', '"'] else if c = '\n' then ['\\', 'n'] else [c]

def escapedText (s : String) : String := String.ofList (s.toList.flatMap escapedChar)

def literal (s : String) : String := "\"" ++ escapedText s ++ "\""

end RealmModels.Swift
