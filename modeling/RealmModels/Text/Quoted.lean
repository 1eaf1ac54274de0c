import RealmModels.Text.UnprintableRanges

namespace RealmModels.Text

def isPrintable (c : Char) : Bool := !inRanges unprintableRanges c.toNat

def hexDigits (width n : Nat) : List Char :=
  let digits := Nat.toDigits 16 n
  List.replicate (width - digits.length) '0' ++ digits

def quoteMark (cs : List Char) : Char :=
  if cs.contains '\'' && !cs.contains '"' then '"' else '\''

def numberedChar (c : Char) : List Char :=
  if c.toNat < 0x100 then '\\' :: 'x' :: hexDigits 2 c.toNat
  else if c.toNat < 0x10000 then '\\' :: 'u' :: hexDigits 4 c.toNat
  else '\\' :: 'U' :: hexDigits 8 c.toNat

def asciiChar (c : Char) : List Char := if c.toNat < 128 then [c] else numberedChar c

def quotedChar (mark c : Char) : List Char :=
  if c = mark || c = '\\' then ['\\', c]
  else if c = '\n' then ['\\', 'n']
  else if c = '\r' then ['\\', 'r']
  else if c = '\t' then ['\\', 't']
  else if isPrintable c then [c]
  else numberedChar c

def quoted (text : String) : String :=
  let cs := text.toList
  let mark := quoteMark cs
  String.ofList (mark :: cs.flatMap (quotedChar mark) ++ [mark])

end RealmModels.Text
