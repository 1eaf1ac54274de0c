import RealmModels.Text.Blank
import RealmModels.Text.Digits
import RealmModels.Text.LetterCase
import RealmModels.Text.Lines

namespace RealmModels.Console

open Text

def colourRows : List String := [
  "black red green yellow blue magenta cyan white bright_black bright_red bright_green",
  "bright_yellow bright_blue bright_magenta bright_cyan bright_white grey0 gray0 navy_blue",
  "dark_blue blue3 blue1 dark_green deep_sky_blue4 dodger_blue3 dodger_blue2 green4",
  "spring_green4 turquoise4 deep_sky_blue3 dodger_blue1 green3 spring_green3 dark_cyan",
  "light_sea_green deep_sky_blue2 deep_sky_blue1 spring_green2 cyan3 dark_turquoise turquoise2",
  "green1 spring_green1 medium_spring_green cyan2 cyan1 dark_red deep_pink4 purple4 purple3",
  "blue_violet orange4 grey37 gray37 medium_purple4 slate_blue3 royal_blue1 chartreuse4",
  "dark_sea_green4 pale_turquoise4 steel_blue steel_blue3 cornflower_blue chartreuse3",
  "cadet_blue sky_blue3 steel_blue1 pale_green3 sea_green3 aquamarine3 medium_turquoise",
  "chartreuse2 sea_green2 sea_green1 aquamarine1 dark_slate_gray2 dark_magenta dark_violet",
  "purple light_pink4 plum4 medium_purple3 slate_blue1 yellow4 wheat4 grey53 gray53",
  "light_slate_grey light_slate_gray medium_purple light_slate_blue dark_olive_green3",
  "dark_sea_green light_sky_blue3 sky_blue2 dark_sea_green3 dark_slate_gray3 sky_blue1",
  "chartreuse1 light_green pale_green1 dark_slate_gray1 red3 medium_violet_red magenta3",
  "dark_orange3 indian_red hot_pink3 medium_orchid3 medium_orchid medium_purple2 dark_goldenrod",
  "light_salmon3 rosy_brown grey63 gray63 medium_purple1 gold3 dark_khaki navajo_white3 grey69",
  "gray69 light_steel_blue3 light_steel_blue yellow3 dark_sea_green2 light_cyan3",
  "light_sky_blue1 green_yellow dark_olive_green2 dark_sea_green1 pale_turquoise1 deep_pink3",
  "magenta2 hot_pink2 orchid medium_orchid1 orange3 light_pink3 pink3 plum3 violet",
  "light_goldenrod3 tan misty_rose3 thistle3 plum2 khaki3 light_goldenrod2 light_yellow3 grey84",
  "gray84 light_steel_blue1 yellow2 dark_olive_green1 honeydew2 light_cyan1 red1 deep_pink2",
  "deep_pink1 magenta1 orange_red1 indian_red1 hot_pink dark_orange salmon1 light_coral",
  "pale_violet_red1 orchid2 orchid1 orange1 sandy_brown light_salmon1 light_pink1 pink1 plum1",
  "gold1 navajo_white1 misty_rose1 thistle1 yellow1 light_goldenrod1 khaki1 wheat1 cornsilk1",
  "grey100 gray100 grey3 gray3 grey7 gray7 grey11 gray11 grey15 gray15 grey19 gray19 grey23",
  "gray23 grey27 gray27 grey30 gray30 grey35 gray35 grey39 gray39 grey42 gray42 grey46 gray46",
  "grey50 gray50 grey54 gray54 grey58 gray58 grey62 gray62 grey66 gray66 grey70 gray70 grey74",
  "gray74 grey78 gray78 grey82 gray82 grey85 gray85 grey89 gray89 grey93 gray93"]

def wordsOf (cs : List Char) : List (List Char) :=
  (cutAt ' ' (cs.map fun c => if isBlank c then ' ' else c)).filter (!·.isEmpty)

inductive StyleFault where
  | unknown
  | notNumber
  deriving DecidableEq, Repr

structure Style where
  marks : List (String × Bool) := []
  colour : Option String := none
  background : Option String := none
  link : Option String := none
  deriving DecidableEq, Repr

namespace Style

def markNames : List String :=
  ["bold", "dim", "italic", "underline", "blink", "blink2", "reverse", "conceal", "strike",
    "underline2", "frame", "encircle", "overline"]

def shortNames : List (String × String) :=
  [("b", "bold"), ("d", "dim"), ("i", "italic"), ("u", "underline"), ("r", "reverse"),
    ("c", "conceal"), ("s", "strike"), ("uu", "underline2"), ("o", "overline")]

def mark? (word : String) : Option String :=
  if markNames.contains word then some word else shortNames.lookup word

def colourNames : List String :=
  "default" :: colourRows.flatMap fun row => (wordsOf row.toList).map String.ofList

def byteLimit : Nat := 255

def decimal (digits : List Char) : Nat :=
  digits.foldl (fun n c => 10 * n + (digitValue? c).getD 0) 0

def share (cs : List Char) : Except StyleFault Nat :=
  if cs.isEmpty || cs.length > digitLimit then .error .notNumber else .ok (decimal cs)

def checkShares (parts : List (List Char)) : Except StyleFault Unit := do
  if parts.length ≠ 3 then throw .unknown
  if (← parts.mapM share).any (· > byteLimit) then throw .unknown

def between? (start stop cs : List Char) : Option (List Char) :=
  if start.isPrefixOf cs && stop.isSuffixOf (cs.drop start.length) then
    some ((cs.drop start.length).take (cs.length - start.length - stop.length))
  else none

def colourOf (word : String) : Except StyleFault String := do
  let cs := lower word.toList
  let name := String.ofList cs
  if colourNames.contains name then return name
  if let some digits := between? ['#'] [] cs then
    if digits.length = 6 && digits.all isHexDigit then return name
  if let some digits := between? "color(".toList [')'] cs then
    if 1 ≤ digits.length && digits.length ≤ 3 && digits.all Char.isDigit &&
      decimal digits ≤ byteLimit then return name
  if let some inside := between? "rgb(".toList [')'] cs then
    if !inside.isEmpty && inside.all fun c => isDecimalDigit c || c = ',' then
      checkShares (cutAt ',' inside)
      return name
  throw .unknown

def setMark (name : String) (isOn : Bool) (s : Style) : Style :=
  { s with marks := (name, isOn) :: s.marks.filter (·.1 ≠ name) }

def addWords (s : Style) : List String → Except StyleFault Style
  | [] => .ok s
  | word :: rest =>
    match String.ofList (lower word.toList), rest with
    | "on", [] | "not", [] | "link", [] => .error .unknown
    | "on", name :: rest => do addWords { s with background := some (← colourOf name) } rest
    | "not", name :: rest =>
      match mark? name with
      | some name => addWords (s.setMark name false) rest
      | none => .error .unknown
    | "link", target :: rest => addWords { s with link := some target } rest
    | word, rest =>
      match mark? word with
      | some name => addWords (s.setMark name true) rest
      | none => do addWords { s with colour := some (← colourOf word) } rest

def ofText (cs : List Char) : Except StyleFault Style :=
  if trim cs = "none".toList then .ok {} else addWords {} ((wordsOf cs).map String.ofList)

def text (s : Style) : String :=
  let marks := markNames.filterMap fun name =>
    (s.marks.lookup name).map fun isOn => if isOn then name else "not " ++ name
  let parts := marks ++ s.colour.toList ++ (s.background.map ("on " ++ ·)).toList ++
    (s.link.map ("link " ++ ·)).toList
  if parts.isEmpty then "none" else joinWith " " parts

def normalName (cs : List Char) : Except StyleFault (List Char) :=
  match ofText cs with
  | .ok s => .ok s.text.toList
  | .error .unknown => .ok (lower (trim cs))
  | .error .notNumber => .error .notNumber

end Style

end RealmModels.Console
