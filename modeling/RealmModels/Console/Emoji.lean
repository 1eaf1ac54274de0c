import RealmModels.Console.EmojiNames
import RealmModels.Console.Style

namespace RealmModels.Console.Emoji

open Text

def codePoint (hex : List Char) : Char :=
  Char.ofNat <| hex.foldl (fun n c =>
    16 * n + if c.isDigit then c.toNat - '0'.toNat else c.toNat - 'A'.toNat + 10) 0

def entries : List (List Char) → List (List Char × List Char)
  | name :: codes :: rest => (name, (cutAt '-' codes).map codePoint) :: entries rest
  | _ => []

def table (rows : List String) : List (List Char × List Char) :=
  rows.flatMap fun row => entries (wordsOf row.toList)

def plain : List (List Char × List Char) := table plainRows

def toned : List (List Char × List Char) := table tonedRows

def tones : List (List Char × Char) :=
  [("_light_skin_tone".toList, '🏻'), ("_medium-light_skin_tone".toList, '🏼'),
    ("_medium_skin_tone".toList, '🏽'), ("_medium-dark_skin_tone".toList, '🏾'),
    ("_dark_skin_tone".toList, '🏿')]

def withTone (tone : Char) : List Char → List Char
  | [] => []
  | c :: '\ufe0f' :: cs => c :: tone :: cs
  | c :: cs => c :: tone :: cs

def sign? (name : List Char) : Option (List Char) :=
  ((plain.lookup name).or (toned.lookup name)).or <|
    tones.findSome? fun (ending, tone) => do
      let base ← if ending.isSuffixOf name then some (name.take (name.length - ending.length))
        else none
      return withTone tone (← toned.lookup base)

def choices : List (List Char × List Char) :=
  [("-emoji:".toList, ['\ufe0f']), ("-text:".toList, ['\ufe0e']), ([':'], [])]

def name? : List Char → Option (List Char × List Char × List Char)
  | [] => none
  | c :: cs =>
    match choices.find? fun choice => choice.1.isPrefixOf (c :: cs) with
    | some (mark, selector) => some ([], selector, (c :: cs).drop mark.length)
    | none =>
      if isBlank c then none
      else (name? cs).map fun (name, selector, rest) => (c :: name, selector, rest)

def replace : Nat → List Char → List Char
  | 0, cs => cs
  | _ + 1, [] => []
  | fuel + 1, c :: cs =>
    match if c = ':' then name? cs else none with
    | some (name, selector, rest) =>
      let written := (c :: cs).take (cs.length + 1 - rest.length)
      let found := (sign? (lower name)).map (· ++ selector)
      found.getD written ++ replace fuel rest
    | none => c :: replace fuel cs

end RealmModels.Console.Emoji
