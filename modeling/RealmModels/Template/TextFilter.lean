import RealmModels.Decimal.Fixed
import RealmModels.Json.Writer
import RealmModels.Naming.Words
import RealmModels.Template.Method
import RealmModels.Template.Operation
import RealmModels.Text.Link
import RealmModels.Text.Paragraph

namespace RealmModels.Template.Value

open Text

def viaText (v : Value) (n : String) (a : Arguments) : Option Value :=
  callText v.display.toList v.isSafe n a

def titled (atStart inWord : Bool) : List Char → List Char
  | [] => []
  | c :: cs =>
    if isGap c then c :: titled true false cs
    else if atStart then upperChar c ++ titled false false cs
    else lowerWithin inWord c (cs.takeWhile (!isGap ·)) ++ titled false (isInWord inWord c) cs
where
  isGap (c : Char) : Bool := isBlank c || "-(\x7b[<".toList.contains c

def restyled (style : Naming.Style) : Value → Option Value
  | text s _ => some (plain (Naming.convert style s))
  | _ => none

def indented? (v width first blank : Value) : Option Value := do
  let (cs, isSafe) ← match v with
    | text s isSafe => some (s.toList, isSafe)
    | _ => none
  let indention ← match width with
    | text s _ => some s.toList
    | w => (w.whole?).bind fun n => if n ≤ maxWidth then some (List.replicate n.toNat ' ') else none
  match splitLines false [] (cs ++ ['\n']) with
  | [] => none
  | l :: ls =>
    let rest := ls.map fun l => if l.isEmpty && !blank.truthy then l else indention ++ l
    let shown := joinChars ['\n'] (l :: rest)
    return text (String.ofList (if first.truthy then indention ++ shown else shown)) isSafe

def joined (escapes : Bool) (vs : List Value) (between : Value) : Value :=
  if !escapes then plain (joinWith between.display (vs.map display))
  else if between.isSafe || vs.any isSafe then
    text (joinWith between.markup (vs.map markup)) true
  else plain (joinWith between.display (vs.map display))

def wrapped? (v width cutsLong newline atHyphens : Value) : Option Value := do
  let n ← width.whole?
  match v with
  | text s _ =>
    let lines := splitLines false [] s.toList
    if n ≤ 0 && !lines.isEmpty then none
    let b : Breaking := ⟨cutsLong.truthy, atHyphens.same (bool true)⟩
    let parts := lines.map fun l => (paragraph b n.toNat l).map chars
    match newline with
    | null => return chars (joinChars ['\n'] (parts.map fun ls => joinChars ['\n'] (ls.map shown)))
    | text t isSafe =>
      let sep := text t isSafe
      return joined isSafe (parts.map fun ls => joined isSafe ls sep) sep
    | _ => none
  | _ => none
where
  shown (v : Value) : List Char := v.display.toList

def leeway : Int := 5

def truncated? (v length killWords ending tolerance : Value) : Option Value := do
  let n ← length.whole?
  let extra ← match tolerance with
    | null => some leeway
    | w => w.whole?
  let (endText, endSafe) ← match ending with
    | text s isSafe => some (s, isSafe)
    | _ => none
  if n < endText.length || extra < 0 then none
  if (← v.size?) ≤ n + extra then return v
  match v with
  | text s isSafe =>
    let kept := s.toList.take (n.toNat - endText.length)
    let kept := if killWords.truthy then kept
      else (lastIndexOf? [' '] kept).elim kept kept.take
    return append (String.ofList kept) isSafe endText endSafe
  | _ => none

def replaced? (escapes : Bool) (v old new count : Value) : Option Value := do
  let a := fun (old new : Value) => Arguments.mk
    ([old, new] ++ (match count with | null => [] | n => [n])) []
  if !escapes then callText v.display.toList false "replace" (a (plain old.display) (plain new.display))
  else
    let soft := fun v : Value => text v.display v.isSafe
    let s := if old.isSafe || (new.isSafe && !v.isSafe) then text v.markup true else soft v
    callText s.display.toList s.isSafe "replace" (a (soft old) (soft new))

def readWhole? (base : Nat) (cs : List Char) : Option Int :=
  let cs := trim cs
  let (sign, cs) : Int × List Char := match cs with
    | '-' :: cs => (-1, cs)
    | '+' :: cs => (1, cs)
    | _ => (1, cs)
  let marked := fun (b : Nat) (mark : Char) => match cs with
    | '0' :: c :: rest => if (base = b || base = 0) && c.toLower = mark then some (b, rest) else none
    | _ => none
  let (base, isMarked, cs) := match (marked 16 'x').or ((marked 8 'o').or (marked 2 'b')) with
    | some (b, rest) => (b, true, rest)
    | none => (if base = 0 then 10 else base, false, cs)
  let digit := fun c : Char => (digitValue? c).or <|
    if isAscii c && c.isAlpha then some (c.toLower.toNat - 'a'.toNat + 10) else none
  let ok := fun c => (digit c).any (· < base)
  match if isMarked then moreDigits ok cs else groupedDigits ok cs with
  | ([], _) => none
  | (ds, []) =>
    if ds.length > maxDigits then none
    else some (sign * (ds.foldl (fun n c => base * n + (digit c).getD 0) 0 : Nat))
  | _ => none

def readReal? (cs : List Char) : Option Float :=
  let cs := trim cs
  let (isNegative, cs) := match cs with
    | '-' :: cs => (true, cs)
    | '+' :: cs => (false, cs)
    | _ => (false, cs)
  let signed := fun x : Float => if isNegative then -x else x
  let word := String.ofList (cs.map Char.toLower)
  if word = "inf" || word = "infinity" then some (signed (1.0 / 0.0))
  else if word = "nan" then some (signed (0.0 / 0.0))
  else
    let (whole, rest) := groupedDigits isDecimalDigit cs
    let (fraction, rest) := match rest with
      | '.' :: rest => groupedDigits isDecimalDigit rest
      | _ => ([], rest)
    let ds := whole ++ fraction
    let value := fun e : Int => some <| signed <|
      Decimal.nearest (ds.foldl (fun n c => 10 * n + (digitValue? c).getD 0) 0) (e - fraction.length)
    if ds.isEmpty then none
    else
      match rest with
      | [] => value 0
      | c :: rest =>
        if c ≠ 'e' && c ≠ 'E' then none
        else if (rest.head?.any fun c => c = '+' || c = '-' || isDecimalDigit c) then
          (readWhole? 10 rest).bind value
        else none

def toReal? : Value → Option Float
  | text s _ => readReal? s.toList
  | v => v.number?

def toWhole? (base : Nat) : Value → Option Int
  | text s _ => (readWhole? base s.toList).or <|
    (readReal? s.toList).bind fun x => if x.isFinite then some (Decimal.truncated x) else none
  | real x => if x.isFinite then some (Decimal.truncated x) else none
  | v => v.whole?

def rounded? (v precision : Value) (way : String) : Option Value := do
  let p ← precision.whole?
  if p.natAbs > 400 then none
  let part := fun (part : Float → Int) => do
    let scale ← wholePower 10 p
    let x ← (← arithmetic .mul v scale).number?
    if !x.isFinite then none
    arithmetic .div (int (part x)) scale
  match way, v with
  | "common", real x => if x.isFinite then (Decimal.rounded? x p).map real else some (real x)
  | "common", v =>
    let n ← v.whole?
    if p ≥ 0 then some (int n)
    else
      let unit := Decimal.tenTo (-p).toNat
      let m : Int := Decimal.roundHalfEven n.natAbs unit * unit
      some (int (if n < 0 then -m else m))
  | "ceil", _ => part Decimal.ceil
  | "floor", _ => part Decimal.floor
  | _, _ => none

def unitNames : List String := ["k", "M", "G", "T", "P", "E", "Z", "Y"]

def fileSize? (v : Value) (isBinary : Bool) : Option Value := do
  let x ← v.toReal?
  if !x.isFinite then none
  let base : Nat := if isBinary then 1024 else 1000
  if x == 1.0 then return plain "1 Byte"
  if x < base.toFloat then return plain (toString (Decimal.truncated x) ++ " Bytes")
  let fits := (unitNames.zipIdx 2).find? fun (_, i) => x < (Nat.pow base i).toFloat
  let (unit, i) := fits.getD ("Y", 9)
  let size := base.toFloat * x / (Nat.pow base i).toFloat
  let name := if isBinary then unit.capitalize ++ "iB" else unit ++ "B"
  return plain (Decimal.fixedSize size 1 ++ " " ++ name)

def isUnreserved (n : Nat) : Bool :=
  let c := Char.ofNat n
  n < 128 && (c.isAlphanum || c = '_' || c = '.' || c = '-' || c = '~')

def addressPart (inQuery : Bool) (v : Value) : String :=
  String.ofList <| v.display.toUTF8.toList.flatMap fun b =>
    if isUnreserved b.toNat || (b.toNat = 47 && !inQuery) then [Char.ofNat b.toNat]
    else if b.toNat = 32 && inQuery then ['+']
    else '%' :: upper (hexDigits 2 b.toNat)

def addressed? : Value → Option Value
  | text s isSafe => some (plain (addressPart false (text s isSafe)))
  | v =>
    match v.entries? with
    | none => some (plain (addressPart false v))
    | some _ => do
      let pairs ← match v with
        | dict ks vs => some (ks.zip vs)
        | v => entries v
      return plain <| joinWith "&" <| pairs.map fun (k, w) =>
        addressPart true k ++ "=" ++ addressPart true w
where
  entries (v : Value) : Option (List (Value × Value)) := do
    (← v.entries?).mapM fun pair => do
      match ← pair.entries? with
      | [k, w] => some (k, w)
      | _ => none

def scriptChar (c : Char) : List Char :=
  if c = '<' || c = '>' || c = '&' || c = '\'' then '\\' :: 'u' :: hexDigits 4 c.toNat
  else if c.toNat < 0x80 then Json.escapedChar c
  else if c.toNat < 0x10000 then '\\' :: 'u' :: hexDigits 4 c.toNat
  else
    let n := c.toNat - 0x10000
    '\\' :: 'u' :: hexDigits 4 (0xd800 + n / 0x400) ++
      '\\' :: 'u' :: hexDigits 4 (0xdc00 + n % 0x400)

def scriptText (s : String) : String :=
  String.ofList ('"' :: s.toList.flatMap scriptChar ++ ['"'])

def scriptParts (indent : Option String) (depth : Nat) (opening closing : String)
    (parts : List String) : String :=
  let newline := fun (step : String) (d : Nat) => "\n" ++ String.join (List.replicate d step)
  if parts.isEmpty then opening ++ closing
  else
    match indent with
    | none => opening ++ joinWith ", " parts ++ closing
    | some step =>
      opening ++ newline step (depth + 1) ++ joinWith ("," ++ newline step (depth + 1)) parts ++
        newline step depth ++ closing

def scriptKey? : Value → Option String
  | text s _ => some s
  | null => some "null"
  | bool b => some (if b then "true" else "false")
  | int n => some (toString n)
  | real x => some (Decimal.render Json.writtenReal x)
  | _ => none

mutual

def script? (indent : Option String) (depth : Nat) : Value → Option String
  | null => some "null"
  | bool b => some (if b then "true" else "false")
  | int n => some (toString n)
  | real x => some (Decimal.render Json.writtenReal x)
  | text s _ => some (scriptText s)
  | list vs | tuple vs => do
    return scriptParts indent depth "[" "]" (← scripts? indent (depth + 1) vs)
  | dict ks vs => do
    let entries := ks.zip (← scripts? indent (depth + 1) vs)
    let entries ← sorted? (fun e f => e.1.isLess? f.1) false entries
    let parts ← entries.mapM fun (k, s) => do return scriptText (← scriptKey? k) ++ ": " ++ s
    return scriptParts indent depth "\x7b" "\x7d" parts
  | _ => none

def scripts? (indent : Option String) (depth : Nat) : List Value → Option (List String)
  | [] => some []
  | v :: vs => do return (← script? indent depth v) :: (← scripts? indent depth vs)

end

def scriptFilter? (v indent : Value) : Option Value := do
  let step ← match indent with
    | null => some none
    | text s _ => some (some s)
    | w => w.whole?.map fun n => some (String.ofList (List.replicate n.toNat ' '))
  return text (← script? step 0 v) true

def attributes? (escapes : Bool) (v spaced : Value) : Option Value := do
  let (ks, vs) ← match v with
    | dict ks vs => some (ks, vs)
    | _ => none
  let parts ← ((ks.zip vs).filter fun (_, w) => match w with
      | null | undefined => false
      | _ => true).mapM fun (k, w) =>
    match k with
    | text s isSafe =>
      if s.toList.any fun c => isBlank c || c = '/' || c = '>' || c = '=' then none
      else some ((text s isSafe).markup ++ "=\"" ++ w.markup ++ "\"")
    | _ => none
  let shown := joinWith " " parts
  return text (if spaced.truthy && shown ≠ "" then " " ++ shown else shown) escapes

def wordCount : Bool → List Char → Nat
  | _, [] => 0
  | inWord, c :: cs =>
    let isIn := isWordChar c
    (if isIn && !inWord then 1 else 0) + wordCount isIn cs

def relations? (hidesTrust : Bool) (v : Value) : Option (List String) := do
  let given ← match v with
    | text s _ => some ((splitWords s.length s.toList).map String.ofList)
    | v => if v.truthy then none else some []
  let all := given ++ (if hidesTrust then ["nofollow"] else []) ++ ["noopener"]
  return all.eraseDups.mergeSort (· ≤ ·)

def linked? (escapes : Bool) (v limit hidesTrust target relation schemes : Value) :
    Option Value := do
  let limit ← match limit with
    | null => some none
    | w => w.whole?.map some
  let relations ← relations? hidesTrust.truthy relation
  let schemes ← match schemes with
    | null => some []
    | w => (← w.entries?).mapM fun s =>
      match s with
      | text s _ => if isScheme s.toList then some s.toList else none
      | _ => none
  let frame := if target.truthy then " target=\"" ++ target.markup ++ "\"" else ""
  let attributes := " rel=\"" ++ escapedText (joinWith " " relations) ++ "\"" ++ frame
  return text (String.ofList (Linking.text ⟨attributes.toList, limit, schemes⟩ v.markup.toList))
    escapes

def textFilter? (escapes : Bool) (v : Value) (n : String) (a : Arguments) : Option Value := do
  let cs := v.display.toList
  match n with
  | "camel_case" =>
    let _ ← a.bind []
    v.restyled .camel
  | "pascal_case" =>
    let _ ← a.bind []
    v.restyled .pascal
  | "upper" | "lower" | "capitalize" =>
    let _ ← a.bind []
    v.viaText n {}
  | "title" =>
    let _ ← a.bind []
    return chars (titled true false cs)
  | "trim" =>
    match ← a.bind [("chars", some null)] with
    | [p] => v.viaText "strip" ⟨[p], []⟩
    | _ => none
  | "center" =>
    match ← a.bind [("width", some (int 80))] with
    | [w] => v.viaText "center" ⟨[w], []⟩
    | _ => none
  | "indent" =>
    match ← a.bind [("width", some (int 4)), ("first", some (bool false)),
        ("blank", some (bool false))] with
    | [width, first, blank] => indented? v width first blank
    | _ => none
  | "wordwrap" =>
    match ← a.bind [("width", some (int 79)), ("break_long_words", some (bool true)),
        ("wrapstring", some null), ("break_on_hyphens", some (bool true))] with
    | [width, cutsLong, newline, atHyphens] => wrapped? v width cutsLong newline atHyphens
    | _ => none
  | "truncate" =>
    match ← a.bind [("length", some (int 255)), ("killwords", some (bool false)),
        ("end", some (plain "...")), ("leeway", some null)] with
    | [length, kills, ending, tolerance] => truncated? v length kills ending tolerance
    | _ => none
  | "replace" =>
    match ← a.bind [("old", none), ("new", none), ("count", some null)] with
    | [old, new, count] => replaced? escapes v old new count
    | _ => none
  | "format" =>
    if a.places.isEmpty then
      Percent.format? v.display v.isSafe <|
        if a.named.isEmpty then tuple []
        else dict (a.named.map fun m => plain m.1) (a.named.map Prod.snd)
    else if a.named.isEmpty then Percent.format? v.display v.isSafe (tuple a.places)
    else none
  | "string" =>
    let _ ← a.bind []
    return text v.display v.isSafe
  | "safe" =>
    let _ ← a.bind []
    return text v.display true
  | "escape" | "e" =>
    let _ ← a.bind []
    return text v.markup true
  | "forceescape" =>
    let _ ← a.bind []
    return text (escapedText v.display) true
  | "striptags" =>
    let _ ← a.bind []
    return chars (withoutTags cs)
  | "wordcount" =>
    let _ ← a.bind []
    return int (wordCount false cs)
  | "urlencode" =>
    let _ ← a.bind []
    v.addressed?
  | "urlize" =>
    match ← a.bind [("trim_url_limit", some null), ("nofollow", some (bool false)),
        ("target", some null), ("rel", some null), ("extra_schemes", some null)] with
    | [limit, hidesTrust, target, relation, schemes] =>
      v.linked? escapes limit hidesTrust target relation schemes
    | _ => none
  | "tojson" =>
    match ← a.bind [("indent", some null)] with
    | [indent] => v.scriptFilter? indent
    | _ => none
  | "xmlattr" =>
    match ← a.bind [("autospace", some (bool true))] with
    | [spaced] => attributes? escapes v spaced
    | _ => none
  | "filesizeformat" =>
    match ← a.bind [("binary", some (bool false))] with
    | [isBinary] => v.fileSize? isBinary.truthy
    | _ => none
  | "abs" =>
    let _ ← a.bind []
    match v with
    | real x => some (real x.abs)
    | v => v.whole?.map fun m => int m.natAbs
  | "round" =>
    match ← a.bind [("precision", some (int 0)), ("method", some (plain "common"))] with
    | [precision, way] => v.rounded? precision way.display
    | _ => none
  | "int" =>
    match v, ← a.bind [("default", some (int 0)), ("base", some (int 10))] with
    | undefined, _ => none
    | v, [default, base] =>
      let b ← base.whole?
      some ((v.toWhole? b.toNat).elim default int)
    | _, _ => none
  | "float" =>
    match v, ← a.bind [("default", some (real 0.0))] with
    | undefined, _ => none
    | v, [default] => some (v.toReal?.elim default real)
    | _, _ => none
  | _ => none

end RealmModels.Template.Value
