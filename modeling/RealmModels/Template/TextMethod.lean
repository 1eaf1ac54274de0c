import RealmModels.Template.Access
import RealmModels.Template.Placeholder
import RealmModels.Text.Search

namespace RealmModels.Template.Value

open Text

def given? (isSafe : Bool) : Value → Option (List Char)
  | text s isSafe' => some (if isSafe then (text s isSafe').markup else s).toList
  | _ => none

def limit? (unlimited : Nat) (v : Value) : Option Nat :=
  v.whole?.map fun n => if n < 0 then unlimited else n.toNat

def strippable? (isSafe : Bool) : List Value → Option (Char → Bool)
  | [] | [null] => some isBlank
  | [v] => (v.given? isSafe).map fun cs => cs.contains
  | _ => none

def maxWidth : Nat := 10000000

def filler? (isSafe : Bool) (vs : List Value) : Option (Nat × Char) := do
  let (width, fill) ← match vs with
    | [w] => some (w, [' '])
    | [w, f] => (f.given? isSafe).map fun cs => (w, cs)
    | _ => none
  let n ← width.whole?
  match fill with
  | [c] => if n ≤ maxWidth then some (n.toNat, c) else none
  | _ => none

def centered (width : Nat) (c : Char) (cs : List Char) : List Char :=
  let missing := width - cs.length
  let before := missing / 2 + (if missing % 2 = 1 && width % 2 = 1 then 1 else 0)
  List.replicate before c ++ cs ++ List.replicate (missing - before) c

def zeroFilled (width : Nat) (cs : List Char) : List Char :=
  let zeros := List.replicate (width - cs.length) '0'
  match cs with
  | c :: rest => if c = '+' || c = '-' then c :: zeros ++ rest else zeros ++ cs
  | [] => zeros

def withoutTabs (size : Nat) (column : Nat) : List Char → List Char
  | [] => []
  | '\t' :: cs =>
    let n := if size = 0 then 0 else size - column % size
    List.replicate n ' ' ++ withoutTabs size (column + n) cs
  | c :: cs => c :: withoutTabs size (if c = '\n' || c = '\r' then 0 else column + 1) cs

def window? (cs : List Char) (bounds : List Value) : Option (Nat × List Char) := do
  let at? := fun (i : Nat) (default : Int) => match bounds[i]? with
    | none | some null => some default
    | some v => v.whole?
  let n : Int := cs.length
  let clamp := fun i : Int => (if i < 0 then i + n else i).toNat
  let start := clamp (← at? 0 0)
  let stop := clamp (← at? 1 n)
  if start > cs.length then none
  else some (start, (cs.take stop).drop start)

def found? (find : List Char → List Char → Option Nat) (missing : Option Value) (cs : List Char) :
    List Value → Option Value
  | sub :: bounds => do
    let sub ← sub.given? false
    match (window? cs bounds).bind fun (start, part) => (find sub part).map (start + ·) with
    | some i => some (int i)
    | none => missing
  | [] => none

def stands? (fits : List Char → List Char → Bool) (cs : List Char) : List Value → Option Value
  | sub :: bounds => do
    let subs ← match sub with
      | tuple vs => vs.mapM (given? false)
      | v => (v.given? false).map fun cs => [cs]
    match window? cs bounds with
    | some (_, part) => some (bool (subs.any fun sub => fits sub part))
    | none => some (bool false)
  | [] => none

def lettersAll (p : Char → Bool) (cs : List Char) : Value := bool (!cs.isEmpty && cs.all p)

def casesAll (p : Char → Bool) (cs : List Char) : Value :=
  bool (cs.any hasCase && cs.all fun c => !hasCase c || p c)

def textQuestion? (cs : List Char) : String → Option Value
  | "isalnum" => some (lettersAll (fun c => isLetter c || isDecimalDigit c) cs)
  | "isalpha" => some (lettersAll isLetter cs)
  | "isascii" => some (bool (cs.all isAscii))
  | "isdecimal" | "isdigit" | "isnumeric" => some (lettersAll isDecimalDigit cs)
  | "isidentifier" => some (bool (isIdentifier cs))
  | "islower" => some (casesAll isLower cs)
  | "isupper" => some (casesAll isUpper cs)
  | "istitle" => some (bool (cs.any hasCase && isTitled false cs))
  | "isprintable" => some (bool (cs.all isPrintable))
  | "isspace" => some (lettersAll isBlank cs)
  | _ => none

def textForm? (cs : List Char) : String → Option (List Char)
  | "upper" => some (upper cs)
  | "lower" => some (lower cs)
  | "casefold" => some (fold cs)
  | "capitalize" => some (capitalize cs)
  | "title" => some (titleWords false false cs)
  | "swapcase" => some (swapCase false cs)
  | _ => none

def splitParts? (isSafe fromEnd : Bool) (cs : List Char) (sep limit : Value) :
    Option (List (List Char)) := do
  let n ← limit? (cs.length + 1) limit
  match sep with
  | null => some (if fromEnd then splitLastWords n cs else splitWords n cs)
  | v => do
    let sep ← v.given? isSafe
    if sep.isEmpty then none
    some (if fromEnd then cutAtLast sep n cs else cutAtAll sep n cs)

def partition (sep : List Char) (fromEnd : Bool) (cs : List Char) : List (List Char) :=
  match if fromEnd then lastIndexOf? sep cs else indexOf? sep cs with
  | some i => [cs.take i, sep, cs.drop (i + sep.length)]
  | none => if fromEnd then [[], [], cs] else [cs, [], []]

def dropTags : Nat → List Char → List Char
  | 0, cs => cs
  | _ + 1, [] => []
  | fuel + 1, '<' :: '!' :: '-' :: '-' :: cs =>
    match breakAt "-->".toList cs with
    | some (_, rest) => dropTags fuel rest
    | none => '<' :: dropTags fuel ('!' :: '-' :: '-' :: cs)
  | fuel + 1, '<' :: cs =>
    match breakAt ['>'] cs with
    | some (_, rest) => dropTags fuel rest
    | none => '<' :: dropTags fuel cs
  | fuel + 1, c :: cs => c :: dropTags fuel cs

def unescaped (cs : List Char) : List Char :=
  [("&lt;", "<"), ("&gt;", ">"), ("&#34;", "\""), ("&quot;", "\""), ("&#39;", "'"),
      ("&amp;", "&")].foldl
    (fun cs (old, new) => replaceAll old.toList new.toList cs.length cs) cs

def withoutTags (cs : List Char) : List Char :=
  unescaped (joinChars [' '] (splitWords cs.length (dropTags (cs.length + 1) cs)))

def keyed : Value × Value → Option (String × Value)
  | (text k _, v) => some (k, v)
  | _ => none

def callText (cs : List Char) (isSafe : Bool) (n : String) (a : Arguments) : Option Value :=
  let made := fun cs : List Char => text (String.ofList cs) isSafe
  let strip := fun (atStart atEnd : Bool) => do
    let p ← strippable? isSafe (← a.unnamed 0 1)
    let cs := if atStart then cs.dropWhile p else cs
    some (made (if atEnd then dropEndWhile p cs else cs))
  let split := fun fromEnd : Bool => do
    match ← a.bind [("sep", some null), ("maxsplit", some (int (-1)))] with
    | [sep, limit] => return list ((← splitParts? isSafe fromEnd cs sep limit).map made)
    | _ => none
  match n with
  | "strip" => strip true true
  | "lstrip" => strip true false
  | "rstrip" => strip false true
  | "split" => split false
  | "rsplit" => split true
  | "splitlines" => do
    match ← a.bind [("keepends", some (bool false))] with
    | [keeps] => some (list ((splitLines keeps.truthy [] cs).map made))
    | _ => none
  | "center" => do
    let (width, c) ← filler? isSafe (← a.unnamed 1 2)
    some (made (centered width c cs))
  | "ljust" => do
    let (width, c) ← filler? isSafe (← a.unnamed 1 2)
    some (made (cs ++ List.replicate (width - cs.length) c))
  | "rjust" => do
    let (width, c) ← filler? isSafe (← a.unnamed 1 2)
    some (made (List.replicate (width - cs.length) c ++ cs))
  | "zfill" => do
    let (width, _) ← filler? isSafe (← a.unnamed 1 1)
    some (made (zeroFilled width cs))
  | "expandtabs" => do
    match ← a.bind [("tabsize", some (int 8))] with
    | [size] => some (made (withoutTabs (← size.whole?).toNat 0 cs))
    | _ => none
  | "replace" => do
    match ← a.unnamed 2 3 with
    | old :: new :: more =>
      let limit ← limit? (cs.length + 1) (more.headD (int (-1)))
      some (made (replaceAll (← old.given? isSafe) (← new.given? isSafe) limit cs))
    | _ => none
  | "join" => do
    match ← a.unnamed 1 1 with
    | [v] =>
      let vs ← v.entries?
      let parts ← if isSafe then some (vs.map fun v => v.markup.toList) else vs.mapM (given? false)
      some (made (joinChars cs parts))
    | _ => none
  | "startswith" => do stands? List.isPrefixOf cs (← a.unnamed 1 3)
  | "endswith" => do stands? List.isSuffixOf cs (← a.unnamed 1 3)
  | "find" => do found? indexOf? (some (int (-1))) cs (← a.unnamed 1 3)
  | "rfind" => do found? lastIndexOf? (some (int (-1))) cs (← a.unnamed 1 3)
  | "index" => do found? indexOf? none cs (← a.unnamed 1 3)
  | "rindex" => do found? lastIndexOf? none cs (← a.unnamed 1 3)
  | "count" => do
    match ← a.unnamed 1 3 with
    | sub :: bounds =>
      let sub ← sub.given? false
      some (int (((window? cs bounds).map fun (_, part) => occurrences sub part).getD 0))
    | [] => none
  | "partition" | "rpartition" => do
    match ← a.unnamed 1 1 with
    | [sep] =>
      let sep ← sep.given? isSafe
      if sep.isEmpty then none
      some (tuple ((partition sep (n = "rpartition") cs).map made))
    | _ => none
  | "removeprefix" => do
    let sub ← ((← a.unnamed 1 1).head?).bind (given? isSafe)
    some (made (if sub.isPrefixOf cs then cs.drop sub.length else cs))
  | "removesuffix" => do
    let sub ← ((← a.unnamed 1 1).head?).bind (given? isSafe)
    some (made (if sub.isSuffixOf cs then cs.take (cs.length - sub.length) else cs))
  | "format" => Placeholder.format? cs isSafe a
  | "format_map" => do
    match ← a.unnamed 1 1 with
    | [dict ks vs] => Placeholder.format? cs isSafe ⟨[], (ks.zip vs).filterMap keyed⟩
    | _ => none
  | "striptags" => do
    let _ ← a.unnamed 0 0
    some (chars (withoutTags cs))
  | "unescape" => do
    let _ ← a.unnamed 0 0
    some (chars (unescaped cs))
  | n => do
    let _ ← a.unnamed 0 0
    ((textForm? cs n).map made).or (textQuestion? cs n)

end RealmModels.Template.Value
