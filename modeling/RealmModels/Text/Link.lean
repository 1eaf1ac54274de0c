import RealmModels.Text.Search

namespace RealmModels.Text

structure Linking where
  attributes : List Char := []
  limit : Option Int := none
  schemes : List (List Char) := []
  deriving DecidableEq, Repr

def behind? (start : String) (cs : List Char) : Option (List Char) :=
  if start.toList.isPrefixOf (cs.map Char.toLower) then some (cs.drop start.length) else none

def isLabelChar (c : Char) : Bool := isWordChar c || c == '%' || c == '-'

def isTopLabel (cs : List Char) : Bool :=
  (2 ≤ cs.length && cs.length ≤ 63 && cs.all fun c => isAscii c && c.isAlpha) ||
    match behind? "xn--" cs with
    | some rest => 2 ≤ rest.length && rest.length ≤ 59 && rest.all fun c => isWordChar c || c == '%'
    | none => false
where
  isAscii (c : Char) : Bool := c.toNat < 128

def isDomain (cs : List Char) : Bool :=
  let labels := cutAt '.' cs
  (labels.getLast?.any isTopLabel) &&
    labels.dropLast.all fun l => !l.isEmpty && l.all isLabelChar

def wellKnownTops : List String := ["com", "net", "int", "edu", "gov", "org", "info", "mil"]

def isKnownDomain (cs : List Char) : Bool :=
  let labels := cutAt '.' cs
  2 ≤ labels.length &&
    (labels.getLast?.any fun l => wellKnownTops.contains (String.ofList (l.map Char.toLower))) &&
    labels.dropLast.all fun l => 2 ≤ l.length && l.length ≤ 63 && l.all isLabelChar

def isFourNumbers (cs : List Char) : Bool :=
  let numbers := cutAt '.' cs
  numbers.length == 4 &&
    numbers.all fun n => 1 ≤ n.length && n.length ≤ 3 && n.all isDecimalDigit

def isHexGroups (cs : List Char) : Bool :=
  let isDigit := fun c : Char => isDecimalDigit c || isHexDigit c
  match cutAt ':' cs with
  | first :: second :: rest@(_ :: _) =>
    let count := fun run : List Char => (run.length + 3) / 4
    let closed := rest.dropLast.map fun run => if run.isEmpty then 1 else count run
    (first :: second :: rest).all (·.all isDigit) && first.length ≤ 4 && second.length ≤ 4 &&
      closed.foldl (· + ·) (count (rest.getLast?.getD [])) ≤ 6
  | _ => false

def isHostNumber (cs : List Char) : Bool :=
  isFourNumbers cs ||
    match cs with
    | '[' :: rest => rest.getLast? == some ']' && isHexGroups rest.dropLast
    | _ => false

def isHost (cs : List Char) : Bool :=
  let behindScheme := fun (ok : List Char → Bool) =>
    (behind? "https://" cs).any ok || (behind? "http://" cs).any ok
  behindScheme isDomain || (behind? "www." cs).any isDomain || isKnownDomain cs ||
    behindScheme isHostNumber

def isRemainder (cs : List Char) : Bool :=
  cs.head?.all fun c => c == '/' || c == '?' || c == '#'

def mayFollowHost : List Char → Bool
  | ':' :: cs =>
    let (port, rest) := cs.span isDecimalDigit
    1 ≤ port.length && port.length ≤ 5 && isRemainder rest
  | cs => isRemainder cs

def isPageAddress (cs : List Char) : Bool :=
  (List.range (cs.length + 1)).any fun i => isHost (cs.take i) && mayFollowHost (cs.drop i)

def isMailbox (cs : List Char) : Bool :=
  match lastIndexOf? ['@'] cs with
  | none | some 0 => false
  | some i =>
    let domain := cs.drop (i + 1)
    match lastIndexOf? ['.'] domain with
    | none => false
    | some j =>
      let top := domain.drop (j + 1)
      (domain.take j).head?.any isWordChar &&
        (domain.take j).all (fun c => isWordChar c || c == '.' || c == '-') &&
        !top.isEmpty && top.all isWordChar

def isScheme (cs : List Char) : Bool :=
  let (name, rest) := cs.span fun c => isWordChar c || c == '.' || c == '+' || c == '-'
  2 ≤ name.length && [":", ":/", "://"].contains (String.ofList rest)

def cutOpening : List Char → List Char × List Char
  | '&' :: 'l' :: 't' :: ';' :: cs =>
    let (opening, rest) := cutOpening cs
    ('&' :: 'l' :: 't' :: ';' :: opening, rest)
  | c :: cs =>
    if c == '(' || c == '<' then
      let (opening, rest) := cutOpening cs
      (c :: opening, rest)
    else ([], c :: cs)
  | [] => ([], [])

def isClosing : List Char → Bool
  | '&' :: 'g' :: 't' :: ';' :: cs => isClosing cs
  | c :: cs => (c == ')' || c == '>' || c == '.' || c == ',') && isClosing cs
  | [] => true

def cutClosing : List Char → List Char × List Char
  | [] => ([], [])
  | c :: cs =>
    if isClosing (c :: cs) then ([], c :: cs)
    else
      let (word, closing) := cutClosing cs
      (c :: word, closing)

def takeBrackets (bracket : List Char) : Nat → List Char → List Char → List Char × List Char
  | 0, word, closing => (word, closing)
  | n + 1, word, closing =>
    match breakAt bracket closing with
    | some (before, rest) => takeBrackets bracket n (word ++ before ++ bracket) rest
    | none => (word, closing)

def balanced (pair : String × String) (parts : List Char × List Char) : List Char × List Char :=
  let opened := occurrences pair.1.toList parts.1
  if opened ≤ occurrences pair.2.toList parts.1 then parts
  else takeBrackets pair.2.toList opened parts.1 parts.2

def bracketPairs : List (String × String) := [("(", ")"), ("<", ">"), ("&lt;", "&gt;")]

def tagged (attributes target shown : List Char) : List Char :=
  "<a href=\"".toList ++ target ++ '"' :: attributes ++ '>' :: shown ++ "</a>".toList

def Linking.shortened (l : Linking) (cs : List Char) : List Char :=
  match l.limit with
  | none => cs
  | some n =>
    if (cs.length : Int) ≤ n then cs
    else cs.take (if n < 0 then cs.length + n else n).toNat ++ "...".toList

def Linking.word (l : Linking) (cs : List Char) : List Char :=
  if isPageAddress cs then
    let hasScheme := "https://".toList.isPrefixOf cs || "http://".toList.isPrefixOf cs
    tagged l.attributes (if hasScheme then cs else "https://".toList ++ cs) (l.shortened cs)
  else if "mailto:".toList.isPrefixOf cs && isMailbox (cs.drop 7) then tagged [] cs (cs.drop 7)
  else if !cs.contains ':' && !"www.".toList.isPrefixOf cs && cs.head? != some '@' &&
      isMailbox cs then
    tagged [] ("mailto:".toList ++ cs) cs
  else if l.schemes.any fun s => cs != s && s.isPrefixOf cs then tagged l.attributes cs cs
  else cs

def Linking.surrounded (l : Linking) (cs : List Char) : List Char :=
  let (opening, rest) := cutOpening cs
  let (word, closing) := bracketPairs.foldl (fun parts pair => balanced pair parts) (cutClosing rest)
  opening ++ l.word word ++ closing

def Linking.words (l : Linking) (word : List Char) : List Char → List Char
  | [] => l.surrounded word.reverse
  | c :: cs =>
    if isBlank c then l.surrounded word.reverse ++ c :: l.words [] cs else l.words (c :: word) cs

def Linking.text (l : Linking) (cs : List Char) : List Char := l.words [] cs

end RealmModels.Text
