import RealmModels.Text.Lines

namespace RealmModels.Remote

open Text

def isDigit (c : Char) : Bool := '0' ≤ c && c ≤ '9'

def isHexDigit (c : Char) : Bool := isDigit c || ('a' ≤ c && c ≤ 'f') || ('A' ≤ c && c ≤ 'F')

def isOctet (cs : List Char) : Bool :=
  !cs.isEmpty && cs.length ≤ 3 && cs.all isDigit && (cs.length == 1 || cs.head? != some '0') &&
    ((String.ofList cs).toNat?.getD 256) < 256

def isQuad (cs : List Char) : Bool :=
  let octets := cutAt '.' cs
  octets.length == 4 && octets.all isOctet

def isGroup (cs : List Char) : Bool := !cs.isEmpty && cs.length ≤ 4 && cs.all isHexDigit

def groupCount? (cs : List Char) : Option Nat :=
  if cs.isEmpty then some 0
  else
    let pieces := cutAt ':' cs
    if pieces.all isGroup then some pieces.length
    else if pieces.dropLast.all isGroup && pieces.getLast?.any isQuad then some (pieces.length + 1)
    else none

def cutAtGap : List Char → Option (List Char × List Char)
  | ':' :: ':' :: cs => some ([], cs)
  | c :: cs => (cutAtGap cs).map fun (before, after) => (c :: before, after)
  | [] => none

def isGroups (cs : List Char) : Bool :=
  match cutAtGap cs with
  | none => groupCount? cs == some 8
  | some (before, after) =>
    match groupCount? before, groupCount? after with
    | some m, some n => !before.contains '.' && m + n ≤ 7
    | _, _ => false

def isGroupAddress (cs : List Char) : Bool :=
  match cs.span (· != '%') with
  | (groups, []) => isGroups groups
  | (groups, _ :: zone) => !zone.isEmpty && !zone.contains '%' && isGroups groups

def isVersioned (cs : List Char) : Bool :=
  match cs with
  | 'v' :: rest =>
    let (version, rest) := rest.span isHexDigit
    !version.isEmpty && rest.head? == some '.' && rest.length ≥ 2
  | _ => false

def isHostAddress (cs : List Char) : Bool :=
  if cs.head? == some 'v' then isVersioned cs else isGroupAddress cs

end RealmModels.Remote
