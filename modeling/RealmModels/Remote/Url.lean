import RealmModels.Remote.HostAddress

namespace RealmModels.Remote

structure Url where
  scheme : List Char
  authority : List Char
  deriving DecidableEq, Repr

namespace Url

def isLetter (c : Char) : Bool := ('a' ≤ c && c ≤ 'z') || ('A' ≤ c && c ≤ 'Z')

def isSchemeChar (c : Char) : Bool :=
  isLetter c || isDigit c || c == '+' || c == '-' || c == '.'

def cleaned (cs : List Char) : List Char :=
  (cs.dropWhile (·.toNat ≤ 0x20)).filter fun c => c != '\t' && c != '\n' && c != '\x0d'

def cutScheme (cs : List Char) : List Char × List Char :=
  match cs.span (· != ':') with
  | (scheme, ':' :: rest) =>
    if scheme.head?.any isLetter && scheme.all isSchemeChar then (scheme, rest) else ([], cs)
  | _ => ([], cs)

def authorityOf : List Char → List Char
  | '/' :: '/' :: rest => rest.takeWhile fun c => c != '/' && c != '?' && c != '#'
  | _ => []

def looksLikeEnd (c : Char) : Bool :=
  [0x2047, 0x2048, 0x2049, 0x2100, 0x2101, 0x2105, 0x2106, 0x2a74, 0xfe13, 0xfe16, 0xfe55, 0xfe56,
   0xfe5f, 0xfe6b, 0xff03, 0xff0f, 0xff1a, 0xff1f, 0xff20].contains c.toNat

def hostAndPort (authority : List Char) : List Char :=
  (authority.reverse.takeWhile (· != '@')).reverse

def hasNumericHost (host : List Char) : Bool :=
  match host with
  | '[' :: rest =>
    let (address, behind) := rest.span (· != ']')
    isHostAddress address && (behind.drop 1).head?.all (· == ':')
  | _ => !host.contains '[' && isHostAddress (host.takeWhile (· != ':'))

def bracketsFit (authority : List Char) : Bool :=
  match authority.contains '[', authority.contains ']' with
  | false, false => true
  | true, true => hasNumericHost (hostAndPort authority)
  | _, _ => false

def ofString? (s : String) : Option Url :=
  let (scheme, rest) := cutScheme (cleaned s.toList)
  let authority := authorityOf rest
  if bracketsFit authority && !authority.any looksLikeEnd then some ⟨scheme, authority⟩ else none

def isComplete (u : Url) : Bool := !u.scheme.isEmpty && !u.authority.isEmpty

end Url

end RealmModels.Remote
