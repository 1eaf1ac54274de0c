import RealmModels.Text.Field

namespace RealmModels.Text

inductive Access where
  | attribute (name : String)
  | item (key : String)
  | fault
  deriving DecidableEq, Repr

inductive Piece where
  | text (s : String)
  | field (key : String) (accesses : List Access) (conversion : Option Char) (layout : List Piece)
  | fault
  deriving Repr

abbrev Pattern := List Piece

namespace Pattern

def accesses : Nat → List Char → List Access
  | 0, _ | _, [] => []
  | fuel + 1, '.' :: rest =>
    let (name, rest) := rest.span fun c => c != '.' && c != '['
    if name.isEmpty then [.fault]
    else .attribute (String.ofList name) :: accesses fuel rest
  | fuel + 1, '[' :: rest =>
    match rest.span (· != ']') with
    | ([], _) | (_, []) => [.fault]
    | (key, _ :: rest) => .item (String.ofList key) :: accesses fuel rest
  | _ + 1, _ => [.fault]

def fieldName : Nat → List Char → Option (List Char × List Char)
  | 0, _ | _, [] => none
  | fuel + 1, c :: rest =>
    if c = '\x7b' then none
    else if c = '\x7d' || c = ':' || c = '!' then some ([], c :: rest)
    else if c = '[' then do
      let (key, behind) := rest.span (· != ']')
      let (name, rest) ← fieldName fuel behind
      some (c :: key ++ name, rest)
    else do
      let (name, rest) ← fieldName fuel rest
      some (c :: name, rest)

def upToClosing (opened : Nat) : List Char → Option (List Char × List Char)
  | [] => none
  | '\x7d' :: rest =>
    match opened with
    | 0 => some ([], rest)
    | n + 1 => (upToClosing n rest).map fun (cs, rest) => ('\x7d' :: cs, rest)
  | c :: rest =>
    (upToClosing (if c = '\x7b' then opened + 1 else opened) rest).map fun (cs, rest) =>
      (c :: cs, rest)

def fieldEnd : List Char → Option (Option Char × List Char × List Char)
  | '\x7d' :: rest => some (none, [], rest)
  | '!' :: c :: '\x7d' :: rest => some (some c, [], rest)
  | '!' :: c :: ':' :: rest => do
    let (layout, rest) ← upToClosing 0 rest
    some (some c, layout, rest)
  | ':' :: rest => do
    let (layout, rest) ← upToClosing 0 rest
    some (none, layout, rest)
  | _ => none

def maxDepth : Nat := 2

def ofChars (depth : Nat) : Nat → List Char → Pattern
  | 0, _ => []
  | _ + 1, [] => []
  | fuel + 1, '\x7b' :: '\x7b' :: rest => .text "\x7b" :: ofChars depth fuel rest
  | fuel + 1, '\x7d' :: '\x7d' :: rest => .text "\x7d" :: ofChars depth fuel rest
  | _ + 1, '\x7d' :: _ => [.fault]
  | fuel + 1, '\x7b' :: rest =>
    match depth, fieldName (rest.length + 1) rest with
    | inner + 1, some (name, behind) =>
      match fieldEnd behind with
      | some (conversion, layout, rest) =>
        let key := name.takeWhile fun c => c != '.' && c != '['
        let parts := accesses (name.length + 1) (name.drop key.length)
        let laidOut :=
          if layout.contains '\x7b' then
            if inner = 0 then [.fault] else ofChars inner fuel layout
          else [.text (String.ofList layout)]
        .field (String.ofList key) parts conversion laidOut :: ofChars (inner + 1) fuel rest
      | none => [.fault]
    | _, _ => [.fault]
  | fuel + 1, c :: rest => .text (String.singleton c) :: ofChars depth fuel rest

def ofString (s : String) : Pattern := ofChars maxDepth (s.length + 1) s.toList

def index? (s : String) : Option Nat :=
  match Text.leadingNumber s.toList with
  | (some n, []) => some n
  | _ => none

end Pattern

end RealmModels.Text
