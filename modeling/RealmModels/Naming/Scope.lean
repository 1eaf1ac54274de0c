import RealmModels.Naming.Escape
import RealmModels.Naming.Words

namespace RealmModels.Naming

structure Policy where
  reserved : List String
  escape : Text.Pattern

def Policy.escaped (p : Policy) (name : String) : Except EscapeError String :=
  if p.reserved.contains name then fill name p.escape else .ok name

def Style.word : Style → String
  | .snake => "snake"
  | .camel => "camel"
  | .pascal => "pascal"
  | .verbatim => "original"

def keyOf (spelling : String) (style : Style) : String := spelling ++ "_" ++ style.word

/-- The names given so far, each under its key, and those that are taken, which are not escaped. -/
structure Scope where
  given : List (String × String)
  taken : List String
  deriving Repr

namespace Scope

def empty : Scope := ⟨[], []⟩

def take (name : String) (s : Scope) : Scope := { s with taken := name :: s.taken }

def given? (s : Scope) (spelling : String) (style : Style) : Option String :=
  (s.given.find? (·.1 == keyOf spelling style)).map Prod.snd

end Scope

def numbered (taken : List String) (name : String) : Nat → Nat → String
  | 0, k => name ++ toString k
  | fuel + 1, k =>
    if taken.contains (name ++ toString k) then numbered taken name fuel (k + 1)
    else name ++ toString k

def freeName (taken : List String) (name : String) : String :=
  if taken.contains name then numbered taken name taken.length 1 else name

def Scope.name (p : Policy) (style : Style) (spelling : String) (s : Scope) :
    Except EscapeError (String × Scope) :=
  match s.given? spelling style with
  | some known => .ok (known, s)
  | none => do
    let free := freeName s.taken (base style spelling)
    let final ← p.escaped free
    return (final, ⟨(keyOf spelling style, final) :: s.given, free :: s.taken⟩)

end RealmModels.Naming
