import RealmModels.Text.Lines
import RealmModels.Text.Pattern
import RealmModels.Text.Quoted

namespace RealmModels.Naming

inductive EscapeError where
  | unknownField
  | numberedField
  | malformed
  | notIndex
  | tooWide
  | unknownAttribute
  deriving DecidableEq, Repr

inductive Subject where
  | text (s : List Char)
  | type (name : String)
  | types (names : List String)
  deriving DecidableEq, Repr

namespace Subject

def ofKey (name key : String) : Except EscapeError Subject :=
  match Text.Pattern.index? key with
  | some n => .error (if n ≤ Text.Field.maxNumber then .numberedField else .malformed)
  | none =>
    if key = "" then .error .numberedField
    else if key = "name" then .ok (.text name.toList)
    else .error .unknownField

def attributeOfType? (name : String) : String → Option Subject
  | "__name__" | "__qualname__" => some (.text name.toList)
  | "__module__" => some (.text "builtins".toList)
  | "__class__" => some (.type "type")
  | "__base__" => if name = "object" then none else some (.type "object")
  | "__bases__" => some (.types (if name = "object" then [] else ["object"]))
  | "__mro__" => some (.types (if name = "object" then [name] else [name, "object"]))
  | _ => none

def attribute? (s : Subject) (n : String) : Option Subject :=
  match s, n with
  | .text _, "__class__" => some (.type "str")
  | .types _, "__class__" => some (.type "tuple")
  | .type name, n => attributeOfType? name n
  | _, _ => none

def item? (s : Subject) (i : Nat) : Option Subject :=
  match s with
  | .text cs => cs[i]?.map fun c => .text [c]
  | .types names => names[i]?.map .type
  | .type _ => none

def isType : Subject → Bool
  | .type _ => true
  | _ => false

def access (s : Subject) : Text.Access → Except EscapeError Subject
  | .fault => .error .malformed
  | .attribute n => (s.attribute? n).elim (.error .unknownAttribute) .ok
  | .item key =>
    match Text.Pattern.index? key with
    | none => .error .notIndex
    | some i =>
      if Text.Field.maxNumber < i then .error .malformed
      else if s.isType then .error .notIndex
      else (s.item? i).elim (.error .numberedField) .ok

def typeText (name : String) : String := "<class '" ++ name ++ "'>"

def typesText (names : List String) : String :=
  "(" ++ Text.joinWith ", " (names.map typeText) ++ (if names.length = 1 then ",)" else ")")

def display : Subject → List Char
  | text cs => cs
  | type name => (typeText name).toList
  | types names => (typesText names).toList

def inspect : Subject → List Char
  | text cs => (Text.quoted (String.ofList cs)).toList
  | s => display s

def convert (s : Subject) : Option Char → Except EscapeError Subject
  | none => .ok s
  | some 's' => .ok (.text s.display)
  | some 'r' => .ok (.text s.inspect)
  | some 'a' => .ok (.text (s.inspect.flatMap Text.asciiChar))
  | some _ => .error .malformed

def layOut (s : Subject) (layout : List Char) : Except EscapeError (List Char) :=
  match s with
  | text cs =>
    match Text.Field.ofChars? layout with
    | some field => if field.isTooWide then .error .tooWide else .ok (field.apply cs)
    | none => .error .malformed
  | s => if layout.isEmpty then .ok s.display else .error .notIndex

end Subject

mutual

def fillPiece (name : String) : Text.Piece → Except EscapeError (List Char)
  | .text s => .ok s.toList
  | .fault => .error .malformed
  | .field key parts conversion layout => do
    let s ← parts.foldlM Subject.access (← Subject.ofKey name key)
    let s ← s.convert conversion
    s.layOut (← fillAll name layout)

def fillAll (name : String) : Text.Pattern → Except EscapeError (List Char)
  | [] => .ok []
  | p :: ps => do
    let cs ← fillPiece name p
    return cs ++ (← fillAll name ps)

end

def fill (name : String) (p : Text.Pattern) : Except EscapeError String :=
  (fillAll name p).map String.ofList

def namePiece : Text.Piece := .field "name" [] none []

def underscored : Text.Pattern := [namePiece, .text "_"]

end RealmModels.Naming
