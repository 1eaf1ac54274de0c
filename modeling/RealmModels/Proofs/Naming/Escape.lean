import Mathlib
import RealmModels.Naming.Scope

namespace RealmModels.Naming

theorem ofKey_name (name : String) : Subject.ofKey name "name" = .ok (.text name.toList) := by
  have h : Text.Pattern.index? "name" = none := by decide
  simp only [Subject.ofKey, h]
  rfl

theorem fillPiece_namePiece (name : String) : fillPiece name namePiece = .ok name.toList := by
  simp only [namePiece, fillPiece, ofKey_name]
  change Subject.layOut (.text name.toList) [] = _
  simp [Subject.layOut, Text.Field.ofChars?, Text.Field.ofStart, Text.Field.hasFill,
    Text.leadingNumber, Text.Field.longest?, Text.Field.isTooWide, Text.Field.leastTooWide,
    Text.Field.apply]

theorem fill_underscored (name : String) : fill name underscored = .ok (name ++ "_") := by
  simp only [fill, underscored, fillAll, fillPiece_namePiece]
  simp [fillPiece, bind, Except.bind, pure, Except.pure, Except.map]

def withUnderscore (reserved : List String) (name : String) : String :=
  if name ∈ reserved then name ++ "_" else name

theorem escaped_underscored (reserved : List String) (name : String) :
    (⟨reserved, underscored⟩ : Policy).escaped name = .ok (withUnderscore reserved name) := by
  rw [Policy.escaped, fill_underscored, withUnderscore]
  by_cases h : name ∈ reserved <;> simp [h]

end RealmModels.Naming
