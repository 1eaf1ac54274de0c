import Mathlib
import RealmModels.GraphQL.Classified

namespace RealmModels.GraphQL

namespace TypeRef

def hasList : TypeRef → Bool
  | named _ => false
  | list _ => true
  | nonNull inner => inner.hasList

def hasMark : TypeRef → Bool
  | named _ => false
  | list item => item.hasMark
  | nonNull _ => true

def IsOutput (t : TypeRef) : Prop := t.leaf.kind.isOutput = true

instance (t : TypeRef) : Decidable t.IsOutput := inferInstanceAs (Decidable (_ = true))

def classified (t : TypeRef) : Classified :=
  ⟨t.leaf.name, t.leaf.shape?.getD .abstract, !t.hasMark, t.hasList⟩

end TypeRef

theorem Named.shape?_eq_none_iff (t : Named) : t.shape? = none ↔ t.kind.isOutput = false := by
  cases h : t.kind <;> simp [Named.shape?, Kind.isOutput, h]

theorem classifyFrom_eq (isOptional isList : Bool) (t : TypeRef) :
    classifyFrom isOptional isList t =
      match t.leaf.shape? with
      | some shape => .ok ⟨t.leaf.name, shape, isOptional && !t.hasMark, isList || t.hasList⟩
      | none => .error ⟨t.leaf⟩ := by
  induction t generalizing isOptional isList with
  | named type =>
    cases h : type.shape? <;>
      simp [classifyFrom, TypeRef.leaf, TypeRef.hasMark, TypeRef.hasList, h]
  | list item ih => simp [classifyFrom, ih, TypeRef.leaf, TypeRef.hasMark, TypeRef.hasList]
  | nonNull inner ih => simp [classifyFrom, ih, TypeRef.leaf, TypeRef.hasMark, TypeRef.hasList]

theorem classify_of_isOutput {t : TypeRef} (h : t.IsOutput) : classify t = .ok t.classified := by
  rw [classify, classifyFrom_eq, TypeRef.classified]
  cases hs : t.leaf.shape? with
  | some shape => simp
  | none => simp [TypeRef.IsOutput, (Named.shape?_eq_none_iff _).mp hs] at h

theorem classify_of_not_isOutput {t : TypeRef} (h : ¬ t.IsOutput) : classify t = .error ⟨t.leaf⟩ := by
  have hs : t.leaf.shape? = none := (Named.shape?_eq_none_iff _).mpr (by simpa [TypeRef.IsOutput] using h)
  rw [classify, classifyFrom_eq, hs]

end RealmModels.GraphQL
