import Mathlib
import RealmModels.Proofs.GraphQL.Classified
import RealmModels.Proofs.Printer.Line
import RealmModels.Swift.TypeName

namespace RealmModels.Swift

open GraphQL

namespace TypeNaming

def Names (n : TypeNaming) (t : TypeRef) : Prop :=
  t.IsOutput ∧ (t.classified.isUncaught = true → n.passthrough = true → n.customPrefix.isSome = true)

instance (n : TypeNaming) (t : TypeRef) : Decidable (n.Names t) := inferInstanceAs (Decidable (_ ∧ _))

def rootName (n : TypeNaming) (t : TypeRef) : String := (n.rootOf t).toOption.getD ""

def fullName (n : TypeNaming) (isOptional : Bool) (t : TypeRef) : String :=
  (n.full isOptional t).toOption.getD ""

theorem root_isOk_iff (n : TypeNaming) (c : Classified) :
    (n.root c).isOk = true ↔
      (c.isUncaught = true → n.passthrough = true → n.customPrefix.isSome = true) := by
  obtain ⟨typeName, shape, isOptional, isList⟩ := c
  cases shape with
  | scalar kind =>
    cases kind with
    | custom =>
      cases hpass : n.passthrough <;> cases hstart : n.customPrefix <;>
        simp [root, builtinName?, Classified.isUncaught, Except.isOk, Except.toBool, hpass, hstart]
    | _ => simp [root, builtinName?, Classified.isUncaught, Except.isOk, Except.toBool]
  | object => simp [root, Classified.isUncaught, Except.isOk, Except.toBool]
  | enum => simp [root, Classified.isUncaught, Except.isOk, Except.toBool]
  | abstract => simp [root, Classified.isUncaught, Except.isOk, Except.toBool]

theorem rootOf_isOk_iff (n : TypeNaming) (t : TypeRef) : (n.rootOf t).isOk = true ↔ n.Names t := by
  by_cases h : t.IsOutput
  · simp only [rootOf, classify_of_isOutput h, root_isOk_iff, Names, h, true_and]
  · simp only [rootOf, classify_of_not_isOutput h, Names, h, false_and, iff_false]
    exact Bool.false_ne_true

theorem names_leaf (n : TypeNaming) (t : TypeRef) : n.Names (.named t.leaf) ↔ n.Names t := Iff.rfl

theorem full_isOk_iff (n : TypeNaming) (isOptional : Bool) (t : TypeRef) :
    (n.full isOptional t).isOk = true ↔ n.Names t := by
  induction t generalizing isOptional with
  | named type =>
    rw [← rootOf_isOk_iff, full]
    cases n.rootOf (.named type) <;> exact Iff.rfl
  | list item ih =>
    rw [← n.names_leaf, TypeRef.leaf, n.names_leaf, ← ih false, full]
    cases n.full false item <;> exact Iff.rfl
  | nonNull inner ih => exact ih false

theorem rootOf_eq_ok_iff (n : TypeNaming) (t : TypeRef) (s : String) :
    n.rootOf t = .ok s ↔ n.Names t ∧ s = n.rootName t := by
  rw [← rootOf_isOk_iff]
  exact eq_ok_iff "" (n.rootOf t) s

theorem full_eq_ok_iff (n : TypeNaming) (isOptional : Bool) (t : TypeRef) (s : String) :
    n.full isOptional t = .ok s ↔ n.Names t ∧ s = n.fullName isOptional t := by
  rw [← full_isOk_iff n isOptional]
  exact eq_ok_iff "" (n.full isOptional t) s

end TypeNaming

end RealmModels.Swift
