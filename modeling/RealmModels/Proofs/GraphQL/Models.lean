import Mathlib
import RealmModels.GraphQL.Token
import RealmModels.GraphQL.Schema

namespace RealmModels.GraphQL

namespace TypeDef

def modelOf (t : TypeDef) : ObjectType := t.model?.getD ⟨t.name, []⟩

theorem modelOf_name (t : TypeDef) : t.modelOf.name = t.name := by
  obtain ⟨name, body⟩ := t
  cases body with
  | object interfaces fields =>
    simp only [modelOf, model?]
    split <;> rfl
  | _ => rfl

theorem fields?_of_model? {t : TypeDef} {m : ObjectType} (h : t.model? = some m) :
    m.name = t.name ∧ t.fields? = some m.fields := by
  obtain ⟨name, body⟩ := t
  cases body with
  | object interfaces fields =>
    simp only [model?] at h
    split at h
    · cases h
    · cases h
      exact ⟨rfl, rfl⟩
  | _ => cases h

end TypeDef

namespace Schema

def modelTypes (s : Schema) : List TypeDef := s.types.filter (·.model?.isSome)

def modelFields (s : Schema) : List (ObjectType × Field) :=
  s.models.flatMap fun m => m.fields.map fun f => (m, f)

/-- Types have different names, and so have the fields of each type. -/
structure Keyed (s : Schema) : Prop where
  types : (s.types.map TypeDef.name).Nodup
  fields : ∀ t ∈ s.types, ∀ fs, t.fields? = some fs → (fs.map Field.name).Nodup

/-- Models and the types of their fields have names of the schema language. -/
structure Spelled (s : Schema) : Prop where
  models : ∀ m ∈ s.models, isName m.name = true
  leaves : ∀ m ∈ s.models, ∀ f ∈ m.fields, isName f.type.leaf.name = true

theorem map_modelOf (s : Schema) : s.modelTypes.map TypeDef.modelOf = s.models := by
  rw [modelTypes, models]
  induction s.types with
  | nil => rfl
  | cons t ts ih => cases h : t.model? <;> simp [h, TypeDef.modelOf, ih]

theorem model?_of_mem {s : Schema} {t : TypeDef} (h : t ∈ s.modelTypes) :
    t.model? = some t.modelOf := by
  obtain ⟨m, hm⟩ := Option.isSome_iff_exists.mp (List.mem_filter.mp h).2
  rw [TypeDef.modelOf, hm, Option.getD_some]

theorem forall_mem_modelTypes (s : Schema) (P : ObjectType → Prop) :
    (∀ t ∈ s.modelTypes, P t.modelOf) ↔ ∀ m ∈ s.models, P m := by
  rw [← map_modelOf, List.forall_mem_map]

theorem flatMap_models {α : Type} {q : Field → Bool} {h : ObjectType → Field → α}
    {k : ObjectType → List α} (s : Schema) (hk : ∀ m, k m = (m.fields.filter q).map (h m)) :
    s.models.flatMap k = (s.modelFields.filter fun x => q x.2).map fun x => h x.1 x.2 := by
  rw [modelFields, List.filter_flatMap, List.map_flatMap]
  refine List.flatMap_congr fun m _ => ?_
  rw [hk, List.filter_map, List.map_map]
  rfl

namespace Keyed

variable {s : Schema}

theorem models (h : s.Keyed) : (s.models.map ObjectType.name).Nodup := by
  have hnames : s.models.map ObjectType.name = s.modelTypes.map TypeDef.name := by
    rw [← map_modelOf, List.map_map]
    exact List.map_congr_left fun t _ => t.modelOf_name
  rw [hnames]
  exact h.types.sublist (List.filter_sublist.map _)

theorem fieldsOf (h : s.Keyed) {m : ObjectType} (hm : m ∈ s.models) :
    (m.fields.map Field.name).Nodup := by
  obtain ⟨t, ht, hmodel⟩ := List.mem_filterMap.mp hm
  exact h.fields t ht _ (TypeDef.fields?_of_model? hmodel).2

theorem modelFields (h : s.Keyed) :
    (s.modelFields.map fun x => (x.1.name, x.2.name)).Nodup := by
  rw [Schema.modelFields, List.map_flatMap, List.nodup_flatMap]
  constructor
  · intro m hm
    have hnames := (h.fieldsOf hm).map (Prod.mk_right_injective m.name)
    rw [List.map_map] at hnames ⊢
    exact hnames
  · have hmodels := List.pairwise_map.mp h.models
    refine hmodels.imp fun hne => ?_
    intro x hx hy
    simp only [List.map_map, List.mem_map, Function.comp_apply] at hx hy
    obtain ⟨f, -, rfl⟩ := hx
    obtain ⟨g, -, hg⟩ := hy
    exact hne (congrArg Prod.fst hg).symm

end Keyed

end Schema

end RealmModels.GraphQL
