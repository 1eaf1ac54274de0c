import Mathlib
import RealmModels.GraphQL.Standard
import RealmModels.Proofs.GraphQL.Classified

/-!
References as named types in layers. A classification tells the type, and of the layers which kinds
there are; their order and their number have no part in it.
-/

namespace RealmModels.GraphQL

inductive Layer where
  | list
  | nonNull
  deriving DecidableEq, Repr

namespace Layer

def around : Layer → TypeRef → TypeRef
  | list => .list
  | nonNull => .nonNull

theorem leaf_around (layer : Layer) (t : TypeRef) : (layer.around t).leaf = t.leaf := by
  cases layer <;> rfl

theorem hasList_around (layer : Layer) (t : TypeRef) :
    (layer.around t).hasList = (decide (list = layer) || t.hasList) := by
  cases layer <;> rfl

theorem hasMark_around (layer : Layer) (t : TypeRef) :
    (layer.around t).hasMark = (decide (nonNull = layer) || t.hasMark) := by
  cases layer <;> rfl

end Layer

namespace Named

def within (type : Named) (layers : List Layer) : TypeRef :=
  layers.foldr Layer.around (.named type)

theorem within_cons (type : Named) (layer : Layer) (layers : List Layer) :
    type.within (layer :: layers) = layer.around (type.within layers) := rfl

variable (type : Named) (layers : List Layer)

theorem leaf_within : (type.within layers).leaf = type := by
  induction layers with
  | nil => rfl
  | cons layer layers ih => rw [within_cons, Layer.leaf_around, ih]

theorem hasList_within : (type.within layers).hasList = decide (.list ∈ layers) := by
  induction layers with
  | nil => rfl
  | cons layer layers ih => simp [within_cons, Layer.hasList_around, ih]

theorem hasMark_within : (type.within layers).hasMark = decide (.nonNull ∈ layers) := by
  induction layers with
  | nil => rfl
  | cons layer layers ih => simp [within_cons, Layer.hasMark_around, ih]

end Named

theorem TypeRef.exists_within (t : TypeRef) : ∃ layers, t = t.leaf.within layers := by
  induction t with
  | named type => exact ⟨[], rfl⟩
  | list item ih =>
    obtain ⟨layers, hitem⟩ := ih
    exact ⟨.list :: layers, congrArg TypeRef.list hitem⟩
  | nonNull inner ih =>
    obtain ⟨layers, hinner⟩ := ih
    exact ⟨.nonNull :: layers, congrArg TypeRef.nonNull hinner⟩

def outputKinds : List Kind := [.object, .scalar, .enum, .interface, .union]

theorem mem_outputKinds_iff (type : Named) :
    type.kind ∈ outputKinds ↔ type.shape?.isSome = true := by
  cases hkind : type.kind <;> simp [outputKinds, Named.shape?, hkind]

namespace ScalarKind

def builtin? : ScalarKind → Option String
  | boolean => some "Boolean"
  | int => some "Int"
  | float => some "Float"
  | string => some "String"
  | id => some "ID"
  | custom => none

theorem ofName_eq_iff {kind : ScalarKind} {name : String} (h : kind.builtin? = some name)
    (s : String) : ofName s = kind ↔ s = name := by
  constructor
  · rintro rfl
    unfold ofName at h
    split at h <;> cases h <;> rfl
  · rintro rfl
    cases kind <;> cases h <;> rfl

theorem ofName_eq_custom_iff (s : String) : ofName s = custom ↔ s ∉ builtinScalars := by
  unfold ofName
  split <;> simp_all [builtinScalars]

end ScalarKind

def Shape.kinds : Shape → List Kind
  | object => [.object]
  | scalar _ => [.scalar]
  | enum => [.enum]
  | abstract => [.interface, .union]

namespace Classified

def scalarKind? (c : Classified) : Option ScalarKind :=
  match c.shape with
  | .scalar kind => some kind
  | _ => none

theorem scalarKind?_eq_some_iff (c : Classified) (kind : ScalarKind) :
    c.scalarKind? = some kind ↔ c.shape = .scalar kind := by
  cases hshape : c.shape <;> simp [scalarKind?, hshape]

/-- The classification tells the type and its kind, which of the scalars it is if it is one, and
whether there is a list and whether there is a non-null mark anywhere in the layers. -/
structure Describes (c : Classified) (type : Named) (layers : List Layer) : Prop where
  typeName : c.typeName = type.name
  kind : type.kind ∈ c.shape.kinds
  scalar : c.scalarKind?.isSome = true ↔ type.kind = .scalar
  custom : c.scalarKind? = some .custom ↔ type.kind = .scalar ∧ type.name ∉ builtinScalars
  builtin : ∀ kind name, kind.builtin? = some name →
    (c.scalarKind? = some kind ↔ type.kind = .scalar ∧ type.name = name)
  isList : c.isList = true ↔ .list ∈ layers
  isOptional : c.isOptional = false ↔ .nonNull ∈ layers

namespace Describes

variable {c c' : Classified} {type : Named} {layers : List Layer}

theorem mem_outputKinds (h : c.Describes type layers) : type.kind ∈ outputKinds := by
  have hkind := h.kind
  revert hkind
  cases c.shape <;> simp +contextual [Shape.kinds, outputKinds]

theorem scalarKind?_eq (h : c.Describes type layers) (h' : c'.Describes type layers) :
    c.scalarKind? = c'.scalarKind? := by
  ext kind
  cases hbuiltin : kind.builtin? with
  | some name => rw [h.builtin kind name hbuiltin, h'.builtin kind name hbuiltin]
  | none =>
    have hcustom : kind = .custom := by
      cases kind with
      | custom => rfl
      | _ => cases hbuiltin
    rw [hcustom, h.custom, h'.custom]

theorem shape_eq (h : c.Describes type layers) (h' : c'.Describes type layers) :
    c.shape = c'.shape := by
  have hscalar := h.scalarKind?_eq h'
  -- The kind of the type tells all shapes apart but those of scalars.
  have hkind := h.kind
  have hkind' := h'.kind
  cases hshape : c.shape <;> cases hshape' : c'.shape <;>
    simp_all [scalarKind?, Shape.kinds]

theorem unique (h : c.Describes type layers) (h' : c'.Describes type layers) : c = c' := by
  have htype : c.typeName = c'.typeName := h.typeName.trans h'.typeName.symm
  have hlist : c.isList = c'.isList := Bool.eq_iff_iff.mpr (h.isList.trans h'.isList.symm)
  have hoptional : c.isOptional = c'.isOptional := by
    apply Bool.eq_iff_iff.mpr
    simpa using not_congr (h.isOptional.trans h'.isOptional.symm)
  have hshape := h.shape_eq h'
  cases c
  cases c'
  rw [Classified.mk.injEq]
  exact ⟨htype, hshape, hoptional, hlist⟩

end Describes

end Classified

namespace Named

variable {type : Named} {shape : Shape}

theorem kind_mem_kinds (h : type.shape? = some shape) : type.kind ∈ shape.kinds := by
  rw [shape?] at h
  cases hkind : type.kind <;> rw [hkind] at h <;> cases h <;> simp [Shape.kinds]

theorem shape?_eq_scalar_iff (type : Named) (kind : ScalarKind) :
    type.shape? = some (.scalar kind) ↔ type.kind = .scalar ∧ ScalarKind.ofName type.name = kind := by
  cases hkind : type.kind <;> simp [shape?, hkind]

end Named

theorem classify_within_eq (type : Named) (layers : List Layer) :
    classify (type.within layers) =
      match type.shape? with
      | some shape => .ok ⟨type.name, shape, decide (.nonNull ∉ layers), decide (.list ∈ layers)⟩
      | none => .error ⟨type⟩ := by
  rw [classify, classifyFrom_eq, type.leaf_within, type.hasMark_within, type.hasList_within]
  cases type.shape? <;> simp

theorem describes_of_shape? {type : Named} {shape : Shape} (h : type.shape? = some shape)
    (layers : List Layer) :
    Classified.Describes ⟨type.name, shape, decide (.nonNull ∉ layers), decide (.list ∈ layers)⟩
      type layers := by
  set c : Classified := ⟨type.name, shape, decide (.nonNull ∉ layers), decide (.list ∈ layers)⟩
  have hkind (kind : ScalarKind) :
      c.scalarKind? = some kind ↔ type.kind = .scalar ∧ ScalarKind.ofName type.name = kind := by
    rw [c.scalarKind?_eq_some_iff, ← type.shape?_eq_scalar_iff, h, Option.some_inj]
  constructor
  · rfl
  · exact Named.kind_mem_kinds h
  · simp [Option.isSome_iff_exists, hkind]
  · rw [hkind, ScalarKind.ofName_eq_custom_iff]
  · intro kind name hname
    rw [hkind, ScalarKind.ofName_eq_iff hname]
  · exact decide_eq_true_iff
  · simp [c]

/-- There is a classification of a type in layers just if fields can be of the type, and it is the one
that describes the type and its layers. -/
theorem classify_within (type : Named) (layers : List Layer) :
    (classify (type.within layers) = .error ⟨type⟩ ↔ type.kind ∉ outputKinds) ∧
      ((∃ c, classify (type.within layers) = .ok c) ↔ type.kind ∈ outputKinds) ∧
      ∀ c, classify (type.within layers) = .ok c ↔ c.Describes type layers := by
  rw [classify_within_eq]
  have hkind := mem_outputKinds_iff type
  cases hshape : type.shape? with
  | none =>
    have hnot : type.kind ∉ outputKinds := by simp [hkind, hshape]
    have hnone (c : Classified) : ¬ c.Describes type layers := fun h => hnot h.mem_outputKinds
    simp [hnot, hnone]
  | some shape =>
    have houtput : type.kind ∈ outputKinds := by simp [hkind, hshape]
    have hdescribes := describes_of_shape? hshape layers
    refine ⟨by simp [houtput], iff_of_true ⟨_, rfl⟩ houtput, fun c => ?_⟩
    constructor
    · rintro ⟨⟩
      exact hdescribes
    · intro hc
      exact congrArg Except.ok (hdescribes.unique hc)

example : classify (Named.within ⟨"Float", .scalar⟩ [.list, .nonNull]) =
    .ok ⟨"Float", .scalar .float, false, true⟩ := rfl

theorem classify_within_congr (type : Named) {layers layers' : List Layer}
    (h : ∀ layer, layer ∈ layers ↔ layer ∈ layers') :
    classify (type.within layers) = classify (type.within layers') := by
  rw [classify_within_eq, classify_within_eq]
  simp only [h]

end RealmModels.GraphQL
