import Mathlib
import RealmModels.Proofs.Model.Memberwise
import RealmModels.Proofs.Model.Namespace

/-!
The settings on scalars of a schema's own reach its source in lists of such scalars only. What they
are called elsewhere is worked out as well, but it is not printed.
-/

namespace RealmModels

/-- Settings that differ in nothing but these. -/
def Settings.AgreeBut (omitted : List Setting) (a b : Settings) : Prop :=
  ∀ setting ∉ omitted, a.value setting = b.value setting

namespace Swift.TypeNaming

open GraphQL

variable {n n' : TypeNaming} {t : TypeRef}

theorem root_of_caught {c : Classified} (n n' : TypeNaming) (h : c.isUncaught = false) :
    n.root c = n'.root c := by
  rw [root, root]
  cases hshape : c.shape with
  | scalar kind =>
    cases kind with
    | custom => simp [Classified.isUncaught, hshape] at h
    | _ => rfl
  | _ => rfl

theorem root_of_not_passthrough (hn : n.passthrough = false) (hn' : n'.passthrough = false)
    (c : Classified) : n.root c = n'.root c := by
  rw [root, root, hn, hn']
  rfl

theorem rootOf_congr (h : n.root t.classified = n'.root t.classified) : n.rootOf t = n'.rootOf t := by
  by_cases hout : t.IsOutput
  · simp only [rootOf, classify_of_isOutput hout, h]
  · simp only [rootOf, classify_of_not_isOutput hout]

theorem full_congr (h : n.root t.classified = n'.root t.classified) (isOptional : Bool) :
    n.full isOptional t = n'.full isOptional t := by
  induction t generalizing isOptional with
  | named type => rw [full, full, rootOf_congr h]
  | list item ih => rw [full, full, ih h]
  | nonNull inner ih => exact ih h false

theorem names_congr (h : n.root t.classified = n'.root t.classified) : n.Names t ↔ n'.Names t := by
  rw [← rootOf_isOk_iff, ← rootOf_isOk_iff, rootOf_congr h]

end Swift.TypeNaming

namespace Model

open GraphQL Swift Writing

def AlikeFor (n n' : TypeNaming) (t : TypeRef) : Prop :=
  isStored t.classified = true → n.root t.classified = n'.root t.classified

variable {style : Style} {n : TypeNaming}

theorem propertyLines_congr {n n' : TypeNaming} {t : TypeRef} (h : AlikeFor n n' t) (name : String) :
    propertyLines n t name = propertyLines n' t name := by
  cases hstored : isStored t.classified with
  | true =>
    have hroot : n.rootName t = n'.rootName t := by
      rw [TypeNaming.rootName, TypeNaming.rootOf_congr (h hstored), TypeNaming.rootName]
    rw [propertyLines, propertyLines, hroot]
  | false =>
    rw [propertyLines_of_not_isStored n name hstored, propertyLines_of_not_isStored n' name hstored]

theorem parameterOf_congr {n n' : TypeNaming} {x : Field × String}
    (h : n.root x.1.type.classified = n'.root x.1.type.classified) :
    parameterOf n x = parameterOf n' x := by
  rw [parameterOf, parameterOf, TypeNaming.fullName, TypeNaming.full_congr h, TypeNaming.fullName]

theorem initializerLines_congr {xs : List (Field × String)}
    (h : ∀ x ∈ xs, AlikeFor style.typeNaming n x.1.type) :
    initializerLines { style with typeNaming := n } xs = initializerLines style xs := by
  have hparameters : (storedFields xs).map (parameterOf n) =
      (storedFields xs).map (parameterOf style.typeNaming) := by
    refine List.map_congr_left fun x hx => ?_
    obtain ⟨hmem, hstored⟩ := List.mem_filter.mp hx
    exact (parameterOf_congr (h x hmem hstored)).symm
  rw [initializerLines, initializerLines, memberwiseLines_eq, memberwiseLines_eq, hparameters]
  rfl

theorem classLines_congr {fs : List Field} (h : ∀ f ∈ fs, AlikeFor style.typeNaming n f.type)
    (name : String) :
    classLines { style with typeNaming := n } name fs = classLines style name fs := by
  have hnamed : ∀ x ∈ namedFields fs, AlikeFor style.typeNaming n x.1.type :=
    fun x hx => h x.1 (mem_of_mem_namedFields hx)
  have hfields : ((namedFields fs).flatMap fun x =>
      fieldLines { style with typeNaming := n } x.1 x.2) =
      (namedFields fs).flatMap fun x => fieldLines style x.1 x.2 := by
    refine List.flatMap_congr fun x hx => ?_
    rw [fieldLines, fieldLines, propertyLines_congr (hnamed x hx)]
    rfl
  rw [classLines, classLines, bodyLines, bodyLines, hfields, initializerLines_congr hnamed]

theorem classesLines_congr {ms : List ObjectType}
    (h : ∀ m ∈ ms, ∀ f ∈ m.fields, AlikeFor style.typeNaming n f.type) (isFirst : Bool) :
    classesLines { style with typeNaming := n } isFirst ms = classesLines style isFirst ms := by
  induction ms generalizing isFirst with
  | nil => rfl
  | cons m ms ih =>
    obtain ⟨hm, hms⟩ := List.forall_mem_cons.mp h
    rw [classesLines, classesLines, classLines_congr hm, ih hms]

variable {s : Schema} {w w' : Session}

theorem sourceLines_congr (h : ∀ m ∈ s.models, ∀ f ∈ m.fields, AlikeFor style.typeNaming n f.type) :
    sourceLines { style with typeNaming := n } s = sourceLines style s := by
  simp only [sourceLines, modelLines, classesLines_congr h]

theorem textFrom_source_congr
    (h : ∀ m ∈ s.models, ∀ f ∈ m.fields, AlikeFor style.typeNaming n f.type)
    (hnames : ∀ m ∈ s.models, ∀ f ∈ m.fields, style.typeNaming.Names f.type ↔ n.Names f.type)
    (hw : w.printer.indent = w'.printer.indent) :
    textFrom (source { style with typeNaming := n } s) w' = textFrom (source style s) w := by
  have hcan (m : ObjectType) (hm : m ∈ s.models) (scopes : List Frame) :
      CanDeclare { style with typeNaming := n } scopes (namedFields m.fields) ↔
        CanDeclare style scopes (namedFields m.fields) := by
    refine forall₂_congr fun x hx => and_congr_left' ?_
    have hfield := hnames m hm x.1 (mem_of_mem_namedFields hx)
    exact ⟨fun hx => ⟨hfield.mpr hx.type, hx.description, hx.reason⟩,
      fun hx => ⟨hfield.mp hx.type, hx.description, hx.reason⟩⟩
  ext code
  rw [textFrom_source_iff rfl, textFrom_source_iff hw, sourceLines_congr h,
    forall₂_congr fun m hm => hcan m hm _]

theorem isUncaught_of_isStored {t : TypeRef} (hstored : isStored t.classified = true)
    (hlist : t.hasList = true → t.classified.isUncaught = false) : t.classified.isUncaught = false := by
  by_contra huncaught
  have huncaught := Bool.eq_true_of_not_eq_false huncaught
  have halone : isUncaughtAlone t = false := by rw [isUncaughtAlone_eq, hstored]; rfl
  rw [isUncaughtAlone, huncaught, Bool.true_and, Bool.not_eq_false'] at halone
  exact absurd (hlist halone) (by rw [huncaught]; decide)

def HasNoCustomLists (s : Schema) : Prop :=
  ∀ m ∈ s.models, ∀ f ∈ m.fields, f.type.hasList = true → f.type.classified.isUncaught = false

instance (s : Schema) : Decidable (HasNoCustomLists s) := inferInstanceAs (Decidable (∀ _ ∈ _, _))

theorem HasNoCustomLists.alike (h : HasNoCustomLists s) (n n' : TypeNaming) :
    ∀ m ∈ s.models, ∀ f ∈ m.fields, AlikeFor n n' f.type :=
  fun m hm f hf hstored =>
    TypeNaming.root_of_caught n n' (isUncaught_of_isStored hstored (h m hm f hf))

variable {a b : Settings}

theorem style_of_agreeBut (h : a.AgreeBut [.passthrough, .customPrefix] b) :
    b.style = { a.style with typeNaming := b.typeNaming } := by
  have hon (setting : Setting) (hsetting : setting ∉ [.passthrough, .customPrefix]) :
      b.isOn setting = a.isOn setting := by
    rw [Settings.isOn, ← h setting hsetting, Settings.isOn]
  simp only [Settings.style, Settings.scope, Settings.text?, hon, ← h _,
    List.mem_cons, reduceCtorEq, List.not_mem_nil, or_self, not_false_eq_true]

/-- The settings on scalars of a schema's own have no hidden effect. The prefix has none unless those
are passed through, and neither setting has any if no model has a list of them, so long as the prefix
is a text: with any other value the source may not be written, but never in other words. -/
theorem custom_scalars_change_lists_only (hagree : a.AgreeBut [.passthrough, .customPrefix] b)
    (hw : w.printer.indent = w'.printer.indent) :
    (a.isOn .passthrough = false → b.isOn .passthrough = false →
      textFrom (source a.style s) w = textFrom (source b.style s) w') ∧
    (HasNoCustomLists s →
      ((a.text? .customPrefix).isSome = true → (b.text? .customPrefix).isSome = true →
        textFrom (source a.style s) w = textFrom (source b.style s) w') ∧
      ∀ code code', textFrom (source a.style s) w = some code →
        textFrom (source b.style s) w' = some code' → code = code') ∧
    (Fitting a.style w.printer.indent s → (textFrom (source a.style s) w).isSome = true) := by
  rw [style_of_agreeBut hagree]
  refine ⟨?_, ?_, ?_⟩
  · intro ha hb
    have hroot (c : Classified) : a.style.typeNaming.root c = b.typeNaming.root c :=
      TypeNaming.root_of_not_passthrough ha hb c
    exact (textFrom_source_congr (fun m _ f _ _ => hroot _)
      (fun m _ f _ => TypeNaming.names_congr (hroot _)) hw).symm
  · intro hlists
    have halike := hlists.alike a.style.typeNaming b.typeNaming
    constructor
    · intro ha hb
      refine (textFrom_source_congr halike (fun m _ f _ => and_congr_right' ?_) hw).symm
      exact ⟨fun _ _ _ => hb, fun _ _ _ => ha⟩
    · intro code code' hcode hcode'
      obtain ⟨-, rfl⟩ := (textFrom_source_iff hw code).mp hcode
      obtain ⟨-, rfl⟩ := (textFrom_source_iff rfl code').mp hcode'
      rw [sourceLines_congr halike]
  · intro hfits
    obtain ⟨code, t, hcode⟩ := hfits.source rfl
    rw [textFrom, hcode]
    rfl

theorem people_custom_scalars_change_nothing :
    HasNoCustomLists people ∧
      ∃ code, textFrom (source Settings.default.style people) Settings.default.session = some code ∧
        textFrom (source ((Settings.default.set .passthrough (.bool true)).set .customPrefix
          (.str "API")).style people) Settings.default.session = some code := by
  have hlists : HasNoCustomLists people := by decide
  have hagree : Settings.default.AgreeBut [.passthrough, .customPrefix]
      ((Settings.default.set .passthrough (.bool true)).set .customPrefix (.str "API")) := by
    intro setting hsetting
    simp only [List.mem_cons, List.not_mem_nil, or_false, not_or] at hsetting
    simp only [Settings.set, hsetting, ↓reduceIte]
  have hw : Settings.default.session.printer.indent = Settings.default.session.printer.indent := rfl
  obtain ⟨-, hsame, hwritten⟩ := custom_scalars_change_lists_only (s := people) hagree hw
  obtain ⟨code, hcode⟩ := Option.isSome_iff_exists.mp (hwritten fitting_people)
  refine ⟨hlists, code, hcode, ?_⟩
  rw [← (hsame hlists).1 rfl rfl, hcode]

end Model

end RealmModels
