import Mathlib
import RealmModels.Proofs.Model.Fitting
import RealmModels.Proofs.Model.Inventory
import RealmModels.Report

/-!
What warnings and events tell about the fields of a schema, and how often the lines of its classes
declare a property.
-/

namespace RealmModels

open GraphQL

def Warning.site? : Warning → Option (String × String)
  | uncaughtScalar type field _ | abstractType type field _ => some (type, field)
  | _ => none

def Warning.uncaught? : Warning → Option (String × String × String)
  | uncaughtScalar type field scalar => some (type, field, scalar)
  | _ => none

def Log.Event.uncaught? : Log.Event → Option (String × String)
  | uncaught scalar field => some (scalar, field)
  | _ => none

namespace Model

open Swift Writing

theorem fieldWarning?_eq (type field : String) (t : TypeRef) :
    fieldWarning? type field t.classified =
      if isStored t.classified then none
      else if isUncaughtAlone t then some (.uncaughtScalar type field t.leaf.name)
      else some (.abstractType type field t.leaf.name) := by
  have hlist : t.classified.isList = t.hasList := rfl
  have hname : t.classified.typeName = t.leaf.name := rfl
  rw [fieldWarning?, isUncaughtAlone, isStored, ← hlist, ← hname]
  cases hl : t.classified.isList with
  | true => simp
  | false =>
    cases hs : t.classified.shape with
    | scalar kind => cases kind <;> simp [Classified.isUncaught, hs]
    | _ => simp [Classified.isUncaught, hs]

def warningsOn (m : ObjectType) : List Warning :=
  (if m.fields.isEmpty then [.noFields m.name] else []) ++
    m.fields.flatMap fun f => (fieldWarning? m.name f.name f.type.classified).toList

theorem fieldWarnings_eq_ok_iff (type : String) (f : Field) (ws : List Warning) :
    fieldWarnings type f = .ok ws ↔
      f.type.IsOutput ∧ ws = (fieldWarning? type f.name f.type.classified).toList := by
  rw [fieldWarnings]
  by_cases h : f.type.IsOutput
  · simp [classify_of_isOutput h, h, eq_comm]
  · simp [classify_of_not_isOutput h, h]

theorem modelWarnings_eq_ok_iff (m : ObjectType) (ws : List Warning) :
    modelWarnings m = .ok ws ↔ (∀ f ∈ m.fields, f.type.IsOutput) ∧ ws = warningsOn m :=
  map_eq_ok_iff (mapM_eq_ok_iff m.fields (fieldWarnings_eq_ok_iff m.name))
    (fun wss => (if m.fields.isEmpty then [Warning.noFields m.name] else []) ++ wss.flatten) ws

theorem schemaWarnings_eq_ok_iff (s : Schema) (ws : List Warning) :
    schemaWarnings s = .ok ws ↔
      (∀ m ∈ s.models, ∀ f ∈ m.fields, f.type.IsOutput) ∧ ws = s.models.flatMap warningsOn :=
  map_eq_ok_iff (mapM_eq_ok_iff s.models modelWarnings_eq_ok_iff) List.flatten ws

theorem filterMap_warningsOn {α : Type} {g : Warning → Option α} (hg : ∀ type, g (.noFields type) = none)
    (m : ObjectType) :
    (warningsOn m).filterMap g = m.fields.flatMap fun f =>
      (fieldWarning? m.name f.name f.type.classified).toList.filterMap g := by
  have hempty : (if m.fields.isEmpty then [Warning.noFields m.name] else []).filterMap g = [] := by
    split
    · exact List.filterMap_eq_nil_iff.mpr (List.forall_mem_singleton.mpr (hg _))
    · rfl
  rw [warningsOn, List.filterMap_append, hempty, List.nil_append, List.filterMap_flatMap]

theorem filterMap_site?_warningsOn (m : ObjectType) :
    (warningsOn m).filterMap Warning.site? =
      (m.fields.filter fun f => !isStored f.type.classified).map fun f => (m.name, f.name) := by
  rw [filterMap_warningsOn (fun _ => rfl), ← flatMap_if]
  refine List.flatMap_congr fun f _ => ?_
  rw [fieldWarning?_eq]
  cases isStored f.type.classified <;> cases isUncaughtAlone f.type <;> rfl

theorem filterMap_uncaught?_warningsOn (m : ObjectType) :
    (warningsOn m).filterMap Warning.uncaught? =
      (m.fields.filter fun f => isUncaughtAlone f.type).map fun f =>
        (m.name, f.name, f.type.leaf.name) := by
  rw [filterMap_warningsOn (fun _ => rfl), ← flatMap_if]
  refine List.flatMap_congr fun f _ => ?_
  rw [fieldWarning?_eq, isUncaughtAlone_eq]
  cases isStored f.type.classified <;> cases f.type.classified.isUncaught <;> rfl

theorem filterMap_uncaught?_fieldEvents (scopes : List Frame) (f : Field) (name : String) :
    (fieldEvents scopes f name).filterMap Log.Event.uncaught? =
      if isUncaughtAlone f.type then [(f.type.leaf.name, f.name)] else [] := by
  have hrenaming : (renamingEvents scopes f name).filterMap Log.Event.uncaught? = [] := by
    rw [renamingEvents]
    split <;> rfl
  rw [fieldEvents, List.filterMap_append, hrenaming, uncaughtEvents]
  split <;> rfl

theorem filterMap_uncaught?_classEvents (scopes : List Frame) (name : String) (fs : List Field) :
    (classEvents scopes name fs).filterMap Log.Event.uncaught? =
      (fs.filter fun f => isUncaughtAlone f.type).map fun f => (f.type.leaf.name, f.name) := by
  have hfields : fs = (namedFields fs).map Prod.fst := (nameFields_fst fs .empty).symm
  have hgenerating : Log.Event.uncaught? (.generating name) = none := rfl
  rw [classEvents, List.filterMap_cons, hgenerating, List.filterMap_flatMap, ← flatMap_if]
  conv_rhs => rewrite [hfields, List.flatMap_map]
  exact List.flatMap_congr fun x _ => filterMap_uncaught?_fieldEvents _ x.1 x.2

theorem filterMap_typeEvents {α : Type} {g : Log.Event → Option α}
    (hg : ∀ type, g (.skipped type) = none) (scopes : List Frame) (ts : List TypeDef) :
    (ts.flatMap (typeEvents scopes)).filterMap g =
      (ts.filterMap TypeDef.model?).flatMap fun m =>
        (classEvents scopes m.name m.fields).filterMap g := by
  induction ts with
  | nil => rfl
  | cons t ts ih =>
    rw [List.flatMap_cons, List.filterMap_append, ih, List.filterMap_cons, typeEvents]
    cases t.model? with
    | none =>
      dsimp only
      rw [List.filterMap_cons, hg]
      rfl
    | some m => rw [List.flatMap_cons]

theorem filterMap_sourceEvents {α : Type} {g : Log.Event → Option α}
    (hg : ∀ type, g (.skipped type) = none) (style : Style) (s : Schema) :
    (sourceEvents style s).filterMap g = s.models.flatMap fun m =>
      (classEvents style.scope.toList m.name m.fields).filterMap g := by
  rw [sourceEvents]
  split
  · next hempty =>
    rw [List.isEmpty_iff.mp hempty]
    rfl
  · exact filterMap_typeEvents hg _ s.types

theorem filterMap_uncaught?_sourceEvents (style : Style) (s : Schema) :
    (sourceEvents style s).filterMap Log.Event.uncaught? =
      s.models.flatMap fun m => (m.fields.filter fun f => isUncaughtAlone f.type).map fun f =>
        (f.type.leaf.name, f.name) := by
  rw [filterMap_sourceEvents fun _ => rfl]
  exact List.flatMap_congr fun m _ => filterMap_uncaught?_classEvents _ m.name m.fields

theorem count_map_filter {α β : Type} [BEq β] [LawfulBEq β] {f : α → β} {as : List α}
    (h : (as.map f).Nodup) (q : α → Bool) {a : α} (ha : a ∈ as) :
    ((as.filter q).map f).count (f a) = if q a then 1 else 0 := by
  have hnodup : ((as.filter q).map f).Nodup := h.sublist (List.filter_sublist.map f)
  split
  · next hq =>
    exact List.count_eq_one_of_mem hnodup (List.mem_map_of_mem (List.mem_filter.mpr ⟨ha, hq⟩))
  · next hq =>
    refine List.count_eq_zero_of_not_mem fun hmem => ?_
    obtain ⟨b, hb, hab⟩ := List.mem_map.mp hmem
    obtain ⟨hb, hqb⟩ := List.mem_filter.mp hb
    rw [List.inj_on_of_nodup_map h hb ha hab] at hqb
    exact hq hqb

theorem classLines_in_classes {style : Style} {m : ObjectType} {ms : List ObjectType} (isFirst : Bool)
    (h : m ∈ ms) : classLines style m.name m.fields <:+: classesLines style isFirst ms := by
  induction ms generalizing isFirst with
  | nil => exact absurd h List.not_mem_nil
  | cons m' ms ih =>
    rw [classesLines]
    rcases List.mem_cons.mp h with rfl | hms
    · exact List.infix_append _ _ _
    · exact (ih false hms).trans (List.suffix_append _ _).isInfix

theorem classLines_in_source (style : Style) {s : Schema} {m : ObjectType}
    (h : m ∈ s.models) :
    (classLines style m.name m.fields).map Line.deeper^[style.scope.toList.length] <:+:
      sourceLines style s := by
  have hmodels : s.models.isEmpty = false := List.isEmpty_eq_false_iff_exists_mem.mpr ⟨m, h⟩
  rw [sourceLines, hmodels, modelLines]
  refine List.IsInfix.trans ?_ (List.suffix_append _ _).isInfix
  cases style.scope with
  | none =>
    change (classLines style m.name m.fields).map id <:+: _
    rw [List.map_id]
    exact classLines_in_classes false h
  | some frame =>
    change (classLines style m.name m.fields).map Line.deeper <:+:
      (Line.blank :: docLines (namespaceHeader frame).description) ++ (_ :: (_ ++ _))
    refine ((classLines_in_classes true h).map Line.deeper).trans ?_
    exact (List.infix_append [_] _ _).trans (List.suffix_append _ _).isInfix

def declarations (ls : List String) (name : String) : ℕ := (ls.filterMap declaredName?).count name

def warningsAbout (ws : List Warning) (type field : String) : ℕ :=
  (ws.filterMap Warning.site?).count (type, field)

theorem declarations_eq (style : Style) {m : ObjectType} (hfields : (m.fields.map Field.name).Nodup)
    {x : Field × String} (hx : x ∈ namedFields m.fields) :
    declarations ((bodyLines style (namedFields m.fields)).map Line.text) x.2 =
      if isStored x.1.type.classified then 1 else 0 := by
  have hnames : ((namedFields m.fields).map Prod.snd).Nodup := by
    refine List.Nodup.of_map unquoted ?_
    rw [List.map_map]
    exact nodup_unquoted_namedFields hfields
  have hscan : ((bodyLines style (namedFields m.fields)).map Line.text).filterMap declaredName? =
      ((namedFields m.fields).filter fun x => isStored x.1.type.classified).map Prod.snd := by
    rw [List.filterMap_map]
    exact scan_declaredName?_bodyLines style m.fields
  rw [declarations, hscan]
  exact count_map_filter hnames (fun x => isStored x.1.type.classified) hx

theorem warningsAbout_eq {s : Schema} (hkeyed : s.Keyed) {m : ObjectType} (hm : m ∈ s.models)
    {f : Field} (hf : f ∈ m.fields) :
    warningsAbout (s.models.flatMap warningsOn) m.name f.name =
      if !isStored f.type.classified then 1 else 0 := by
  have hmem : (m, f) ∈ s.modelFields :=
    List.mem_flatMap.mpr ⟨m, hm, List.mem_map_of_mem hf⟩
  have hsites : (s.models.flatMap warningsOn).filterMap Warning.site? =
      (s.modelFields.filter fun x => !isStored x.2.type.classified).map
        fun x => (x.1.name, x.2.name) := by
    rw [List.filterMap_flatMap]
    exact s.flatMap_models filterMap_site?_warningsOn
  rw [warningsAbout, hsites]
  exact count_map_filter hkeyed.modelFields (fun x => !isStored x.2.type.classified) hmem

theorem filterMap_uncaught?_warnings (s : Schema) :
    (s.models.flatMap warningsOn).filterMap Warning.uncaught? =
      (s.modelFields.filter fun x => isUncaughtAlone x.2.type).map fun x =>
        (x.1.name, x.2.name, x.2.type.leaf.name) := by
  rw [List.filterMap_flatMap]
  exact s.flatMap_models filterMap_uncaught?_warningsOn

end Model

end RealmModels
