import Mathlib
import RealmModels.Proofs.Model.PropertyNames
import RealmModels.Proofs.Model.TellingLines

namespace RealmModels.Model

open GraphQL Swift Writing

theorem isUncaughtAlone_eq (t : TypeRef) :
    isUncaughtAlone t = (!isStored t.classified && t.classified.isUncaught) := by
  have hlist : t.classified.isList = t.hasList := rfl
  rw [isUncaughtAlone, ← hlist, isStored]
  cases t.classified.isList with
  | true => simp
  | false => cases t.classified.shape <;> simp [Classified.isUncaught]

theorem isStored_of_isPrimaryKey {c : Classified} (h : isPrimaryKey c = true) :
    isStored c = true := by
  obtain ⟨hlist, hshape⟩ := Bool.and_eq_true_iff.mp h
  have hid : c.shape = .scalar .id := eq_of_beq hshape
  rw [isStored, Classified.isUncaught, hid, Bool.or_eq_true]
  exact .inr rfl

section

variable (naming : TypeNaming) {t : TypeRef} (name : String)

theorem propertyLines_of_isStored (h : isStored t.classified = true) :
    ∃ declared ls, propertyLines naming t name = ⟨0, declared⟩ :: ls ∧
      IsDeclaration name declared ∧ AllQuiet ls := by
  obtain ⟨declared, hline, hdeclared⟩ := isDeclaration_of_isStored name (naming.rootName t) h
  refine ⟨declared, if isPrimaryKey t.classified then keyLines name else [], ?_, hdeclared, ?_⟩
  · simp only [propertyLines, hline]
  · split
    · exact allQuiet_keyLines name
    · exact List.forall_mem_nil _

theorem propertyLines_of_not_isStored (h : isStored t.classified = false) :
    propertyLines naming t name =
      if isUncaughtAlone t then [⟨0, "UNCAUGHT SCALAR " ++ t.leaf.name⟩] else [] := by
  have hline := propertyLine?_of_not_isStored name (naming.rootName t) h
  have hkey : isPrimaryKey t.classified = false := by
    by_contra hkey
    exact absurd (isStored_of_isPrimaryKey ((Bool.not_eq_false _).mp hkey)) (by rw [h]; decide)
  rw [isUncaughtAlone_eq, h, propertyLines, hline]
  cases hu : t.classified.isUncaught with
  | true => simp only [↓reduceIte, hkey, Bool.not_false, Bool.and_self]; rfl
  | false => rfl

theorem scan_propertyLines {α : Type} {g : String → Option α}
    (hg : ∀ text, IsQuiet text → g text = none) {declared marked : Option α}
    (hdeclared : ∀ text, IsDeclaration name text → g text = declared)
    (hmarked : g ("UNCAUGHT SCALAR " ++ t.leaf.name) = marked) :
    Line.scan g (propertyLines naming t name) =
      if isStored t.classified then declared.toList
      else if isUncaughtAlone t then marked.toList else [] := by
  cases h : isStored t.classified with
  | true =>
    obtain ⟨text, ls, hlines, htext, hls⟩ := propertyLines_of_isStored naming name h
    have hquiet : Line.scan g ls = [] := Line.scan_eq_nil fun l hl => hg _ (hls l hl)
    rw [hlines, Line.scan_cons, hquiet, hdeclared text htext, List.append_nil, if_pos rfl]
  | false =>
    rw [propertyLines_of_not_isStored naming name h, if_neg Bool.false_ne_true]
    split
    · rw [Line.scan_cons, hmarked]
      exact List.append_nil _
    · rfl

theorem scan_declaredName?_propertyLines (hname : ∀ c ∈ name.toList, isInName c = true) :
    Line.scan declaredName? (propertyLines naming t name) =
      if isStored t.classified then [name] else [] := by
  have hmarked : declaredName? ("UNCAUGHT SCALAR " ++ t.leaf.name) = none :=
    declaredName?_of_apart (by decide) (by decide) _
  rw [scan_propertyLines naming name (fun _ h => h.declaredName?)
    (fun _ h => h.declaredName? hname) hmarked]
  simp only [Option.toList_some, Option.toList_none, ite_self]

theorem scan_uncaughtScalar?_propertyLines :
    Line.scan uncaughtScalar? (propertyLines naming t name) =
      if isUncaughtAlone t then [t.leaf.name] else [] := by
  have hmarked : uncaughtScalar? ("UNCAUGHT SCALAR " ++ t.leaf.name) = some t.leaf.name :=
    after?_append _ _
  rw [scan_propertyLines naming name (fun _ h => h.uncaughtScalar?)
    (fun _ h => h.uncaughtScalar?) hmarked, isUncaughtAlone_eq]
  cases isStored t.classified <;> rfl

theorem scan_openedClass?_propertyLines :
    Line.scan openedClass? (propertyLines naming t name) = [] := by
  have hmarked : openedClass? ("UNCAUGHT SCALAR " ++ t.leaf.name) = none :=
    after?_of_apart (by decide) _
  rw [scan_propertyLines naming name (fun _ h => h.openedClass?) (fun _ h => h.openedClass?)
    hmarked]
  simp only [Option.toList_none, ite_self]

end

theorem flatMap_if {α β : Type} (q : α → Bool) (f : α → β) (as : List α) :
    (as.flatMap fun a => if q a then [f a] else []) = (as.filter q).map f := by
  induction as with
  | nil => rfl
  | cons a as ih => cases h : q a <;> simp [h, ih]

section

variable {α : Type} {g : String → Option α} (hg : ∀ text, IsQuiet text → g text = none)
include hg

theorem scan_of_allQuiet {ls : List Line} (h : AllQuiet ls) : Line.scan g ls = [] :=
  Line.scan_eq_nil fun l hl => hg _ (h l hl)

theorem scan_bodyLines (style : Style) (xs : List (Field × String)) :
    Line.scan g (bodyLines style xs) =
      xs.flatMap fun x => Line.scan g (propertyLines style.typeNaming x.1.type x.2) := by
  have hinitializers : AllQuiet (if style.initializers then initializerLines style xs else []) := by
    split
    · exact allQuiet_initializerLines style xs
    · exact List.forall_mem_nil _
  rw [bodyLines, Line.scan_append, scan_of_allQuiet hg hinitializers, List.append_nil,
    Line.scan_flatMap]
  refine congrArg (xs.flatMap ·) (funext fun x => ?_)
  rw [fieldLines, Line.scan_append, scan_of_allQuiet hg (allQuiet_markLines style x.1),
    List.nil_append]

theorem scan_classLines (style : Style) (name : String) (fs : List Field) :
    Line.scan g (classLines style name fs) = (g (classHeader name ++ " \x7b")).toList ++
      (namedFields fs).flatMap fun x =>
        Line.scan g (propertyLines style.typeNaming x.1.type x.2) := by
  rw [classLines, scan_bracedLines (hg _ (by decide)), scan_bodyLines hg]

theorem scan_classesLines (style : Style) (isFirst : Bool) (ms : List ObjectType) :
    Line.scan g (classesLines style isFirst ms) =
      ms.flatMap fun m => Line.scan g (classLines style m.name m.fields) := by
  induction ms generalizing isFirst with
  | nil => rfl
  | cons m ms ih =>
    have hblank : Line.scan g (if isFirst then [] else [.blank]) = [] := by
      split
      · rfl
      · exact scan_of_allQuiet hg (List.forall_mem_singleton.mpr (by decide))
    rw [classesLines, Line.scan_append, Line.scan_append, hblank, ih, List.flatMap_cons,
      List.nil_append]

theorem scan_sourceLines {style : Style}
    (hscope : ∀ frame ∈ style.scope, IsQuiet (declarationHeader frame (namespaceHeader frame) ++ " \x7b"))
    (s : Schema) :
    Line.scan g (sourceLines style s) =
      s.models.flatMap fun m => Line.scan g (classLines style m.name m.fields) := by
  have hmodels : Line.scan g (modelLines style s.models) =
      s.models.flatMap fun m => Line.scan g (classLines style m.name m.fields) := by
    rw [modelLines]
    cases h : style.scope with
    | none => exact scan_classesLines hg style false s.models
    | some frame =>
      dsimp only
      rw [Line.scan_append, scan_bracedLines (hg _ (by decide)), hg _ (hscope frame h),
        scan_of_allQuiet hg (AllQuiet.blank (allQuiet_docLines _)), scan_classesLines hg]
      rfl
  rw [sourceLines, Line.scan_append, scan_of_allQuiet hg allQuiet_headLines, List.nil_append]
  split
  · next hempty =>
    rw [List.isEmpty_iff.mp hempty]
    rfl
  · exact hmodels

end

theorem isInName_namedFields {fs : List Field} {x : Field × String} (h : x ∈ namedFields fs) :
    ∀ c ∈ x.2.toList, isInName c = true := by
  have hspelled := (distinct_nameFields fs).spelled _ (mem_given_nameFields h)
  exact isInName_of_spelled hspelled

theorem classHeader_brace (name : String) :
    classHeader name ++ " \x7b" = "public final class " ++ (name ++ ": Object \x7b") := by
  have hobject : ": Object" ++ " \x7b" = ": Object \x7b" := by decide
  unfold classHeader
  rewrite [String.append_assoc, String.append_assoc, hobject]
  rfl

theorem scan_declaredName?_bodyLines (style : Style) (fs : List Field) :
    Line.scan declaredName? (bodyLines style (namedFields fs)) =
      ((namedFields fs).filter fun x => isStored x.1.type.classified).map Prod.snd := by
  rw [scan_bodyLines (fun _ h => h.declaredName?), ← flatMap_if]
  exact List.flatMap_congr fun x hx =>
    scan_declaredName?_propertyLines style.typeNaming x.2 (isInName_namedFields hx)

theorem scan_declaredName?_classLines (style : Style) (name : String) (fs : List Field) :
    Line.scan declaredName? (classLines style name fs) =
      ((namedFields fs).filter fun x => isStored x.1.type.classified).map Prod.snd := by
  have hopen : declaredName? (classHeader name ++ " \x7b") = none := by
    rewrite [classHeader_brace]
    exact declaredName?_of_apart (by decide) (by decide) _
  rw [scan_classLines (fun _ h => h.declaredName?), hopen,
    ← scan_bodyLines (fun _ h => h.declaredName?), scan_declaredName?_bodyLines]
  rfl

theorem scan_uncaughtScalar?_classLines (style : Style) (name : String) (fs : List Field) :
    Line.scan uncaughtScalar? (classLines style name fs) =
      (fs.filter fun f => isUncaughtAlone f.type).map fun f => f.type.leaf.name := by
  have hopen : uncaughtScalar? (classHeader name ++ " \x7b") = none := by
    rewrite [classHeader_brace]
    exact after?_of_apart (by decide) _
  have hfields : fs = (namedFields fs).map Prod.fst := (nameFields_fst fs .empty).symm
  rewrite [scan_classLines (fun _ h => h.uncaughtScalar?), hopen, ← flatMap_if]
  conv_rhs => rewrite [hfields, List.flatMap_map]
  exact List.flatMap_congr fun x _ => scan_uncaughtScalar?_propertyLines style.typeNaming x.2

theorem scan_openedClass?_classLines (style : Style) (name : String) (fs : List Field) :
    Line.scan openedClass? (classLines style name fs) = [name ++ ": Object \x7b"] := by
  have hopen : openedClass? (classHeader name ++ " \x7b") = some (name ++ ": Object \x7b") := by
    rewrite [classHeader_brace]
    exact after?_append _ _
  have hproperties : ((namedFields fs).flatMap fun x =>
      Line.scan openedClass? (propertyLines style.typeNaming x.1.type x.2)) = [] :=
    List.flatMap_eq_nil_iff.mpr fun x _ => scan_openedClass?_propertyLines style.typeNaming x.2
  rewrite [scan_classLines (fun _ h => h.openedClass?), hopen, hproperties]
  rfl

theorem keyword_of_mem_scope {settings : Settings} {frame : Frame} (h : frame ∈ settings.style.scope) :
    frame.keyword = "enum" := by
  change frame ∈ settings.scope at h
  rw [Settings.scope] at h
  split at h
  · obtain rfl := Option.some.inj h
    rfl
  · cases h

theorem isQuiet_namespace (settings : Settings) :
    ∀ frame ∈ settings.style.scope,
      IsQuiet (declarationHeader frame (namespaceHeader frame) ++ " \x7b") := by
  intro frame hframe
  have hkeyword := keyword_of_mem_scope hframe
  have hstart : wrap "" (joinParts " " ["public"]) " " ++ "enum" = "public enum" := by decide
  unfold declarationHeader namespaceHeader
  dsimp only
  rewrite [hkeyword, hstart]
  simp only [String.append_assoc]
  exact isQuiet_append (by decide) _

end RealmModels.Model
