import Mathlib
import RealmModels.Proofs.Model.Fitting
import RealmModels.Proofs.Model.Holding
import RealmModels.Proofs.Model.Inventory
import RealmModels.Proofs.Swift.FullName

/-!
The memberwise initializer of a class. It has a parameter and an assignment for each declared
property and for nothing else, in the order of the declarations, and each of them suits the
declaration.
-/

namespace RealmModels.Model

open GraphQL Swift Writing

structure Parameter where
  label : String
  type : String
  hasDefault : Bool
  deriving DecidableEq, Repr

def Parameter.text (q : Parameter) : String :=
  q.label ++ ": " ++ q.type ++ (if q.hasDefault then " = nil" else "")

def parameterText (ps : List Parameter) : String := Text.joinWith ", " (ps.map Parameter.text)

def heading (ps : List Parameter) : String := "init(" ++ parameterText ps ++ ")"

def declarationsOf (style : Style) (f : Field) (name : String) : List String :=
  ((fieldLines style f name).map Line.text).filter fun text => declaredName? text = some name

def declaredLines (style : Style) (xs : List (Field × String)) : List ((Field × String) × String) :=
  xs.flatMap fun x => (declarationsOf style x.1 x.2).map fun declared => (x, declared)

structure Agrees (d : (Field × String) × String) (m : Parameter × String) : Prop where
  label : m.1.label = d.1.2
  assigned : ∃ held, holding? d.1.2 d.2 = some held ∧
    assigned? d.1.2 m.2 = some (held.assigned d.1.2 m.1.hasDefault)
  hasDefault : m.1.hasDefault = !d.1.1.type.isNonNull
  mark : (before? "?" m.1.type).isSome = m.1.hasDefault

def parameterOf (n : TypeNaming) (x : Field × String) : Parameter :=
  ⟨x.2, n.fullName true x.1.type, !x.1.type.isNonNull⟩

def storedFields (xs : List (Field × String)) : List (Field × String) :=
  xs.filter fun x => isStored x.1.type.classified

def memberOf (style : Style) (x : Field × String) : Parameter × String :=
  (parameterOf style.typeNaming x, assignment x.1.type.classified (propertyOf style x.1 x.2))

theorem memberwiseLines_eq (style : Style) (xs : List (Field × String)) :
    memberwiseLines style.typeNaming (xs.map fun x => propertyOf style x.1 x.2) =
      .blank :: bracedLines
        ("public " ++ heading ((storedFields xs).map (parameterOf style.typeNaming)))
        (((storedFields xs).map fun x => ⟨0, (memberOf style x).2⟩) ++ [⟨0, "super.init()"⟩]) := by
  have hstored : storedProperties (xs.map fun x => propertyOf style x.1 x.2) =
      (storedFields xs).map fun x => propertyOf style x.1 x.2 := by
    rw [storedProperties, storedFields, List.filter_map]
    rfl
  have hpublic : "public init(" = "public " ++ "init(" := by decide
  rw [memberwiseLines, hstored, heading, parameterText, assignmentLines, List.map_map, List.map_map,
    List.map_map, hpublic, String.append_assoc, String.append_assoc, String.append_assoc]
  rfl

theorem declarationsOf_eq (style : Style) (f : Field) (name : String) :
    declarationsOf style f name =
      (propertyLine? f.type.classified name (style.typeNaming.rootName f.type)).toList.filter
        fun text => declaredName? text = some name := by
  have hquiet {ls : List Line} (h : AllQuiet ls) :
      ((ls.map Line.text).filter fun text => declaredName? text = some name) = [] := by
    apply List.filter_eq_nil_iff.mpr
    intro text htext
    obtain ⟨l, hl, rfl⟩ := List.mem_map.mp htext
    simp [(h l hl).declaredName?]
  rw [declarationsOf, fieldLines, List.map_append, List.filter_append,
    hquiet (allQuiet_markLines style f), List.nil_append, propertyLines]
  cases propertyLine? f.type.classified name (style.typeNaming.rootName f.type) with
  | none => rfl
  | some declared =>
    have hkey : AllQuiet (if isPrimaryKey f.type.classified then keyLines name else []) := by
      split
      · exact allQuiet_keyLines name
      · exact List.forall_mem_nil _
    simp only [List.map_cons, List.filter_cons, hquiet hkey, Option.toList_some, List.filter_nil]

theorem mem_declarationsOf {style : Style} {f : Field} {name declared : String}
    (h : declared ∈ declarationsOf style f name) :
    isStored f.type.classified = true ∧
      propertyLine? f.type.classified name (style.typeNaming.rootName f.type) = some declared := by
  rw [declarationsOf_eq] at h
  obtain ⟨hline, htells⟩ := List.mem_filter.mp h
  have hline := Option.mem_toList.mp hline
  refine ⟨?_, hline⟩
  by_contra hstored
  rw [propertyLine?_of_not_isStored _ _ (Bool.eq_false_of_not_eq_true hstored)] at hline
  split at hline
  · obtain rfl := Option.some.inj hline
    have hmarked : declaredName? ("UNCAUGHT SCALAR " ++ f.type.classified.typeName) = none :=
      declaredName?_of_apart (by decide) (by decide) _
    simp [hmarked] at htells
  · cases hline

theorem declarationsOf_of_isStored {style : Style} {f : Field} {name declared : String}
    (hname : ∀ c ∈ name.toList, isInName c = true) (hstored : isStored f.type.classified = true)
    (hline : propertyLine? f.type.classified name (style.typeNaming.rootName f.type) = some declared) :
    declarationsOf style f name = [declared] := by
  obtain ⟨line, hline', hdeclares⟩ :=
    isDeclaration_of_isStored name (style.typeNaming.rootName f.type) hstored
  obtain rfl := Option.some.inj (hline.symm.trans hline')
  rw [declarationsOf_eq, hline]
  simp [hdeclares.declaredName? hname]

theorem declarationsOf_of_not_isStored {style : Style} {f : Field} (name : String)
    (hstored : isStored f.type.classified = false) : declarationsOf style f name = [] := by
  apply List.eq_nil_iff_forall_not_mem.mpr
  intro declared hdeclared
  have htrue := (mem_declarationsOf hdeclared).1
  rw [hstored] at htrue
  cases htrue

def declarationFor (style : Style) (x : Field × String) : String :=
  (propertyLine? x.1.type.classified x.2 (style.typeNaming.rootName x.1.type)).getD ""

theorem declaredLines_eq (style : Style) {xs : List (Field × String)}
    (hnames : ∀ x ∈ xs, ∀ c ∈ x.2.toList, isInName c = true) :
    declaredLines style xs = (storedFields xs).map fun x => (x, declarationFor style x) := by
  rw [declaredLines, storedFields, ← flatMap_if]
  refine List.flatMap_congr fun x hx => ?_
  cases hstored : isStored x.1.type.classified with
  | false => rw [declarationsOf_of_not_isStored x.2 hstored]; rfl
  | true =>
    obtain ⟨line, hline, -⟩ :=
      isDeclaration_of_isStored x.2 (style.typeNaming.rootName x.1.type) hstored
    rw [declarationsOf_of_isStored (hnames x hx) hstored hline, declarationFor, hline]
    rfl

theorem holding?_declarationFor {style : Style} {x : Field × String}
    (hnames : style.typeNaming.Names x.1.type) (hstored : isStored x.1.type.classified = true) :
    holding? x.2 (declarationFor style x) =
      some (heldAs x.1.type.classified (style.typeNaming.rootName x.1.type)) := by
  obtain ⟨declared, hline, hheld⟩ := exists_holding (TypeNaming.rootOf_eq hnames) hstored x.2
  rw [declarationFor, hline]
  exact hheld

theorem agrees_memberOf {style : Style} {x : Field × String} (hnames : style.typeNaming.Names x.1.type)
    (hname : isName x.1.type.leaf.name = true) (hstored : isStored x.1.type.classified = true) :
    Agrees (x, declarationFor style x) (memberOf style x) := by
  constructor
  · rfl
  · refine ⟨_, holding?_declarationFor hnames hstored, ?_⟩
    exact assigned?_assignment _ (style.typeNaming.rootName x.1.type) _
  · rfl
  · exact (TypeNaming.mark_fullName hnames hname).1

theorem forall₂_members {style : Style} {xs : List (Field × String)}
    {R : (Field × String) × String → Parameter × String → Prop}
    (hspelled : ∀ x ∈ xs, ∀ c ∈ x.2.toList, isInName c = true)
    (h : ∀ x ∈ xs, isStored x.1.type.classified = true →
      R (x, declarationFor style x) (memberOf style x)) :
    List.Forall₂ R (declaredLines style xs) ((storedFields xs).map (memberOf style)) := by
  rw [declaredLines_eq style hspelled, List.forall₂_map_left_iff, List.forall₂_map_right_iff,
    List.forall₂_same]
  intro x hx
  obtain ⟨hmem, hstored⟩ := List.mem_filter.mp hx
  exact h x hmem hstored

theorem printer_declareField {style : Style} {f : Field} {q : Property} {s t : Session}
    (hrun : declareField style f s = .ok q t) :
    t.printer = s.printer.putAll (fieldLines style f q.name) := by
  obtain ⟨p, n, e⟩ := s
  obtain ⟨-, rfl, rfl⟩ := (gives_declareField style f q t).mp hrun
  rfl

def memberLines (style : Style) (name : String) (xs : List (Field × String))
    (members : List (Parameter × String)) : List Line :=
  bracedLines (classHeader name) (xs.flatMap (fun x => fieldLines style x.1 x.2) ++
    (.blank :: bracedLines ("public " ++ heading (members.map Prod.fst))
      ((members.map fun m => ⟨0, m.2⟩) ++ [⟨0, "super.init()"⟩])) ++ requiredLines)

/-- A run prints a class in which the fields have these names and the initializer these members. -/
structure PrintsMembers (style : Style) (name : String) (fs : List Field) (s t : Session)
    (names : List String) (members : List (Parameter × String)) : Prop where
  named : Naming.Scope.empty.answers naming (nameRequests fs) = .ok (names.map some, t.names)
  length : names.length = fs.length
  printed : t.printer = s.printer.putAll
    (separator s.printer ++ memberLines style name (fs.zip names) members)

theorem classLines_eq_memberLines {style : Style} (hon : style.initializers = true) (name : String)
    (fs : List Field) :
    classLines style name fs =
      memberLines style name (namedFields fs) ((storedFields (namedFields fs)).map (memberOf style)) := by
  have hlines := memberwiseLines_eq style (namedFields fs)
  rw [memberLines, List.map_map, List.map_map, classLines, bodyLines, hon]
  simp only [↓reduceIte, initializerLines, hlines, List.append_assoc]
  rfl

theorem printsMembers {style : Style} (hon : style.initializers = true) {name : String}
    {fs : List Field} {s t : Session} (hrun : declareClass style name (some fs) s = .ok () t) :
    PrintsMembers style name fs s t ((namedFields fs).map Prod.snd)
      ((storedFields (namedFields fs)).map (memberOf style)) := by
  obtain ⟨p, n, e⟩ := s
  obtain ⟨-, -, rfl⟩ := (gives_declareClass style name fs () t).mp hrun
  constructor
  · exact answers_nameRequests fs
  · rw [List.length_map, length_namedFields]
  · rw [zip_namedFields, classLines_eq_memberLines hon]

theorem names_namedFields {style : Style} {name : String} {fs : List Field} {s t : Session}
    (hrun : declareClass style name (some fs) s = .ok () t) {x : Field × String}
    (hx : x ∈ namedFields fs) : style.typeNaming.Names x.1.type := by
  obtain ⟨p, n, e⟩ := s
  obtain ⟨⟨-, hdeclare⟩, -, -⟩ := (gives_declareClass style name fs () t).mp hrun
  exact (hdeclare x hx).1.type

/-- The fields for which a property is declared are, in their order, the parameters of the memberwise
initializer. Each is assigned to once in that order: the items are appended to a list, a box takes
its value and any other property the parameter itself. A type may be missing just if there is a
default, that is if the field itself may be null, and then nothing is appended. -/
theorem memberwise_agrees {style : Style} (hon : style.initializers = true) (name : String)
    {fs : List Field} (hnames : ∀ f ∈ fs, isName f.type.leaf.name = true) (s : Session) :
    (ClassFits style s.printer fs → ∃ t, declareClass style name (some fs) s = .ok () t) ∧
    (∀ f q u v, declareField style f u = .ok q v →
      v.printer = u.printer.putAll (fieldLines style f q.name)) ∧
    ∀ t, declareClass style name (some fs) s = .ok () t →
      ∃ (names : List String) (members : List (Parameter × String)),
        PrintsMembers style name fs s t names members ∧
        List.Forall₂ Agrees (declaredLines style (fs.zip names)) members := by
  refine ⟨fun h => h.declareClass name, fun f q u v => printer_declareField, fun t hrun => ?_⟩
  refine ⟨_, _, printsMembers hon hrun, ?_⟩
  rw [zip_namedFields]
  apply forall₂_members fun x hx => isInName_namedFields hx
  intro x hx hstored
  exact agrees_memberOf (names_namedFields hrun hx) (hnames _ (mem_of_mem_namedFields hx)) hstored

def band : List Field :=
  [⟨"name", .nonNull (.named ⟨"String", .scalar⟩), [], .absent, .absent⟩,
    ⟨"ratings", .list (.named ⟨"Float", .scalar⟩), [], .absent, .absent⟩,
    ⟨"albums", .nonNull (.list (.named ⟨"Album", .object⟩)), [], .absent, .absent⟩,
    ⟨"founded", .named ⟨"Int", .scalar⟩, [], .absent, .absent⟩,
    ⟨"label", .named ⟨"Label", .union⟩, [], .absent, .absent⟩]

theorem classFits_band : ClassFits { initializers := true } Settings.default.session.printer band :=
  ⟨by decide, by decide, rfl⟩

theorem band_memberwise_agrees :
    ∃ (t : Session) (names : List String) (members : List (Parameter × String)),
      declareClass { initializers := true } "Band" (some band) Settings.default.session = .ok () t ∧
      PrintsMembers { initializers := true } "Band" band Settings.default.session t names members ∧
      members.length = 4 ∧
      List.Forall₂ Agrees (declaredLines { initializers := true } (band.zip names)) members := by
  let style : Style := { initializers := true }
  have hon : style.initializers = true := rfl
  have hnames : ∀ f ∈ band, isName f.type.leaf.name = true := by decide
  obtain ⟨hwritten, -, hmembers⟩ := memberwise_agrees hon "Band" hnames Settings.default.session
  obtain ⟨t, hrun⟩ := hwritten classFits_band
  obtain ⟨names, members, hprints, hagrees⟩ := hmembers t hrun
  have hdeclared : (declaredLines style (namedFields band)).length = 4 := by decide
  refine ⟨t, names, members, hrun, hprints, ?_, hagrees⟩
  rw [← hagrees.length_eq, zip_of_answers hprints.named, hdeclared]

end RealmModels.Model
