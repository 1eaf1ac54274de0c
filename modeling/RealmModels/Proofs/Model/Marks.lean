import Mathlib
import RealmModels.Proofs.Model.Fitting
import RealmModels.Proofs.Model.Inventory

namespace RealmModels.Model

open GraphQL Swift Writing

def isMark (text : String) : Bool := (after? "///" text).isSome || (after? "@available(" text).isSome

def isAbstractAlone (t : TypeRef) : Bool :=
  !t.hasList && (t.leaf.kind == .interface || t.leaf.kind == .union)

def IsMarked (style : Style) (f : Field) : Prop :=
  (style.comments = true ∧ documentation (shownWords f.description) ≠ []) ∨
    (style.deprecations = true ∧ f.deprecationReason ≠ .absent)

instance (style : Style) (f : Field) : Decidable (IsMarked style f) :=
  inferInstanceAs (Decidable (_ ∨ _))

abbrev OwnedLine := Option (Field × String) × Line

def ownedFieldLines (style : Style) (x : Field × String) : List OwnedLine :=
  (fieldLines style x.1 x.2).map fun l => (some x, l.deeper)

def unownedLines (ls : List Line) : List OwnedLine := ls.map fun l => (none, l)

def ownedLines (style : Style) (name : String) (xs : List (Field × String)) : List OwnedLine :=
  unownedLines [⟨0, classHeader name ++ " \x7b"⟩] ++ xs.flatMap (ownedFieldLines style) ++
    unownedLines ((if style.initializers then initializerLines style xs else []).map Line.deeper) ++
    unownedLines [⟨0, "\x7d"⟩]

def ReachesOwn (x : Field × String) (below : List OwnedLine) : Prop :=
  ∃ marks own rest, below = marks ++ (some x, own) :: rest ∧
    (∀ l ∈ marks, l.1 = some x ∧ isMark l.2.text = true) ∧
    (declaredName? own.text = some x.2 ∨ uncaughtScalar? own.text = some x.1.type.leaf.name)

/-- All marks of a field stand directly above what is printed in place of its property. -/
def MarksStay (x : Field × String) (ls : List OwnedLine) : Prop :=
  ∀ l below, (some x, l) :: below <:+ ls → isMark l.text = true → ReachesOwn x below

theorem isMark_of_opens {starts : List String} {text : String} (h : Opens starts text)
    (hcomment : ∀ start ∈ starts, Apart "///" start)
    (hattribute : ∀ start ∈ starts, Apart "@available(" start) : isMark text = false := by
  rw [isMark, h.after? hcomment, h.after? hattribute]
  rfl

theorem isMark_comment (rest : String) : isMark ("/// " ++ rest) = true := by
  have hstart : "/// " = "///" ++ " " := by decide
  have hafter : after? "///" ("/// " ++ rest) = some (" " ++ rest) := by
    rewrite [hstart, String.append_assoc]
    exact after?_append _ _
  rw [isMark, hafter, Option.isSome_some, Bool.true_or]

theorem isMark_deprecation (reason : String) : isMark (deprecation reason) = true := by
  have hstart : "@available(*, deprecated, message: " =
      "@available(" ++ "*, deprecated, message: " := by decide
  have hafter : ∃ rest, after? "@available(" (deprecation reason) = some rest := by
    unfold deprecation
    generalize literal reason = shown
    rewrite [hstart, String.append_assoc, String.append_assoc]
    exact ⟨_, after?_append _ _⟩
  obtain ⟨rest, hrest⟩ := hafter
  rw [isMark, hrest, Option.isSome_some, Bool.or_true]

theorem isMark_of_mem_markLines {style : Style} {f : Field} {l : Line} (h : l ∈ markLines style f) :
    isMark l.text = true := by
  rcases List.mem_append.mp h with h | h
  · obtain ⟨text, htext, rfl⟩ := List.mem_map.mp h
    obtain ⟨cs, -, rfl⟩ := List.mem_map.mp htext
    exact isMark_comment _
  · rw [attributeLines] at h
    split at h
    · obtain rfl := List.mem_singleton.mp h
      exact isMark_deprecation _
    · exact absurd h List.not_mem_nil

theorem isMark_of_mem_propertyLines {n : TypeNaming} {t : TypeRef} {name : String} {l : Line}
    (h : l ∈ propertyLines n t name) : isMark l.text = false :=
  isMark_of_opens (opens_propertyLines h) (by decide) (by decide)

namespace ReachesOwn

variable {x : Field × String} {below : List OwnedLine}

theorem append (h : ReachesOwn x below) (more : List OwnedLine) : ReachesOwn x (below ++ more) := by
  obtain ⟨marks, own, rest, rfl, hmarks, hown⟩ := h
  exact ⟨marks, own, rest ++ more, List.append_assoc _ _ _, hmarks, hown⟩

end ReachesOwn

namespace MarksStay

variable {x : Field × String} {ls ls' : List OwnedLine}

theorem of_no_marks (h : ∀ l, (some x, l) ∈ ls → isMark l.text = false) : MarksStay x ls := by
  intro l below hsuffix hmark
  have hmem : (some x, l) ∈ ls := hsuffix.subset List.mem_cons_self
  rw [h l hmem] at hmark
  exact absurd hmark Bool.false_ne_true

theorem cons {l : OwnedLine} (hl : l.1 = some x → isMark l.2.text = true → ReachesOwn x ls)
    (h : MarksStay x ls) : MarksStay x (l :: ls) := by
  intro l' below hsuffix hmark
  rcases List.suffix_cons_iff.mp hsuffix with heq | hsuffix
  · obtain ⟨rfl, rfl⟩ := List.cons.inj heq
    exact hl rfl hmark
  · exact h l' below hsuffix hmark

theorem append (h : MarksStay x ls) (h' : MarksStay x ls') : MarksStay x (ls ++ ls') := by
  induction ls with
  | nil => exact h'
  | cons l ls ih =>
    refine cons (fun howner hmark => ?_) (ih fun l' below hsuffix => ?_)
    · obtain ⟨owner, line⟩ := l
      obtain rfl : owner = some x := howner
      exact (h line ls List.suffix_rfl hmark).append ls'
    · exact h l' below (hsuffix.trans (List.suffix_cons _ _))

theorem flatMap {α : Type} {f : α → List OwnedLine} {as : List α} (h : ∀ a ∈ as, MarksStay x (f a)) :
    MarksStay x (as.flatMap f) := by
  induction as with
  | nil => exact of_no_marks fun _ hmem => absurd hmem List.not_mem_nil
  | cons a as ih =>
    obtain ⟨ha, has⟩ := List.forall_mem_cons.mp h
    exact ha.append (ih has)

theorem unowned (ls : List Line) : MarksStay x (unownedLines ls) := by
  refine of_no_marks fun l hmem => ?_
  obtain ⟨_, -, heq⟩ := List.mem_map.mp hmem
  cases heq

theorem marked {marks own : List OwnedLine}
    (hmarks : ∀ l ∈ marks, l.1 = some x ∧ isMark l.2.text = true) (hown : ReachesOwn x own)
    (h : MarksStay x own) : MarksStay x (marks ++ own) := by
  induction marks with
  | nil => exact h
  | cons l marks ih =>
    obtain ⟨-, hrest⟩ := List.forall_mem_cons.mp hmarks
    refine cons (fun _ _ => ?_) (ih hrest)
    obtain ⟨marks', line, rest, rfl, hmarks', hline⟩ := hown
    refine ⟨marks ++ marks', line, rest, (List.append_assoc _ _ _).symm, ?_, hline⟩
    exact List.forall_mem_append.mpr ⟨hrest, hmarks'⟩

end MarksStay

theorem propertyLines_tell (n : TypeNaming) (t : TypeRef) {name : String}
    (hname : ∀ c ∈ name.toList, isInName c = true) {own : Line} {rest : List Line}
    (h : propertyLines n t name = own :: rest) :
    declaredName? own.text = some name ∨ uncaughtScalar? own.text = some t.leaf.name := by
  cases hs : isStored t.classified with
  | true =>
    obtain ⟨declared, ls, hlines, hdeclared, -⟩ := propertyLines_of_isStored n name hs
    obtain ⟨rfl, -⟩ := List.cons.inj (h.symm.trans hlines)
    exact .inl (hdeclared.declaredName? hname)
  | false =>
    rw [propertyLines_of_not_isStored n name hs] at h
    split at h
    · obtain ⟨rfl, -⟩ := List.cons.inj h
      exact .inr (after?_append _ _)
    · cases h

theorem marksStay_ownedFieldLines (style : Style) {x y : Field × String}
    (hname : ∀ c ∈ y.2.toList, isInName c = true)
    (h : markLines style x.1 = [] ∨ propertyLines style.typeNaming x.1.type x.2 ≠ []) :
    MarksStay x (ownedFieldLines style y) := by
  by_cases hxy : x = y
  · subst hxy
    have hproperty : MarksStay x ((propertyLines style.typeNaming x.1.type x.2).map fun l =>
        (some x, l.deeper)) := by
      refine .of_no_marks fun l hmem => ?_
      obtain ⟨l', hl', heq⟩ := List.mem_map.mp hmem
      obtain ⟨-, rfl⟩ := Prod.mk.inj heq
      have hunmarked : isMark l'.text = false := isMark_of_mem_propertyLines hl'
      exact hunmarked
    rw [ownedFieldLines, fieldLines, List.map_append]
    cases hp : propertyLines style.typeNaming x.1.type x.2 with
    | nil =>
      rw [h.resolve_right (not_not.mpr hp)]
      exact .of_no_marks fun _ hmem => absurd hmem List.not_mem_nil
    | cons own rest =>
      rw [hp] at hproperty
      refine .marked ?_ ?_ hproperty
      · refine List.forall_mem_map.mpr fun l hl => ⟨rfl, ?_⟩
        have hmark : isMark l.text = true := isMark_of_mem_markLines hl
        exact hmark
      · have htells := propertyLines_tell style.typeNaming x.1.type hname hp
        exact ⟨[], own.deeper, _, rfl, List.forall_mem_nil _, htells⟩
  · refine .of_no_marks fun l hmem => ?_
    obtain ⟨_, -, heq⟩ := List.mem_map.mp hmem
    exact absurd (Option.some.inj (Prod.mk.inj heq).1).symm hxy

theorem mem_ownedLines {style : Style} {name : String} {xs : List (Field × String)}
    {x : Field × String} {l : Line} (h : (some x, l) ∈ ownedLines style name xs) :
    ∃ l' ∈ fieldLines style x.1 x.2, l = l'.deeper := by
  have hunowned (ls : List Line) : (some x, l) ∉ unownedLines ls := by
    intro hmem
    obtain ⟨_, -, heq⟩ := List.mem_map.mp hmem
    cases heq
  simp only [ownedLines, List.mem_append, hunowned, or_false, false_or] at h
  obtain ⟨y, -, hy⟩ := List.mem_flatMap.mp h
  obtain ⟨l', hl', heq⟩ := List.mem_map.mp hy
  obtain ⟨hyx, rfl⟩ := Prod.mk.inj heq
  obtain rfl := Option.some.inj hyx
  exact ⟨l', hl', rfl⟩

theorem marksStay_ownedLines_iff (style : Style) (name : String) {xs : List (Field × String)}
    (hnames : ∀ x ∈ xs, ∀ c ∈ x.2.toList, isInName c = true) {x : Field × String} (hx : x ∈ xs) :
    MarksStay x (ownedLines style name xs) ↔
      markLines style x.1 = [] ∨ propertyLines style.typeNaming x.1.type x.2 ≠ [] := by
  constructor
  · -- what a mark stands above tells something, so that it is no mark and comes from the property
    intro h
    by_contra hneither
    obtain ⟨hmarks, hproperty⟩ := not_or.mp hneither
    obtain ⟨mark, rest, hmark⟩ := List.exists_cons_of_ne_nil hmarks
    have hmem : (some x, mark.deeper) ∈ ownedLines style name xs := by
      have hline : mark ∈ fieldLines style x.1 x.2 := by
        rw [fieldLines, hmark]
        exact List.mem_cons_self
      have howned : (some x, mark.deeper) ∈ xs.flatMap (ownedFieldLines style) :=
        List.mem_flatMap.mpr ⟨x, hx, List.mem_map.mpr ⟨mark, hline, rfl⟩⟩
      simp only [ownedLines, List.mem_append, howned, true_or, or_true]
    obtain ⟨above, below, hsplit⟩ := List.append_of_mem hmem
    have hismark : isMark mark.text = true :=
      isMark_of_mem_markLines (by rw [hmark]; exact List.mem_cons_self)
    have hsuffix : (some x, mark.deeper) :: below <:+ ownedLines style name xs := ⟨above, hsplit.symm⟩
    obtain ⟨marks, own, _, hbelow, -, htells⟩ := h mark.deeper below hsuffix hismark
    have hown : (some x, own) ∈ ownedLines style name xs := by
      refine hsuffix.subset (List.mem_cons_of_mem _ ?_)
      rw [hbelow]
      exact List.mem_append_right _ List.mem_cons_self
    obtain ⟨own', hown', rfl⟩ := mem_ownedLines hown
    rw [fieldLines, not_not.mp hproperty, List.append_nil] at hown'
    have hquiet : IsQuiet own'.text := allQuiet_markLines style x.1 own' hown'
    rcases htells with htells | htells
    · exact absurd (hquiet.declaredName?.symm.trans htells) (Option.some_ne_none _).symm
    · exact absurd (hquiet.uncaughtScalar?.symm.trans htells) (Option.some_ne_none _).symm
  · intro h
    have hfields : MarksStay x (xs.flatMap (ownedFieldLines style)) :=
      .flatMap fun y hy => marksStay_ownedFieldLines style (hnames y hy) h
    exact (((MarksStay.unowned _).append hfields).append (.unowned _)).append (.unowned _)

theorem markLines_ne_nil_iff (style : Style) (f : Field) : markLines style f ≠ [] ↔ IsMarked style f := by
  have hcomment : docLines (shownDescription style f) ≠ [] ↔
      style.comments = true ∧ documentation (shownWords f.description) ≠ [] := by
    rw [shownDescription]
    cases style.comments with
    | true => simp [docLines]
    | false => simp [docLines_absent]
  have hattribute : attributeLines style f ≠ [] ↔
      style.deprecations = true ∧ f.deprecationReason ≠ .absent := by
    rw [attributeLines]
    split <;> simp_all
  rw [IsMarked, ← hcomment, ← hattribute, ← not_and_or, ← List.append_eq_nil_iff, markLines]

theorem isAbstractAlone_eq {t : TypeRef} (ht : t.IsOutput) :
    isAbstractAlone t = (!isStored t.classified && !isUncaughtAlone t) := by
  have hlist : t.classified.isList = t.hasList := rfl
  have hshape : t.classified.shape = t.leaf.shape?.getD .abstract := rfl
  rw [isUncaughtAlone_eq, isAbstractAlone, isStored, Classified.isUncaught, hlist, hshape]
  rw [TypeRef.IsOutput] at ht
  cases t.hasList with
  | true => rfl
  | false =>
    cases hk : t.leaf.kind with
    | scalar => cases hn : ScalarKind.ofName t.leaf.name <;> simp [Named.shape?, hk, hn]
    | inputObject | undefined => simp [hk, Kind.isOutput] at ht
    | _ => simp [Named.shape?, hk]

theorem propertyLines_eq_nil_iff (n : TypeNaming) {t : TypeRef} (ht : t.IsOutput) (name : String) :
    propertyLines n t name = [] ↔ isAbstractAlone t = true := by
  rw [isAbstractAlone_eq ht]
  cases hs : isStored t.classified with
  | true =>
    obtain ⟨declared, ls, hlines, -⟩ := propertyLines_of_isStored n name hs
    simp [hlines]
  | false =>
    rw [propertyLines_of_not_isStored n name hs]
    cases isUncaughtAlone t <;> simp

theorem map_snd_ownedLines (style : Style) (name : String) (xs : List (Field × String)) :
    (ownedLines style name xs).map Prod.snd = bracedLines (classHeader name) (bodyLines style xs) := by
  have hunowned (ls : List Line) : (unownedLines ls).map Prod.snd = ls := by
    rw [unownedLines, List.map_map]
    exact List.map_id ls
  have hfields : (xs.flatMap (ownedFieldLines style)).map Prod.snd =
      (xs.flatMap fun x => fieldLines style x.1 x.2).map Line.deeper := by
    rw [List.map_flatMap, List.map_flatMap]
    refine List.flatMap_congr fun x _ => ?_
    rw [ownedFieldLines, List.map_map]
    rfl
  rw [ownedLines, List.map_append, List.map_append, List.map_append, hunowned, hunowned, hunowned,
    hfields, bracedLines, bodyLines, List.map_append, List.append_assoc, List.singleton_append,
    List.append_assoc]
  rfl

/-- The marks of a field stand directly above what is printed in place of its property, unless it is an
interface or a union outside of lists. Nothing is printed for such a field but its marks, and they come
to stand above what belongs to another field or to none. -/
theorem marks_stay_iff {style : Style} {name : String} {fs : List Field} {s t : Session}
    (hrun : declareClass style name (some fs) s = .ok () t) :
    (∀ f q u v, declareField style f u = .ok q v →
      v.printer = u.printer.putAll (fieldLines style f q.name)) ∧
    ∃ names : List String,
      Naming.Scope.empty.answers naming (nameRequests fs) = .ok (names.map some, t.names) ∧
      names.length = fs.length ∧
      t.printer = s.printer.putAll
        (separator s.printer ++ (ownedLines style name (fs.zip names)).map Prod.snd) ∧
      ∀ x ∈ fs.zip names, MarksStay x (ownedLines style name (fs.zip names)) ↔
        ¬ (IsMarked style x.1 ∧ isAbstractAlone x.1.type = true) := by
  obtain ⟨p, n, e⟩ := s
  obtain ⟨⟨-, hdeclare⟩, -, rfl⟩ := (gives_declareClass style name fs () t).mp hrun
  constructor
  · rintro f q ⟨p', n', e'⟩ v hfield
    obtain ⟨-, rfl, rfl⟩ := (gives_declareField style f q v).mp hfield
    rfl
  · refine ⟨(namedFields fs).map Prod.snd, answers_nameRequests fs, ?_, ?_, ?_⟩
    · rw [List.length_map, length_namedFields]
    · rw [zip_namedFields, map_snd_ownedLines]
      rfl
    · rw [zip_namedFields]
      intro x hx
      have houtput : x.1.type.IsOutput := (hdeclare x hx).1.type.1
      rw [marksStay_ownedLines_iff style name (fun y hy => isInName_namedFields hy) hx,
        ← markLines_ne_nil_iff, ← propertyLines_eq_nil_iff style.typeNaming houtput x.2, not_and_or,
        not_not]

theorem person_marks_stay :
    ∃ (t : Session) (names : List String),
      declareClass Settings.default.style person.modelOf.name (some person.modelOf.fields)
        Settings.default.session = .ok () t ∧
      names.length = person.modelOf.fields.length ∧
      ∀ x ∈ person.modelOf.fields.zip names,
        MarksStay x (ownedLines Settings.default.style person.modelOf.name
          (person.modelOf.fields.zip names)) ↔ x.1 ≠ friend := by
  have hstray : ∀ f ∈ person.modelOf.fields,
      ¬ (IsMarked Settings.default.style f ∧ isAbstractAlone f.type = true) ↔ f ≠ friend := by decide
  obtain ⟨t, hrun⟩ := fitting_people.declareClass person_mem_models
  obtain ⟨-, names, -, hlength, -, hstay⟩ := marks_stay_iff hrun
  refine ⟨t, names, hrun, hlength, fun x hx => ?_⟩
  rw [hstay x hx]
  exact hstray x.1 (List.of_mem_zip hx).1

theorem friend_mark_strays :
    ∃ t, declareClass Settings.default.style person.modelOf.name (some person.modelOf.fields)
        Settings.default.session = .ok () t ∧
      ∃ x ∈ namedFields person.modelOf.fields, ∃ above,
        ownedLines Settings.default.style person.modelOf.name (namedFields person.modelOf.fields) =
          above ++ [(some x, ⟨1, "/// The closest one."⟩), (none, ⟨0, "\x7d"⟩)] ∧
        ¬ MarksStay x (ownedLines Settings.default.style person.modelOf.name
          (namedFields person.modelOf.fields)) := by
  obtain ⟨t, hrun⟩ := fitting_people.declareClass person_mem_models
  have hmem : (friend, "friend") ∈ namedFields person.modelOf.fields := by decide
  let lines := ownedLines Settings.default.style person.modelOf.name
    (namedFields person.modelOf.fields)
  have hsplit : lines = lines.dropLast.dropLast ++
      [(some (friend, "friend"), ⟨1, "/// The closest one."⟩), (none, ⟨0, "\x7d"⟩)] := by decide
  refine ⟨t, hrun, (friend, "friend"), hmem, _, hsplit, ?_⟩
  rw [marksStay_ownedLines_iff _ _ (fun y hy => isInName_namedFields hy) hmem]
  decide

end RealmModels.Model
