import Mathlib
import RealmModels.Proofs.Model.Accounting
import RealmModels.Proofs.Model.Memberwise

/-!
Renamings and the reports on them. A property has the name that the spelling of its field gives unless
an earlier property of the class has it already; then it gets the first free number, and this and
nothing else is reported.
-/

namespace RealmModels

open GraphQL

def Log.Event.renaming? : Log.Event → Option (Log.Level × String)
  | e@(renamed ..) => some (e.level, e.message)
  | _ => none

def Settings.siteOf (settings : Settings) (type field : String) : String :=
  (if settings.isOn .namespaceName then (settings.value .namespaceName).display ++ "." else "") ++
    type ++ "." ++ field

namespace Model

open Swift Writing

def plainName (f : Field) : String := Naming.base .camel f.name

def unquotedNames (xs : List (Field × String)) : List String := xs.map fun x => unquoted x.2

def clashes (earlier : List String) : List (Field × String) → List (Field × String)
  | [] => []
  | x :: xs =>
    (if plainName x.1 ∈ earlier then [x] else []) ++ clashes (earlier ++ [unquoted x.2]) xs

/-- A name behind others: the plain one, escaped if it is reserved, as long as it is not taken, and
else the plain one with the least number that none of them has. -/
structure NamedBehind (earlier : List String) (plain name : String) : Prop where
  kept : plain ∉ earlier → name = escapeIdentifier plain
  numbered : plain ∈ earlier → ∃ k, 1 ≤ k ∧ unquoted name = plain ++ toString k ∧
    plain ++ toString k ∉ earlier ∧ ∀ j, 1 ≤ j → j < k → plain ++ toString j ∈ earlier

theorem isName_plainName (f : Field) : Naming.IsName (plainName f).toList := Naming.isName_base _ _

theorem namedBehind_freeName {earlier taken : List String} (h : ∀ name, name ∈ taken ↔ name ∈ earlier)
    (f : Field) :
    NamedBehind earlier (plainName f) (escapeIdentifier (Naming.freeName taken (plainName f))) := by
  constructor
  · intro hfree
    rw [Naming.freeName_of_not_mem fun hmem => hfree ((h _).mp hmem)]
  · intro htaken
    obtain ⟨k, hk, -, hname, hfree, hbelow⟩ := Naming.freeName_of_mem ((h _).mpr htaken)
    refine ⟨k, hk, ?_, fun hmem => hfree ((h _).mpr hmem), fun j hj hjk => (h _).mp (hbelow j hj hjk)⟩
    rw [hname, unquoted_escapeIdentifier (Naming.isName_numbered (isName_plainName f) k)]

theorem NamedBehind.isRenamed_iff {earlier : List String} {f : Field} {name : String}
    (h : NamedBehind earlier (plainName f) name) : IsRenamed f name ↔ plainName f ∈ earlier := by
  constructor
  · intro hrenamed
    by_contra hfree
    exact hrenamed (h.kept hfree)
  · intro htaken hplain
    obtain ⟨k, -, hnumbered, -⟩ := h.numbered htaken
    have hunquoted : unquoted name = plainName f := by
      rw [hplain]
      exact unquoted_escapeIdentifier (isName_plainName f)
    exact Naming.ne_numbered (plainName f) k (hunquoted.symm.trans hnumbered)

theorem namedBehind_nameFields {fs : List Field} {n : Naming.Scope} {earlier : List String}
    (hfs : (fs.map Field.name).Nodup)
    (hnew : ∀ f ∈ fs, Naming.keyOf f.name .camel ∉ n.given.map Prod.fst)
    (htaken : ∀ name, name ∈ n.taken ↔ name ∈ earlier)
    {before after : List (Field × String)} {x : Field × String}
    (h : (nameFields fs n).1 = before ++ x :: after) :
    NamedBehind (earlier ++ unquotedNames before) (plainName x.1) x.2 := by
  induction fs generalizing n before earlier with
  | nil => exact absurd h.symm (List.append_ne_nil_of_right_ne_nil _ (List.cons_ne_nil _ _))
  | cons f fs ih =>
    obtain ⟨hf, hfs⟩ := List.nodup_cons.mp hfs
    obtain ⟨hfnew, hfsnew⟩ := List.forall_mem_cons.mp hnew
    simp only [nameFields, give_of_new hfnew] at h
    cases before with
    | nil =>
      obtain ⟨rfl, -⟩ := List.cons.inj h
      rw [unquotedNames, List.map_nil, List.append_nil]
      exact namedBehind_freeName htaken f
    | cons y before =>
      obtain ⟨rfl, hrest⟩ := List.cons.inj h
      have hname : unquoted (escapeIdentifier (Naming.freeName n.taken (plainName f))) =
          Naming.freeName n.taken (plainName f) :=
        unquoted_escapeIdentifier (Naming.isName_freeName _ (isName_plainName f))
      rw [unquotedNames, List.map_cons, ← List.singleton_append, ← List.append_assoc]
      refine ih hfs ?_ ?_ hrest
      · intro g hg hmem
        rcases List.mem_cons.mp hmem with hkey | hmem
        · exact hf ((Naming.keyOf_injective hkey).1 ▸ List.mem_map_of_mem hg)
        · exact hfsnew g hg hmem
      · intro name
        rw [List.mem_append, List.mem_singleton, List.mem_cons, htaken]
        dsimp only
        rw [show Naming.base .camel f.name = plainName f from rfl, hname, or_comm]

theorem namedBehind_namedFields {fs : List Field} (hfs : (fs.map Field.name).Nodup)
    {before after : List (Field × String)} {x : Field × String}
    (h : namedFields fs = before ++ x :: after) :
    NamedBehind (unquotedNames before) (plainName x.1) x.2 :=
  namedBehind_nameFields hfs (fun _ _ => List.not_mem_nil) (fun _ => Iff.rfl) h

theorem clashes_eq_filter {xs : List (Field × String)} {earlier : List String}
    (h : ∀ before x after, xs = before ++ x :: after →
      NamedBehind (earlier ++ unquotedNames before) (plainName x.1) x.2) :
    clashes earlier xs = xs.filter fun x => IsRenamed x.1 x.2 := by
  induction xs generalizing earlier with
  | nil => rfl
  | cons x xs ih =>
    have hx : IsRenamed x.1 x.2 ↔ plainName x.1 ∈ earlier := by
      rw [(h [] x xs rfl).isRenamed_iff, unquotedNames, List.map_nil, List.append_nil]
    have hrest : clashes (earlier ++ [unquoted x.2]) xs = xs.filter fun x => IsRenamed x.1 x.2 := by
      apply ih
      rintro before y after rfl
      rw [List.append_assoc]
      exact h (x :: before) y after rfl
    rw [clashes, hrest, List.filter_cons]
    by_cases hrenamed : IsRenamed x.1 x.2 <;> simp [hrenamed, ← hx]

theorem clashes_namedFields {fs : List Field} (hfs : (fs.map Field.name).Nodup) :
    clashes [] (namedFields fs) = (namedFields fs).filter fun x => IsRenamed x.1 x.2 :=
  clashes_eq_filter fun _ _ _ h => namedBehind_namedFields hfs h

theorem mem_clashes_iff {fs : List Field} (hfs : (fs.map Field.name).Nodup)
    {before after : List (Field × String)} {x : Field × String}
    (h : namedFields fs = before ++ x :: after) :
    x ∈ clashes [] (namedFields fs) ↔ plainName x.1 ∈ unquotedNames before := by
  have hx : x ∈ namedFields fs := by
    rw [h]
    exact List.mem_append_right _ List.mem_cons_self
  rw [clashes_namedFields hfs, List.mem_filter, decide_eq_true_iff,
    (namedBehind_namedFields hfs h).isRenamed_iff]
  exact and_iff_right hx

def renamingNotice (settings : Settings) (type : String) (x : Field × String) : Log.Level × String :=
  (.warning, "Field " ++ settings.siteOf type x.1.name ++ " renamed to " ++ x.2 ++ ": " ++
    plainName x.1 ++ " is already declared")

theorem siteOf_eq (settings : Settings) (type field : String) :
    ({ name := type, keyword := "class" } :: settings.style.scope.toList).foldl
        (fun inner (frame : Frame) => frame.name ++ "." ++ inner) field =
      settings.siteOf type field := by
  have hscope : settings.style.scope = settings.scope := rfl
  rw [hscope, Settings.scope, Settings.siteOf]
  cases settings.isOn .namespaceName with
  | true => simp only [↓reduceIte, Option.toList_some, List.foldl_cons, List.foldl_nil,
      String.append_assoc]
  | false => simp only [Bool.false_eq_true, ↓reduceIte, Option.toList_none, List.foldl_cons,
      List.foldl_nil, String.empty_append, String.append_assoc]

theorem filterMap_renaming?_fieldEvents (settings : Settings) (type : String) (x : Field × String) :
    (fieldEvents ({ name := type, keyword := "class" } :: settings.style.scope.toList) x.1
        x.2).filterMap Log.Event.renaming? =
      if IsRenamed x.1 x.2 then [renamingNotice settings type x] else [] := by
  have huncaught : (uncaughtEvents x.1).filterMap Log.Event.renaming? = [] := by
    rw [uncaughtEvents]
    split <;> rfl
  rw [fieldEvents, List.filterMap_append, huncaught, List.append_nil, renamingEvents, siteOf_eq]
  split <;> rfl

theorem filterMap_renaming?_sourceEvents (settings : Settings) {s : Schema}
    (hfields : ∀ m ∈ s.models, (m.fields.map Field.name).Nodup) :
    (sourceEvents settings.style s).filterMap Log.Event.renaming? = s.models.flatMap fun m =>
      (clashes [] (namedFields m.fields)).map (renamingNotice settings m.name) := by
  rw [filterMap_sourceEvents fun _ => rfl]
  refine List.flatMap_congr fun m hm => ?_
  have hgenerating : Log.Event.renaming? (.generating m.name) = none := rfl
  rw [classEvents, List.filterMap_cons, hgenerating, List.filterMap_flatMap,
    clashes_namedFields (hfields m hm), ← flatMap_if]
  refine List.flatMap_congr fun x _ => ?_
  rw [filterMap_renaming?_fieldEvents]
  simp only [decide_eq_true_eq]

/-- The properties of a class are declared, passed to its initializer and assigned to under the names
of its fields. -/
structure UsesNames (style : Style) (m : ObjectType) : Prop where
  declared : Line.scan declaredName? (classLines style m.name m.fields) =
    (storedFields (namedFields m.fields)).map Prod.snd
  passed : style.initializers = true → ∃ members,
    classLines style m.name m.fields = memberLines style m.name (namedFields m.fields) members ∧
      List.Forall₂ (fun x member => member.1.label = x.2 ∧
          ∃ held : Holding, assigned? x.2 member.2 = some (held.assigned x.2 member.1.hasDefault))
        (storedFields (namedFields m.fields)) members

theorem usesNames (style : Style) (m : ObjectType) : UsesNames style m where
  declared := scan_declaredName?_classLines style m.name m.fields
  passed hon := by
    refine ⟨_, classLines_eq_memberLines hon m.name m.fields, ?_⟩
    rw [List.forall₂_map_right_iff, List.forall₂_same]
    intro x _
    refine ⟨rfl, heldAs x.1.type.classified (style.typeNaming.rootName x.1.type), ?_⟩
    exact assigned?_assignment _ _ (propertyOf style x.1 x.2)

/-- A renaming is reported for just those fields whose plain name an earlier property of their class
has, and what is reported is the name that the property then gets, which has the least number behind
the plain name that no earlier property has. All other properties have their plain names, in backticks
if those are reserved, and nothing is reported on them. -/
theorem renamings_reported (settings : Settings) {s : Schema}
    (hfields : ∀ m ∈ s.models, (m.fields.map Field.name).Nodup) (w : Session) :
    (Fitting settings.style w.printer.indent s →
      ∃ code t, source settings.style s w = .ok code t) ∧
    (∀ code t, source settings.style s w = .ok code t →
      code = Line.textOf w.printer.indent (sourceLines settings.style s) ∧
      (∀ m ∈ s.models,
        (classLines settings.style m.name m.fields).map
            Line.deeper^[settings.style.scope.toList.length] <:+:
          sourceLines settings.style s) ∧
      ∃ events, t.events = w.events ++ events ∧
        events.filterMap Log.Event.renaming? = s.models.flatMap fun m =>
          (clashes [] (namedFields m.fields)).map (renamingNotice settings m.name)) ∧
    ∀ m ∈ s.models,
      (∃ scope, Naming.Scope.empty.answers naming (nameRequests m.fields) =
        .ok (((namedFields m.fields).map Prod.snd).map some, scope)) ∧
      UsesNames settings.style m ∧
      ∀ before x after, namedFields m.fields = before ++ x :: after →
        (x ∈ clashes [] (namedFields m.fields) ↔ plainName x.1 ∈ unquotedNames before) ∧
        NamedBehind (unquotedNames before) (plainName x.1) x.2 := by
  refine ⟨fun h => h.source rfl, ?_, ?_⟩
  · intro code t hrun
    obtain ⟨p, n, e⟩ := w
    obtain ⟨-, rfl, rfl⟩ := (gives_source s code t).mp hrun
    refine ⟨rfl, fun m hm => classLines_in_source settings.style hm, ?_⟩
    exact ⟨_, rfl, filterMap_renaming?_sourceEvents settings hfields⟩
  · intro m hm
    refine ⟨⟨_, answers_nameRequests m.fields⟩, usesNames settings.style m, ?_⟩
    intro before x after hsplit
    exact ⟨mem_clashes_iff (hfields m hm) hsplit, namedBehind_namedFields (hfields m hm) hsplit⟩

theorem people_renamings_reported :
    (∀ m ∈ people.models, (m.fields.map Field.name).Nodup) ∧
      ∃ code t, source Settings.default.style people Settings.default.session = .ok code t ∧
        t.events.filterMap Log.Event.renaming? =
          [(.warning, "Field Person.nickName renamed to nickName1: nickName is already declared")] := by
  have hfields : ∀ m ∈ people.models, (m.fields.map Field.name).Nodup := by decide
  obtain ⟨hwritten, hevents, -⟩ := renamings_reported Settings.default hfields
    Settings.default.session
  obtain ⟨code, t, hrun⟩ := hwritten fitting_people
  obtain ⟨-, -, events, happended, hrenamed⟩ := hevents code t hrun
  refine ⟨hfields, code, t, hrun, ?_⟩
  rw [happended, Settings.session, List.filterMap_append, hrenamed]
  decide

end Model

end RealmModels
