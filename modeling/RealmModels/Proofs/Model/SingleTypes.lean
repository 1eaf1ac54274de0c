import Mathlib
import RealmModels.Proofs.Model.Fitting
import RealmModels.Proofs.Model.Inventory
import RealmModels.Report

namespace RealmModels

def textFrom (w : Writing String) (s : Session) : Option String :=
  match w s with
  | .ok text _ => some text
  | .error _ _ => none

namespace Writing

theorem Gives.textFrom_eq_some_iff {w : Writing String} {s t : Session} {C : Prop} {a : String}
    (h : Gives w s C a t) (b : String) : textFrom w s = some b ↔ C ∧ b = a := by
  rw [textFrom]
  cases hw : w s with
  | ok c u =>
    obtain ⟨hC, rfl, rfl⟩ := (h c u).mp hw
    simp [hC, eq_comm]
  | error e u =>
    have hC : ¬ C := fun hC => by simp [h.ok hC] at hw
    simp [hC]

end Writing

namespace Model

open GraphQL Swift Writing

def headSource : Writing String := do
  onPrinter Printer.reset
  header
  return (← get).printer.output

variable {p : Printer} {n : Naming.Scope} {e : List Log.Event} {style : Style}

theorem gives_headSource :
    Gives headSource ⟨p, n, e⟩ ((Printer.fresh p.indent).HasRoom headLines)
      (Line.textOf p.indent headLines) ⟨(Printer.fresh p.indent).putAll headLines, n, e⟩ := by
  have htext : ((Printer.fresh p.indent).putAll headLines).output = Line.textOf p.indent headLines := by
    rw [putAll_headLines]
  have hheader := gives_header (p := .fresh p.indent) (n := n) (e := e)
  rw [← htext]
  exact (gives_reset.then (hheader.seq gives_printed)).congr (and_true _).to_iff

theorem hasRoom_classesLines (q : Printer) (isFirst : Bool) (ms : List ObjectType) :
    q.HasRoom (classesLines style isFirst ms) ↔
      ∀ m ∈ ms, q.HasRoom (classLines style m.name m.fields) := by
  induction ms generalizing isFirst with
  | nil => simp [classesLines, Printer.hasRoom_nil]
  | cons m ms ih =>
    have hblank : q.HasRoom (if isFirst then [] else [.blank]) := by
      split <;> simp [Printer.HasRoom, Line.blank]
    rw [classesLines, Printer.hasRoom_append, Printer.hasRoom_append, ih, List.forall_mem_cons]
    simp only [hblank, true_and]

theorem renderAll_classesLines (i : Indent) (ms : List ObjectType) :
    Line.renderAll i 0 (classesLines style false ms) =
      String.join (ms.map fun m => "\n\n" ++ Line.textOf i (classLines style m.name m.fields)) := by
  induction ms with
  | nil => rfl
  | cons m ms ih =>
    have hlines : classesLines style false (m :: ms) =
        .blank :: (classLines style m.name m.fields ++ classesLines style false ms) := rfl
    have hblank : Line.blank.render i 0 = "" := if_pos rfl
    have hclass : Line.renderAll i 0 (classLines style m.name m.fields) =
        "\n" ++ Line.textOf i (classLines style m.name m.fields) :=
      Line.renderAll_eq_unlines i 0 (classLines_ne_nil _ _)
    have hfeeds : "\n" ++ "" ++ "\n" = "\n\n" := by decide
    rw [hlines, Line.renderAll_cons, Line.renderAll_append, ih, hblank, hclass, List.map_cons,
      String.join_cons, ← hfeeds]
    simp only [String.append_assoc]

theorem forall₂_iff_map {α β : Type} {R : α → β → Prop} {C : α → Prop} {f : α → β} {as : List α}
    (h : ∀ a ∈ as, ∀ b, R a b ↔ C a ∧ b = f a) (bs : List β) :
    List.Forall₂ R as bs ↔ (∀ a ∈ as, C a) ∧ bs = as.map f := by
  induction as generalizing bs with
  | nil => simp
  | cons a as ih =>
    have hrest := ih fun a' ha' => h a' (List.mem_cons_of_mem _ ha')
    rw [List.forall₂_cons_left_iff, List.forall_mem_cons, List.map_cons]
    constructor
    · rintro ⟨b, bs', hb, hbs', rfl⟩
      obtain ⟨ha, rfl⟩ := (h a List.mem_cons_self b).mp hb
      obtain ⟨has, rfl⟩ := (hrest bs').mp hbs'
      exact ⟨⟨ha, has⟩, rfl⟩
    · rintro ⟨⟨ha, has⟩, rfl⟩
      exact ⟨_, _, (h a List.mem_cons_self _).mpr ⟨ha, rfl⟩, (hrest _).mpr ⟨has, rfl⟩, rfl⟩

theorem singleType_iff {t : TypeDef} {m : ObjectType} (ht : t.model? = some m) (w : Session)
    (text : String) :
    textFrom (singleType style t) w = some text ↔
      ((Printer.fresh w.printer.indent).HasRoom (classLines style m.name m.fields) ∧
        CanDeclare style [] (namedFields m.fields)) ∧
      text = Line.textOf w.printer.indent (classLines style m.name m.fields) := by
  obtain ⟨p, n, e⟩ := w
  exact (gives_singleType ht).textFrom_eq_some_iff text

theorem singleTypes_iff (s : Schema) {i : Indent} {c : TypeDef → Session}
    (hc : ∀ t, (c t).printer.indent = i) (parts : List String) :
    List.Forall₂ (fun t part => textFrom (singleType style t) (c t) = some part) s.modelTypes parts ↔
      (∀ m ∈ s.models, (Printer.fresh i).HasRoom (classLines style m.name m.fields) ∧
        CanDeclare style [] (namedFields m.fields)) ∧
      parts = s.models.map fun m => Line.textOf i (classLines style m.name m.fields) := by
  -- condition and text of a class depend on its model alone
  let C (m : ObjectType) : Prop := (Printer.fresh i).HasRoom (classLines style m.name m.fields) ∧
    CanDeclare style [] (namedFields m.fields)
  let f (m : ObjectType) : String := Line.textOf i (classLines style m.name m.fields)
  have hsingle : ∀ t ∈ s.modelTypes, ∀ part,
      textFrom (singleType style t) (c t) = some part ↔ C t.modelOf ∧ part = f t.modelOf := by
    intro t ht part
    rw [singleType_iff (Schema.model?_of_mem ht), hc t]
  rw [forall₂_iff_map hsingle, s.forall_mem_modelTypes C, ← s.map_modelOf, List.map_map]
  rfl

theorem source_iff {s : Schema} (hscope : style.scope = none) (w : Session) (code : String) :
    textFrom (source style s) w = some code ↔
      ((Printer.fresh w.printer.indent).HasRoom headLines ∧
        ∀ m ∈ s.models,
          (Printer.fresh w.printer.indent).HasRoom (classLines style m.name m.fields) ∧
          CanDeclare style [] (namedFields m.fields)) ∧
      code = Line.textOf w.printer.indent headLines ++ String.join (s.models.map fun m =>
        "\n\n" ++ Line.textOf w.printer.indent (classLines style m.name m.fields)) := by
  obtain ⟨p, n, e⟩ := w
  have hlines : sourceLines style s = headLines ++ classesLines style false s.models := by
    rw [sourceLines, modelLines, hscope]
    split
    · next h => rw [List.isEmpty_iff.mp h, classesLines]
    · rfl
  have htext : Line.textOf p.indent (headLines ++ classesLines style false s.models) =
      Line.textOf p.indent headLines ++
        Line.renderAll p.indent 0 (classesLines style false s.models) :=
    Line.textOf_append p.indent ⟨0, notice⟩ _ _
  rw [(gives_source s).textFrom_eq_some_iff code, hscope, hlines, htext, renderAll_classesLines,
    Printer.hasRoom_append, hasRoom_classesLines, Option.toList_none, and_assoc (a := Printer.HasRoom _ _),
    forall₂_and]

theorem headSource_iff (w : Session) (code : String) :
    textFrom headSource w = some code ↔
      (Printer.fresh w.printer.indent).HasRoom headLines ∧
        code = Line.textOf w.printer.indent headLines := by
  obtain ⟨p, n, e⟩ := w
  exact gives_headSource.textFrom_eq_some_iff code

theorem source_iff_of_no_models {s : Schema} (hs : s.models = []) (w : Session) (code : String) :
    textFrom (source style s) w = some code ↔
      (Printer.fresh w.printer.indent).HasRoom headLines ∧
        code = Line.textOf w.printer.indent headLines := by
  obtain ⟨p, n, e⟩ := w
  rw [(gives_source s).textFrom_eq_some_iff code, sourceLines, hs]
  simp

/-- A source without a namespace is the head and, for each type that gets a model, an empty line and
what the type alone is written as; without such types it is the head, whatever the namespace. It opens
one class for every model, and it is written if settings and schema are fitting. -/
theorem source_eq_single_types (settings : Settings) (s : Schema) {a b : Session}
    {c : TypeDef → Session} (hb : b.printer.indent = a.printer.indent)
    (hc : ∀ t, (c t).printer.indent = a.printer.indent) :
    (settings.isOn .namespaceName = false → ∀ code,
      textFrom (source settings.style s) a = some code ↔
        ∃ head parts, textFrom headSource b = some head ∧
          List.Forall₂ (fun t part => textFrom (singleType settings.style t) (c t) = some part)
            s.modelTypes parts ∧
          code = head ++ String.join (parts.map ("\n\n" ++ ·))) ∧
    (s.models = [] → textFrom (source settings.style s) a = textFrom headSource b) ∧
    (∀ code, textFrom (source settings.style s) a = some code →
      code = Line.textOf a.printer.indent (sourceLines settings.style s)) ∧
    Line.scan openedClass? (sourceLines settings.style s) =
      s.modelTypes.map (fun t => t.name ++ ": Object \x7b") ∧
    (metadata settings s).typeCount = s.modelTypes.length ∧
    (Fitting settings.style a.printer.indent s →
      (textFrom (source settings.style s) a).isSome = true) := by
  refine ⟨fun hnamespace code => ?_, fun hs => ?_, fun code hcode => ?_, ?_, ?_, fun hfitting => ?_⟩
  · have hscope : settings.style.scope = none := by
      change settings.scope = none
      rw [Settings.scope, hnamespace]
      rfl
    rw [source_iff hscope]
    constructor
    · rintro ⟨⟨hhead, hclasses⟩, rfl⟩
      refine ⟨_, _, (headSource_iff b _).mpr ⟨hb ▸ hhead, rfl⟩,
        (singleTypes_iff s hc _).mpr ⟨hclasses, rfl⟩, ?_⟩
      rw [hb, List.map_map]
      rfl
    · rintro ⟨head, parts, hhead, hparts, rfl⟩
      obtain ⟨hroom, rfl⟩ := (headSource_iff b head).mp hhead
      obtain ⟨hclasses, rfl⟩ := (singleTypes_iff s hc parts).mp hparts
      rw [hb, List.map_map]
      exact ⟨⟨hb ▸ hroom, hclasses⟩, rfl⟩
  · refine Option.ext fun code => ?_
    rw [source_iff_of_no_models hs, headSource_iff, hb]
  · obtain ⟨p, n, e⟩ := a
    exact (((gives_source s).textFrom_eq_some_iff code).mp hcode).2
  · rw [scan_sourceLines (fun _ h => h.openedClass?) (isQuiet_namespace settings), ← s.map_modelOf,
      List.flatMap_map, List.map_eq_flatMap]
    refine List.flatMap_congr fun t _ => ?_
    rw [scan_openedClass?_classLines, t.modelOf_name]
  · change s.models.length = _
    rw [← s.map_modelOf, List.length_map]
  · obtain ⟨code, t, hrun⟩ := hfitting.source (w := a) rfl
    rw [textFrom, hrun]
    rfl

theorem people_source_eq_single_types :
    ∃ head part,
      textFrom headSource Settings.default.session = some head ∧
      textFrom (singleType Settings.default.style person) Settings.default.session = some part ∧
      textFrom (source Settings.default.style people) Settings.default.session =
        some (head ++ "\n\n" ++ part) := by
  obtain ⟨hsource, -, -, -, -, hwritten⟩ := source_eq_single_types Settings.default people
    (a := Settings.default.session) (b := Settings.default.session)
    (c := fun _ => Settings.default.session) rfl (fun _ => rfl)
  obtain ⟨code, hcode⟩ := Option.isSome_iff_exists.mp (hwritten fitting_people)
  obtain ⟨head, parts, hhead, hparts, hjoin⟩ := (hsource (by decide) code).mp hcode
  have hmodels : people.modelTypes = [person] := by decide
  rw [hmodels] at hparts
  obtain ⟨part, rest, hpart, hrest, rfl⟩ := List.forall₂_cons_left_iff.mp hparts
  obtain rfl := List.forall₂_nil_left_iff.mp hrest
  refine ⟨head, part, hhead, hpart, ?_⟩
  rw [hcode, hjoin, String.append_assoc]
  rfl

end Model

end RealmModels
