import Mathlib
import RealmModels.Proofs.Model.SingleLines
import RealmModels.Proofs.Model.SingleTypes
import RealmModels.Proofs.Text.Ends

/-!
With a namespace the same models are written, one level deeper and behind an opening line.
-/

namespace RealmModels

namespace Line

theorem renderAll_inBlock {i : Indent} {ls : List Line} (hne : ls ≠ [])
    (hlines : ∀ l ∈ ls, Text.OneLine l.text) (hfits : ∀ l ∈ ls, l.text ≠ "" → i.Fits (l.depth + 1)) :
    renderAll i 0 (ls.map deeper) = "\n" ++ Text.indented i.unit (textOf i ls) := by
  have hmap : ls.map (render i 0) ≠ [] := by simpa using hne
  have hrendered : ∀ text ∈ ls.map (render i 0), Text.OneLine text :=
    List.forall_mem_map.mpr fun l hl => oneLine_render (hlines l hl) 0
  rw [renderAll_deeper, renderAll_eq_unlines i 1 hne, Text.indented, textOf,
    Text.lines_unlines hmap hrendered, List.map_map]
  congr 2
  apply List.map_congr_left
  intro l hl
  exact render_one (hfits l hl)

end Line

namespace Model

open GraphQL Swift Writing
open Text (OneLine)

variable {style : Style}

def namespaceFrame (name : String) : Frame := { name := name, keyword := "enum" }

def namespaced (style : Style) (name : String) : Style :=
  { style with scope := some (namespaceFrame name) }

theorem style_namespaced (settings : Settings) {name : String} (hname : name ≠ "") :
    (settings.set .namespaceName (.str name)).style = namespaced settings.style name := by
  have hon : (settings.set .namespaceName (.str name)).isOn .namespaceName = true :=
    bne_iff_ne.mpr hname
  have hscope : (settings.set .namespaceName (.str name)).scope = some (namespaceFrame name) := by
    rw [Settings.scope, hon]
    rfl
  rw [Settings.style, hscope]
  rfl

theorem classesLines_namespaced (style : Style) (name : String) (isFirst : Bool)
    (ms : List ObjectType) :
    classesLines (namespaced style name) isFirst ms = classesLines style isFirst ms := by
  induction ms generalizing isFirst with
  | nil => rfl
  | cons m ms ih =>
    rw [classesLines, ih, classesLines]
    rfl

section

variable {name : String} (hname : name ≠ "") (hline : OneLine name)
  (hstart : ∀ c ∈ name.toList.head?, Text.isBlank c = false)
include hname hline hstart

theorem documentation_namespace :
    documentation (name ++ " namespace") = ["/// " ++ name ++ " namespace"] := by
  have hend : (name ++ " namespace").toList = name.toList ++ " namespac".toList ++ ['e'] := by
    rw [String.toList_append, List.append_assoc]
    rfl
  have htrim : Text.trim (name ++ " namespace").toList = (name ++ " namespace").toList := by
    rw [hend]
    apply Text.trim_append _ (by decide)
    intro c hc
    have hne : name.toList ≠ [] := by simpa using hname
    rw [List.head?_append_of_ne_nil _ hne] at hc
    exact hstart c hc
  have hcut : Text.cutAt '\n' (name ++ " namespace").toList = [(name ++ " namespace").toList] :=
    Text.cutAt_of_not_mem (hline.append (by decide))
  have hkept : [(name ++ " namespace").toList].filter (!·.isEmpty) = [(name ++ " namespace").toList] :=
    List.filter_eq_self.mpr (by simp)
  rw [documentation, hcut, List.map_singleton, htrim, hkept, List.map_singleton,
    String.ofList_toList, String.append_assoc]

theorem modelLines_namespace (style : Style) (ms : List ObjectType) :
    modelLines (namespaced style name) ms =
      .blank :: ⟨0, "/// " ++ name ++ " namespace"⟩ ::
        bracedLines ("public enum " ++ name) (classesLines style true ms) := by
  have hdoc : docLines (namespaceHeader (namespaceFrame name)).description =
      [⟨0, "/// " ++ name ++ " namespace"⟩] := by
    have hwords : shownWords (namespaceHeader (namespaceFrame name)).description =
        name ++ " namespace" := rfl
    rw [docLines, hwords, documentation_namespace hname hline hstart]
    rfl
  have hheader : declarationHeader (namespaceFrame name) (namespaceHeader (namespaceFrame name)) =
      "public enum " ++ name := by
    have hpublic : wrap "" (joinParts " " ["public"]) " " ++ "enum" ++ " " = "public enum " := by decide
    have hnothing : wrap ": " (joinParts ", " []) "" = "" := by decide
    unfold declarationHeader namespaceHeader namespaceFrame
    dsimp only
    rewrite [hpublic, hnothing, String.append_empty]
    rfl
  have hscope : (namespaced style name).scope = some (namespaceFrame name) := rfl
  rw [modelLines, hscope]
  dsimp only
  rw [hdoc, hheader, classesLines_namespaced]
  rfl

end

theorem textOf_head_append (i : Indent) {ls : List Line} (hne : ls ≠ []) :
    Line.textOf i (headLines ++ .blank :: ls) =
      Line.textOf i headLines ++ "\n\n" ++ Line.textOf i ls := by
  have happend := Line.textOf_append i ⟨0, notice⟩ headLines.tail (.blank :: ls)
  have hlines : headLines = ⟨0, notice⟩ :: headLines.tail := rfl
  have hblank : Line.blank.render i 0 = "" := if_pos rfl
  have hfeeds : "\n" ++ "" ++ "\n" = "\n\n" := by decide
  rw [← hlines] at happend
  rw [happend, Line.renderAll_cons, hblank, Line.renderAll_eq_unlines i 0 hne, ← hfeeds, Line.textOf]
  simp only [String.append_assoc]
  rfl

def inNamespace (name unit body : String) : String :=
  "/// " ++ name ++ " namespace\n" ++ "public enum " ++ name ++ " \x7b\n" ++
    Text.indented unit body ++ "\n\x7d"

theorem textOf_inNamespace {i : Indent} {ls : List Line} (name : String) (hne : ls ≠ [])
    (hlines : ∀ l ∈ ls, OneLine l.text) (hfits : ∀ l ∈ ls, l.text ≠ "" → i.Fits (l.depth + 1)) :
    Line.textOf i (⟨0, "/// " ++ name ++ " namespace"⟩ :: bracedLines ("public enum " ++ name) ls) =
      inNamespace name i.unit (Line.textOf i ls) := by
  have hnamespace : " namespace\n" = " namespace" ++ "\n" := by decide
  have hopen : " \x7b\n" = " \x7b" ++ "\n" := by decide
  have hclose : "\n\x7d" = "\n" ++ "\x7d" := by decide
  have hblock := Line.renderAll_inBlock hne hlines hfits
  unfold inNamespace
  rewrite [hnamespace, hopen, hclose, Line.textOf_cons, Line.render_zero, bracedLines,
    Line.renderAll_cons, Line.render_zero, Line.renderAll_append, hblock, Line.renderAll_cons,
    Line.render_zero, Line.renderAll_nil]
  simp only [String.append_assoc, String.append_empty]

theorem sourceLines_plain {s : Schema} (hscope : style.scope = none) (hmodels : s.models ≠ []) :
    sourceLines style s = headLines ++ .blank :: classesLines style true s.models := by
  obtain ⟨m, ms, hms⟩ := List.exists_cons_of_ne_nil hmodels
  rw [sourceLines, modelLines, hscope, hms]
  rfl

theorem canDeclare_namespace (name : String) (xs : List (Field × String)) :
    CanDeclare (namespaced style name) [namespaceFrame name] xs ↔
      CanDeclare style [] xs := by
  have hdeclarable (f : Field) :
      Declarable (namespaced style name) f ↔ Declarable style f :=
    ⟨fun h => ⟨h.type, h.description, h.reason⟩, fun h => ⟨h.type, h.description, h.reason⟩⟩
  have htext : [namespaceFrame name].all (·.isText) = true := rfl
  simp only [CanDeclare, hdeclarable, htext, List.all_nil]

theorem sourceLines_namespaced {s : Schema} {name : String} (hname : name ≠ "") (hline : OneLine name)
    (hstart : ∀ c ∈ name.toList.head?, Text.isBlank c = false) (hmodels : s.models ≠ []) :
    sourceLines (namespaced style name) s =
      headLines ++ .blank :: ⟨0, "/// " ++ name ++ " namespace"⟩ ::
        bracedLines ("public enum " ++ name) (classesLines style true s.models) := by
  have hmodels : s.models.isEmpty = false := List.isEmpty_eq_false_iff.mpr hmodels
  rw [sourceLines, hmodels, modelLines_namespace hname hline hstart]
  rfl

theorem textFrom_source_iff {s : Schema} {i : Indent} {w : Session} (hw : w.printer.indent = i)
    (code : String) :
    textFrom (source style s) w = some code ↔
      ((Printer.fresh i).HasRoom (sourceLines style s) ∧
        ∀ m ∈ s.models, CanDeclare style style.scope.toList (namedFields m.fields)) ∧
      code = Line.textOf i (sourceLines style s) := by
  obtain ⟨p, n, e⟩ := w
  obtain rfl : p.indent = i := hw
  exact (gives_source s).textFrom_eq_some_iff code

theorem allOneLine_models {s : Schema} (hspelled : s.Spelled)
    (hstarts : ∀ start ∈ style.typeNaming.customPrefix, OneLine start)
    (hcan : ∀ m ∈ s.models, CanDeclare style [] (namedFields m.fields)) :
    AllOneLine (classesLines style true s.models) :=
  allOneLine_modelClasses hspelled hstarts (fun m hm x hx => (hcan m hm x hx).1.type) true

/-- There can be white space in front of the lines of the classes of a schema one level deeper. -/
def RoomInside (style : Style) (i : Indent) (s : Schema) : Prop :=
  ∀ l ∈ classesLines style true s.models, l.text ≠ "" → i.Fits (l.depth + 1)

theorem roomInside_of_fits {i : Indent} (h : i.Fits 3) (s : Schema) : RoomInside style i s := by
  intro l hl _
  have hdepth : l.depth ≤ 2 := within_classesLines style true s.models l hl
  exact Indent.fits_mono (Nat.succ_le_succ hdepth) h

theorem hasRoom_namespaced_iff {i : Indent} {name : String} {s : Schema} :
    (Printer.fresh i).HasRoom (headLines ++ .blank :: ⟨0, "/// " ++ name ++ " namespace"⟩ ::
        bracedLines ("public enum " ++ name) (classesLines style true s.models)) ↔
      (Printer.fresh i).HasRoom (headLines ++ .blank :: classesLines style true s.models) ∧
        RoomInside style i s := by
  have hblank : Line.blank.text ≠ "" → i.Fits (0 + Line.blank.depth) := fun h => absurd rfl h
  simp only [Printer.hasRoom_append, Printer.hasRoom_cons, bracedLines]
  constructor
  · rintro ⟨hhead, -, -, -, hinside, -⟩
    have hinside : RoomInside style i s := by
      intro l hl htext
      have hdeeper := hinside l.deeper (List.mem_map_of_mem hl) htext
      simpa [Printer.fresh, Line.deeper] using hdeeper
    refine ⟨⟨hhead, hblank, fun l hl htext => ?_⟩, hinside⟩
    apply Indent.fits_mono _ (hinside l hl htext)
    exact (Nat.zero_add l.depth).trans_le (Nat.le_succ l.depth)
  · rintro ⟨⟨hhead, -⟩, hinside⟩
    -- the lines around the classes are as deep as those of the head
    have hmargin : i.Fits 0 := hhead ⟨0, notice⟩ List.mem_cons_self (by decide)
    refine ⟨hhead, hblank, fun _ => hmargin, fun _ => hmargin, ?_, fun _ => hmargin,
      Printer.hasRoom_nil _⟩
    intro l' hl' htext
    obtain ⟨l, hl, rfl⟩ := List.mem_map.mp hl'
    simpa [Printer.fresh, Line.deeper] using hinside l hl htext

/-- Under a namespace the models are the same text, indented by one level, between its opening and a
brace. They are written there just if they are written without it and there is room for that level. -/
theorem namespace_wraps (settings : Settings) {s : Schema} {name : String} (hmodels : s.models ≠ [])
    (hspelled : s.Spelled) (hstarts : ∀ start ∈ settings.text? .customPrefix, OneLine start)
    (hname : name ≠ "") (hline : OneLine name)
    (hstart : ∀ c ∈ name.toList.head?, Text.isBlank c = false)
    (hoff : settings.isOn .namespaceName = false) {room : Option ℕ} {a b c : Session}
    (ha : a.printer.indent = settings.indent room) (hb : b.printer.indent = settings.indent room)
    (hc : c.printer.indent = settings.indent room) :
    (∀ code, textFrom (source (settings.set .namespaceName (.str name)).style s) a = some code →
      ∃ head body, textFrom headSource b = some head ∧
        body = Line.textOf (settings.indent room) (classesLines settings.style true s.models) ∧
        textFrom (source settings.style s) c = some (head ++ "\n\n" ++ body) ∧
        code = head ++ "\n\n" ++ inNamespace name settings.indent.unit body) ∧
    ((textFrom (source (settings.set .namespaceName (.str name)).style s) a).isSome = true ↔
      (textFrom (source settings.style s) c).isSome = true ∧
        RoomInside settings.style (settings.indent room) s) ∧
    ((settings.indent room).Fits 3 → RoomInside settings.style (settings.indent room) s) := by
  have hscope : settings.style.scope = none := by
    change settings.scope = none
    rw [Settings.scope, hoff]
    rfl
  have hcan_iff : (∀ m ∈ s.models, CanDeclare (namespaced settings.style name)
      [namespaceFrame name] (namedFields m.fields)) ↔
      ∀ m ∈ s.models, CanDeclare settings.style [] (namedFields m.fields) :=
    forall₂_congr fun m _ => canDeclare_namespace name (namedFields m.fields)
  have hclasses : classesLines settings.style true s.models ≠ [] := by
    obtain ⟨m, ms, hms⟩ := List.exists_cons_of_ne_nil hmodels
    rw [hms]
    exact List.cons_ne_nil _ _
  have hplain (code : String) : textFrom (source settings.style s) c = some code ↔ _ :=
    textFrom_source_iff hc code
  have hinside (code : String) :
      textFrom (source (namespaced settings.style name) s) a = some code ↔ _ :=
    textFrom_source_iff ha code
  rw [sourceLines_plain hscope hmodels, hscope] at hplain
  rw [sourceLines_namespaced hname hline hstart hmodels, hasRoom_namespaced_iff] at hinside
  rw [style_namespaced settings hname]
  refine ⟨?_, ?_, fun h => roomInside_of_fits h s⟩
  · intro code hcode
    obtain ⟨⟨⟨hroom, hfits⟩, hcan⟩, rfl⟩ := (hinside code).mp hcode
    have hcan := hcan_iff.mp hcan
    have hhead := ((Printer.hasRoom_append _ _ _).mp hroom).1
    have hlines := allOneLine_models hspelled hstarts hcan
    refine ⟨Line.textOf (settings.indent room) headLines, _, ?_, rfl, ?_, ?_⟩
    · exact (headSource_iff b _).mpr ⟨hb ▸ hhead, by rw [hb]⟩
    · rw [hplain, textOf_head_append _ hclasses]
      exact ⟨⟨hroom, hcan⟩, rfl⟩
    · rw [textOf_head_append _ (List.cons_ne_nil _ _), textOf_inNamespace name hclasses hlines hfits,
        settings.unit_indent room]
  · rw [Option.isSome_iff_exists, Option.isSome_iff_exists]
    constructor
    · rintro ⟨code, hcode⟩
      obtain ⟨⟨⟨hroom, hfits⟩, hcan⟩, -⟩ := (hinside code).mp hcode
      exact ⟨⟨_, (hplain _).mpr ⟨⟨hroom, hcan_iff.mp hcan⟩, rfl⟩⟩, hfits⟩
    · rintro ⟨⟨plain, hcode⟩, hfits⟩
      obtain ⟨⟨hroom, hcan⟩, -⟩ := (hplain plain).mp hcode
      exact ⟨_, (hinside _).mpr ⟨⟨⟨hroom, hfits⟩, hcan_iff.mpr hcan⟩, rfl⟩⟩

theorem people_namespace_wraps :
    ∃ head body,
      textFrom headSource Settings.default.session = some head ∧
      textFrom (source Settings.default.style people) Settings.default.session =
        some (head ++ "\n\n" ++ body) ∧
      textFrom (source (Settings.default.set .namespaceName (.str "Models")).style people)
          Settings.default.session =
        some (head ++ "\n\n" ++ inNamespace "Models" "  " body) := by
  have hspelled : people.Spelled := ⟨by decide, by decide⟩
  have hmodels : people.models ≠ [] := List.ne_nil_of_mem person_mem_models
  have hname : "Models" ≠ "" := by decide
  have hstart : ∀ c ∈ "Models".toList.head?, Text.isBlank c = false := by
    have hM : Text.isBlank 'M' = false := by decide
    simpa using hM
  obtain ⟨hwraps, hwritten, hroom⟩ := namespace_wraps Settings.default hmodels hspelled (by decide)
    hname (by decide) hstart (by decide)
    (Settings.default.session_indent none) (Settings.default.session_indent none)
    (Settings.default.session_indent none)
  obtain ⟨plain, t, hplain⟩ := fitting_people.source (w := Settings.default.session) rfl
  have htext : textFrom (source Settings.default.style people) Settings.default.session = some plain := by
    rw [textFrom, hplain]
  have hinside := hwritten.mpr ⟨Option.isSome_iff_exists.mpr ⟨plain, htext⟩, hroom fitting_people.indent⟩
  obtain ⟨code, hcode⟩ := Option.isSome_iff_exists.mp hinside
  obtain ⟨head, body, hhead, -, hbody, rfl⟩ := hwraps code hcode
  exact ⟨head, body, hhead, hbody, hcode⟩

def keyedPebbles : Schema where
  types := [⟨"Pebble", .object [] [⟨"id", .nonNull (.named ⟨"ID", .scalar⟩), [], .absent, .absent⟩]⟩]

def barelyCounted : Settings := Settings.default.set .indentSize (.int (-4611686018427387904))

theorem keyedPebbles_have_no_room_inside :
    keyedPebbles.models ≠ [] ∧ keyedPebbles.Spelled ∧
    (textFrom (source barelyCounted.style keyedPebbles) barelyCounted.session).isSome = true ∧
    textFrom (source (barelyCounted.set .namespaceName (.str "API")).style keyedPebbles)
      barelyCounted.session = none := by
  refine ⟨by decide, ⟨by decide, by decide⟩, ?_, ?_⟩
  · decide +kernel
  · decide +kernel

end Model

end RealmModels
