import Mathlib
import RealmModels.Proofs.Model.Indentation
import RealmModels.Proofs.Model.Marks
import RealmModels.Proofs.Model.Memberwise

/-!
Comments and attributes only add lines. A source without them has the same other lines, in the same
order and with the same indentation.
-/

namespace RealmModels

def Style.unmarked (style : Style) : Style := { style with comments := false, deprecations := false }

def Settings.unmarked (settings : Settings) : Settings :=
  (settings.set .addComments (.bool false)).set .deprecations (.bool false)

namespace Model

open GraphQL Swift Writing
open Text (bare)

def unmarkedLines (code : String) : List String :=
  (Text.lines code).filter fun line => !isMark (bare line)

inductive AddsMarks : List Line → List Line → Prop
  | nil : AddsMarks [] []
  | keep {ls ls' : List Line} (l : Line) (h : AddsMarks ls ls') : AddsMarks (l :: ls) (l :: ls')
  | mark {ls ls' : List Line} {l : Line} (hl : isMark l.text = true) (h : AddsMarks ls ls') :
    AddsMarks ls (l :: ls')

namespace AddsMarks

variable {ls ls' ms ms' : List Line}

theorem refl (ls : List Line) : AddsMarks ls ls := by
  induction ls with
  | nil => exact nil
  | cons l ls ih => exact ih.keep l

theorem append (h : AddsMarks ls ls') (h' : AddsMarks ms ms') : AddsMarks (ls ++ ms) (ls' ++ ms') := by
  induction h with
  | nil => exact h'
  | keep l _ ih => exact ih.keep l
  | mark hl _ ih => exact ih.mark hl

theorem marks (hls : ∀ l ∈ ls, isMark l.text = true) : AddsMarks [] ls := by
  induction ls with
  | nil => exact nil
  | cons l ls ih =>
    obtain ⟨hl, hls⟩ := List.forall_mem_cons.mp hls
    exact (ih hls).mark hl

theorem flatMap {α : Type} {f g : α → List Line} {as : List α} (h : ∀ a ∈ as, AddsMarks (f a) (g a)) :
    AddsMarks (as.flatMap f) (as.flatMap g) := by
  induction as with
  | nil => exact nil
  | cons a as ih =>
    obtain ⟨ha, has⟩ := List.forall_mem_cons.mp h
    exact ha.append (ih has)

theorem map_deeper (h : AddsMarks ls ls') : AddsMarks (ls.map Line.deeper) (ls'.map Line.deeper) := by
  induction h with
  | nil => exact nil
  | keep l _ ih => exact ih.keep l.deeper
  | mark hl _ ih => exact ih.mark hl

theorem block (header : String) (h : AddsMarks ls ls') :
    AddsMarks (bracedLines header ls) (bracedLines header ls') :=
  (h.map_deeper.append (refl _)).keep _

theorem sublist (h : AddsMarks ls ls') : ls.Sublist ls' := by
  induction h with
  | nil => exact List.Sublist.slnil
  | keep l _ ih => exact ih.cons_cons l
  | mark _ _ ih => exact ih.cons _

theorem filter_eq (h : AddsMarks ls ls') :
    ls'.filter (fun l => !isMark l.text) = ls.filter fun l => !isMark l.text := by
  induction h with
  | nil => rfl
  | keep l _ ih => rw [List.filter_cons, List.filter_cons, ih]
  | mark hl _ ih => simpa [List.filter_cons, hl] using ih

end AddsMarks

variable {style : Style}

theorem markLines_unmarked (style : Style) (f : Field) : markLines style.unmarked f = [] := by
  have hnote : shownDescription style.unmarked f = .absent := rfl
  rw [markLines, hnote, docLines_absent, List.nil_append]
  exact if_neg fun h => Bool.false_ne_true h.1

theorem addsMarks_fieldLines (style : Style) (f : Field) (name : String) :
    AddsMarks (fieldLines style.unmarked f name) (fieldLines style f name) := by
  rw [fieldLines, fieldLines, markLines_unmarked]
  exact (AddsMarks.marks fun _ hl => isMark_of_mem_markLines hl).append (.refl _)

theorem initializerLines_unmarked (style : Style) (xs : List (Field × String)) :
    initializerLines style.unmarked xs = initializerLines style xs := by
  rw [initializerLines, initializerLines, memberwiseLines_eq, memberwiseLines_eq]
  rfl

theorem addsMarks_bodyLines (style : Style) (xs : List (Field × String)) :
    AddsMarks (bodyLines style.unmarked xs) (bodyLines style xs) := by
  apply AddsMarks.append (.flatMap fun x _ => addsMarks_fieldLines style x.1 x.2)
  rw [initializerLines_unmarked]
  exact .refl _

theorem addsMarks_classesLines (style : Style) (isFirst : Bool) (ms : List ObjectType) :
    AddsMarks (classesLines style.unmarked isFirst ms) (classesLines style isFirst ms) := by
  induction ms generalizing isFirst with
  | nil => exact .nil
  | cons m ms ih =>
    have hclass : AddsMarks (classLines style.unmarked m.name m.fields)
        (classLines style m.name m.fields) := (addsMarks_bodyLines style _).block _
    exact ((AddsMarks.refl _).append hclass).append (ih false)

theorem addsMarks_sourceLines (style : Style) (s : Schema) :
    AddsMarks (sourceLines style.unmarked s) (sourceLines style s) := by
  have hmodels : AddsMarks (modelLines style.unmarked s.models) (modelLines style s.models) := by
    have hscope : style.unmarked.scope = style.scope := rfl
    rw [modelLines, modelLines, hscope]
    cases style.scope with
    | none => exact addsMarks_classesLines style false s.models
    | some frame =>
      exact (AddsMarks.refl _).append ((addsMarks_classesLines style true s.models).block _)
  apply (AddsMarks.refl _).append
  split
  · exact .nil
  · exact hmodels

theorem isMark_of_apart {start : String} (hcomment : Apart "///" start)
    (hattribute : Apart "@available(" start) (rest : String) : isMark (start ++ rest) = false :=
  isMark_of_opens (Opens.of_mem List.mem_cons_self rest) (List.forall_mem_singleton.mpr hcomment)
    (List.forall_mem_singleton.mpr hattribute)

def NoMarks (ls : List Line) : Prop := ∀ l ∈ ls, isMark l.text = false

namespace NoMarks

variable {ls ls' : List Line}

theorem append (h : NoMarks ls) (h' : NoMarks ls') : NoMarks (ls ++ ls') :=
  List.forall_mem_append.mpr ⟨h, h'⟩

theorem block {header : String} (hheader : isMark (header ++ " \x7b") = false) (h : NoMarks ls) :
    NoMarks (bracedLines header ls) :=
  forall_bracedLines (P := fun text => isMark text = false) (by decide) hheader h

end NoMarks

theorem noMarks_initializerLines (style : Style) (xs : List (Field × String)) :
    NoMarks (initializerLines style xs) := by
  intro l hl
  rcases opensInitializer_initializerLines style xs l hl with hempty | hopens
  · rw [hempty]
    decide
  · exact isMark_of_opens hopens (by decide) (by decide)

theorem noMarks_bodyLines (style : Style) (xs : List (Field × String)) :
    NoMarks (bodyLines style.unmarked xs) := by
  apply NoMarks.append
  · intro l hl
    obtain ⟨x, -, hx⟩ := List.mem_flatMap.mp hl
    rw [fieldLines, markLines_unmarked] at hx
    exact isMark_of_mem_propertyLines hx
  · split
    · exact noMarks_initializerLines _ xs
    · exact List.forall_mem_nil _

theorem noMarks_classesLines (style : Style) (isFirst : Bool) (ms : List ObjectType) :
    NoMarks (classesLines style.unmarked isFirst ms) := by
  induction ms generalizing isFirst with
  | nil => exact List.forall_mem_nil _
  | cons m ms ih =>
    have hclass : NoMarks (classLines style.unmarked m.name m.fields) := by
      refine NoMarks.block ?_ (noMarks_bodyLines style _)
      rw [classHeader_brace]
      exact isMark_of_apart (by decide) (by decide) _
    refine NoMarks.append (NoMarks.append ?_ hclass) (ih false)
    split
    · exact List.forall_mem_nil _
    · exact List.forall_mem_singleton.mpr (by decide)

theorem noMarks_sourceLines (hscope : style.scope = none) (s : Schema) :
    NoMarks (sourceLines style.unmarked s) := by
  have hhead : NoMarks headLines := by
    unfold NoMarks
    decide
  have hnone : style.unmarked.scope = none := hscope
  apply hhead.append
  rw [modelLines, hnone]
  split
  · exact List.forall_mem_nil _
  · exact noMarks_classesLines style false s.models

theorem Declarable.unmarked {f : Field} (h : Declarable style f) : Declarable style.unmarked f :=
  ⟨h.type, rfl, fun hon => absurd hon Bool.false_ne_true⟩

variable {settings : Settings} {room : Option ℕ} {s : Schema} {w w' : Session}

theorem textFrom_source_unmarked (hw : w.printer.indent = settings.indent room)
    (hw' : w'.printer.indent = settings.indent room)
    (h : (textFrom (source settings.style s) w).isSome = true) :
    (textFrom (source settings.unmarked.style s) w').isSome = true := by
  obtain ⟨code, hcode⟩ := Option.isSome_iff_exists.mp h
  obtain ⟨⟨hroom, hcan⟩, -⟩ := (textFrom_source_iff hw code).mp hcode
  have hsublist := (addsMarks_sourceLines settings.style s).sublist
  refine Option.isSome_iff_exists.mpr ⟨_, (textFrom_source_iff hw' _).mpr ⟨⟨?_, ?_⟩, rfl⟩⟩
  · exact fun l hl => hroom l (hsublist.subset hl)
  · exact fun m hm x hx => ⟨(hcan m hm x hx).1.unmarked, (hcan m hm x hx).2⟩

theorem filter_rendered {ls : List Line} {i : Indent} (h : Laid ls) :
    (ls.map (Line.render i 0)).filter (fun line => !isMark (bare line)) =
      (ls.filter fun l => !isMark l.text).map (Line.render i 0) := by
  rw [List.filter_map]
  refine congrArg _ (List.filter_congr fun l hl => ?_)
  rw [Function.comp_apply, h.bare_render hl]

/-- Comments and attributes only add lines of their own. When those are deleted, a source has the
lines that it has without them, and those are in it in any case. Without them and without a namespace,
which has a comment of its own, there is nothing to delete. -/
theorem marks_only_add_lines (hspelled : s.Spelled) (hsettings : OneLineSettings settings)
    (hw : w.printer.indent = settings.indent room) (hw' : w'.printer.indent = settings.indent room) :
    (∀ code, textFrom (source settings.style s) w = some code →
      ∃ plain, textFrom (source settings.unmarked.style s) w' = some plain ∧
        (Text.lines plain).Sublist (Text.lines code) ∧
        unmarkedLines code = unmarkedLines plain) ∧
    (settings.isOn .namespaceName = false →
      ∀ plain, textFrom (source settings.unmarked.style s) w' = some plain →
        ∀ line ∈ Text.lines plain, isMark (bare line) = false) ∧
    (Fitting settings.style (settings.indent room) s →
      (textFrom (source settings.style s) w).isSome = true) := by
  have hplain : OneLineSettings settings.unmarked :=
    ⟨hsettings.namespaceName, hsettings.customPrefix⟩
  have hadds := addsMarks_sourceLines settings.style s
  refine ⟨?_, ?_, ?_⟩
  · intro code hcode
    have hwritten := textFrom_source_unmarked hw hw' (Option.isSome_iff_exists.mpr ⟨code, hcode⟩)
    obtain ⟨plain, hplaincode⟩ := Option.isSome_iff_exists.mp hwritten
    obtain ⟨hlines, -⟩ := lines_of_source hspelled hsettings hw hcode
    obtain ⟨hplainlines, -⟩ := lines_of_source hspelled hplain hw' hplaincode
    refine ⟨plain, hplaincode, ?_, ?_⟩
    · rw [hlines, hplainlines]
      exact hadds.sublist.map _
    · rw [unmarkedLines, unmarkedLines, hlines, hplainlines,
        filter_rendered (laid_sourceLines _ hspelled), filter_rendered (laid_sourceLines _ hspelled),
        hadds.filter_eq]
      rfl
  · intro hoff plain hplaincode line hline
    obtain ⟨hlines, -⟩ := lines_of_source hspelled hplain hw' hplaincode
    have hscope : settings.style.scope = none := by
      change settings.scope = none
      rw [Settings.scope, hoff]
      rfl
    rw [hlines] at hline
    obtain ⟨l, hl, rfl⟩ := List.mem_map.mp hline
    rw [(laid_sourceLines _ hspelled).bare_render hl]
    exact noMarks_sourceLines hscope s l hl
  · intro hfits
    obtain ⟨code, t, hcode⟩ := hfits.source hw
    rw [textFrom, hcode]
    rfl

theorem people_marks_only_add_lines :
    people.Spelled ∧ OneLineSettings Settings.default ∧
      ∃ code plain,
        textFrom (source Settings.default.style people) Settings.default.session = some code ∧
        textFrom (source Settings.default.unmarked.style people) Settings.default.session =
          some plain ∧
        unmarkedLines code = unmarkedLines plain ∧
        ∀ line ∈ Text.lines plain, isMark (bare line) = false := by
  have hsettings : OneLineSettings Settings.default := ⟨by decide, by decide⟩
  have hw : Settings.default.session.printer.indent = Settings.default.indent := rfl
  obtain ⟨hmarks, hnone, hwritten⟩ := marks_only_add_lines spelled_people hsettings hw hw
  obtain ⟨code, hcode⟩ := Option.isSome_iff_exists.mp (hwritten fitting_people)
  obtain ⟨plain, hplain, -, hlines⟩ := hmarks code hcode
  exact ⟨spelled_people, hsettings, code, plain, hcode, hplain, hlines, hnone (by decide) plain hplain⟩

end Model

end RealmModels
