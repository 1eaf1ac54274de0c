import Mathlib
import RealmModels.Proofs.Model.Namespace
import RealmModels.Proofs.Model.SourceLayout

/-!
The indentation of a source: each line stands as deep as braces are open around it, and how a level is
written changes nothing but the white space.
-/

namespace RealmModels

namespace Settings

def withIndent (settings : Settings) (size useTabs : Json) : Settings :=
  (settings.set .indentSize size).set .useTabs useTabs

theorem style_withIndent (settings : Settings) (size useTabs : Json) :
    (settings.withIndent size useTabs).style = settings.style := rfl

end Settings

namespace Model

open GraphQL Swift Writing
open Text (OneLine bare depths?)

variable {settings : Settings} {room : Option ℕ} {s : Schema} {w : Session} {code : String}

structure OneLineSettings (settings : Settings) : Prop where
  namespaceName : ∀ frame ∈ settings.scope, OneLine frame.name
  customPrefix : ∀ start ∈ settings.text? .customPrefix, OneLine start

theorem lines_textOf_sourceLines (hspelled : s.Spelled) (hsettings : OneLineSettings settings)
    (hcan : ∀ m ∈ s.models,
      CanDeclare settings.style settings.style.scope.toList (namedFields m.fields)) (i : Indent) :
    Text.lines (Line.textOf i (sourceLines settings.style s)) =
      (sourceLines settings.style s).map (Line.render i 0) := by
  have hframe : ∀ frame ∈ settings.style.scope, OneLine frame.keyword ∧ OneLine frame.name := by
    intro frame hframe
    rw [keyword_of_mem_scope hframe]
    exact ⟨by decide, hsettings.namespaceName frame hframe⟩
  have hlines := allOneLine_sourceLines hspelled hframe hsettings.customPrefix
    fun m hm x hx => (hcan m hm x hx).1.type
  apply Text.lines_unlines
  · exact List.cons_ne_nil _ _
  · exact List.forall_mem_map.mpr fun l hl => Line.oneLine_render (hlines l hl) 0

theorem lines_of_source (hspelled : s.Spelled) (hsettings : OneLineSettings settings)
    (hw : w.printer.indent = settings.indent room)
    (hcode : textFrom (source settings.style s) w = some code) :
    Text.lines code = (sourceLines settings.style s).map (Line.render (settings.indent room) 0) ∧
      ∀ l ∈ sourceLines settings.style s, l.text ≠ "" → (settings.indent room).Fits l.depth := by
  obtain ⟨⟨hroom, hcan⟩, rfl⟩ := (textFrom_source_iff hw code).mp hcode
  refine ⟨lines_textOf_sourceLines hspelled hsettings hcan (settings.indent room), ?_⟩
  intro l hl htext
  simpa [Printer.fresh] using hroom l hl htext

/-- Scanning a source for braces gives the depth of each of its lines. -/
theorem depth_is_indentation (hspelled : s.Spelled) (hsettings : OneLineSettings settings)
    (hw : w.printer.indent = settings.indent room) :
    (∀ code, textFrom (source settings.style s) w = some code →
      (∃ depths, depths? 0 ((Text.lines code).map bare) = some (depths, 0) ∧
        List.Forall₂ (IsIndented settings.indent.unit) (Text.lines code) depths) ∧
      ∀ (size useTabs : Json) (room' : Option ℕ) (w' : Session) (code' : String),
        w'.printer.indent = (settings.withIndent size useTabs).indent room' →
        textFrom (source (settings.withIndent size useTabs).style s) w' = some code' →
        (Text.lines code').map bare = (Text.lines code).map bare) ∧
    (Fitting settings.style (settings.indent room) s →
      (textFrom (source settings.style s) w).isSome = true) := by
  have hlaid := laid_sourceLines settings.style hspelled
  constructor
  · intro code hcode
    obtain ⟨hlines, hroom⟩ := lines_of_source hspelled hsettings hw hcode
    have hbare : (Text.lines code).map bare = (sourceLines settings.style s).map Line.text := by
      rw [hlines]
      exact hlaid.map_bare
    constructor
    · refine ⟨(sourceLines settings.style s).map Line.depth, ?_, ?_⟩
      · rw [hbare, hlaid.depths 0]
        simp only [Nat.zero_add]
      · rw [hlines, ← settings.unit_indent room]
        exact hlaid.indented hroom
    · intro size useTabs room' w' code' hw' hcode'
      have hother : OneLineSettings (settings.withIndent size useTabs) :=
        ⟨hsettings.namespaceName, hsettings.customPrefix⟩
      obtain ⟨hlines', -⟩ := lines_of_source hspelled hother hw' hcode'
      rw [Settings.style_withIndent] at hlines'
      rw [hlines', hlaid.map_bare, hbare]
  · intro hfits
    obtain ⟨code, t, hcode⟩ := hfits.source hw
    rw [textFrom, hcode]
    rfl

theorem people_depth_is_indentation :
    ∃ code depths tabbed, textFrom (source Settings.default.style people) Settings.default.session =
        some code ∧
      depths? 0 ((Text.lines code).map bare) = some (depths, 0) ∧
      List.Forall₂ (IsIndented "  ") (Text.lines code) depths ∧
      textFrom (source (Settings.default.withIndent (.int 4) (.bool true)).style people)
          (Settings.default.withIndent (.int 4) (.bool true)).session = some tabbed ∧
      (Text.lines tabbed).map bare = (Text.lines code).map bare := by
  have hsettings : OneLineSettings Settings.default := ⟨by decide, by decide⟩
  obtain ⟨hdepths, hwritten⟩ := depth_is_indentation spelled_people hsettings
    (Settings.default.session_indent none)
  obtain ⟨code, hcode⟩ := Option.isSome_iff_exists.mp (hwritten fitting_people)
  obtain ⟨⟨depths, hscan, hindented⟩, hbare⟩ := hdepths code hcode
  have hfitting : Fitting (Settings.default.withIndent (.int 4) (.bool true)).style .tab people :=
    ⟨rfl, fitting_people.customPrefix, fitting_people.scope, fitting_people.types,
      fitting_people.notes⟩
  obtain ⟨tabbed, t, htabbed⟩ := hfitting.source
    (w := (Settings.default.withIndent (.int 4) (.bool true)).session) rfl
  have htext : textFrom (source (Settings.default.withIndent (.int 4) (.bool true)).style people)
      (Settings.default.withIndent (.int 4) (.bool true)).session = some tabbed := by
    rw [textFrom, htabbed]
  exact ⟨code, depths, tabbed, hcode, hscan, hindented, htext, hbare _ _ none _ _ rfl htext⟩

end Model

end RealmModels
