import Mathlib
import RealmModels.Proofs.Model.Indentation
import RealmModels.Proofs.Model.Totality

namespace RealmModels

namespace Laid

open Text

variable {ls : List Line} {i : Indent}

theorem isTidy (h : Laid ls) {text : String} (hlines : lines text = ls.map (Line.render i 0))
    (hfirst : ∀ l ∈ ls.head?, l.text ≠ "") : IsTidy text := by
  constructor
  · rw [hlines, List.forall_mem_map]
    intro l hl c hc
    by_cases htext : l.text = ""
    · simp [Line.render, htext] at hc
    · have hlast := lastIs_append (i.shown (0 + l.depth)) (h.inked l hl htext).2
      obtain ⟨d, hd, hink⟩ := lastIs_iff.mp hlast
      rw [Line.render, if_neg htext] at hc
      obtain rfl := Option.some.inj (hd.symm.trans hc)
      simpa [isInk] using hink
  · rw [hlines]
    exact h.spaced.congr fun _ => Line.text_of_render_empty
  · rw [hlines]
    intro line hline
    rw [List.head?_map, Option.mem_map] at hline
    obtain ⟨l, hl, rfl⟩ := hline
    exact mt Line.text_of_render_empty (hfirst l hl)

end Laid

namespace Model

open GraphQL Swift Writing
open Text (IsTidy)

variable {settings : Settings} {room : Option ℕ} {s : Schema} {w v : Session} {code : String}

theorem isTidy_source (hspelled : s.Spelled) (hsettings : OneLineSettings settings)
    (hw : w.printer.indent = settings.indent room)
    (hcode : textFrom (source settings.style s) w = some code) : IsTidy code := by
  obtain ⟨hlines, -⟩ := lines_of_source hspelled hsettings hw hcode
  apply (laid_sourceLines settings.style hspelled).isTidy hlines
  intro l hl
  obtain rfl : ⟨0, notice⟩ = l := Option.some.inj hl
  decide

theorem textFrom_source_of_typed (hsettings : settings.Typed) (hs : s.Typed)
    (hw : w.printer.indent = settings.indent room) (code : String) :
    textFrom (source settings.style s) w = some code ↔
      RoomFor settings room s ∧ code = sourceText settings room s := by
  obtain ⟨t, hgives, -⟩ := gives_source_of_typed hsettings hs hw
  exact hgives.textFrom_eq_some_iff code

/-- What is written is tidy, and a report that can warn about the settings gives it unchanged. It is
there just if there is room for the white space in front of the lines. -/
theorem report_gives_source (hspelled : s.Spelled) (honeline : OneLineSettings settings)
    (hsettings : settings.Typed) (hs : s.Typed) (hw : w.printer.indent = settings.indent room)
    (hv : v.printer.indent = settings.indent room) :
    (∀ code, textFrom (source settings.style s) w = some code →
      IsTidy code ∧ Text.tidy code = code ∧ (settings.CanWarn →
        ∃ ws t, Report.generate settings s v = .ok (.success code ws (metadata settings s)) t)) ∧
    (∀ code ws facts t, Report.generate settings s v = .ok (.success code ws facts) t →
      settings.CanWarn ∧ textFrom (source settings.style s) w = some code) ∧
    ((textFrom (source settings.style s) w).isSome = true ↔ RoomFor settings room s) ∧
    ((settings.indent room).Fits 3 → RoomFor settings room s) := by
  obtain ⟨ws', hws'⟩ := hs.schemaWarnings
  have hwritten := textFrom_source_of_typed hsettings hs hw
  have htidy (code : String) (hcode : textFrom (source settings.style s) w = some code) :
      IsTidy code := isTidy_source hspelled honeline hw hcode
  refine ⟨?_, ?_, ?_, roomFor_of_fits⟩
  · intro code hcode
    refine ⟨htidy code hcode, (htidy code hcode).tidy_eq, fun hwarn => ?_⟩
    obtain ⟨ws, hws⟩ := hsettings.settingsWarnings hwarn
    obtain ⟨hroom, rfl⟩ := (hwritten code).mp hcode
    obtain ⟨t, hrun, -⟩ := generate_with_room hsettings hs hv hroom hws hws'
    rw [(htidy _ hcode).tidy_eq] at hrun
    exact ⟨ws ++ ws', t, hrun⟩
  · intro code ws₁ facts t hreport
    obtain ⟨ws, -, -, -, hws, -⟩ := generate_success hreport
    have hwarn : settings.CanWarn := by
      by_contra hnot
      rw [hsettings.settingsWarnings_unwritable hnot] at hws
      cases hws
    by_cases hroom : RoomFor settings room s
    · have hcode := (hwritten (sourceText settings room s)).mpr ⟨hroom, rfl⟩
      obtain ⟨u, hrun, -⟩ := generate_with_room hsettings hs hv hroom hws hws'
      rw [(htidy _ hcode).tidy_eq, hreport] at hrun
      obtain ⟨hreports, -⟩ := EStateM.Result.ok.inj hrun
      obtain ⟨rfl, -, -⟩ := Report.success.inj hreports
      exact ⟨hwarn, hcode⟩
    · obtain ⟨e, u, hrun, -⟩ := generate_without_room hsettings hs hv hroom hws
      rw [hreport] at hrun
      obtain ⟨hreports, -⟩ := EStateM.Result.ok.inj hrun
      cases hreports
  · rw [Option.isSome_iff_exists]
    constructor
    · rintro ⟨code, hcode⟩
      exact ((hwritten code).mp hcode).1
    · intro hroom
      exact ⟨_, (hwritten _).mpr ⟨hroom, rfl⟩⟩

theorem people_report_gives_source :
    ∃ code ws t, textFrom (source Settings.default.style people) Settings.default.session =
        some code ∧
      IsTidy code ∧ Text.tidy code = code ∧
      Report.generate Settings.default people Settings.default.session =
        .ok (.success code ws (metadata Settings.default people)) t := by
  have honeline : OneLineSettings Settings.default := ⟨by decide, by decide⟩
  obtain ⟨hgiven, -, hroom, hfits⟩ :=
    report_gives_source spelled_people honeline typed_default typed_people
      (Settings.default.session_indent none) (Settings.default.session_indent none)
  obtain ⟨code, hcode⟩ := Option.isSome_iff_exists.mp (hroom.mpr (hfits (by decide)))
  obtain ⟨htidy, hsame, hreport⟩ := hgiven code hcode
  obtain ⟨ws, t, hrun⟩ := hreport (canWarn_of_pos rfl (by decide))
  exact ⟨code, ws, t, hcode, htidy, hsame, hrun⟩

def countlessInside : Settings := countless.set .namespaceName (.str "API")

theorem unwritable_source : ∃ code,
    textFrom (source unwritable.style modelless) unwritable.session = some code := by
  have hroom : RoomFor unwritable none modelless := by
    intro l hl _
    have hdepth : l.depth = 0 := by
      revert l
      decide
    rw [hdepth]
    exact Indent.fits_zero nofun
  exact ⟨_, (textFrom_source_of_typed typed_unwritable typed_modelless rfl _).mpr ⟨hroom, rfl⟩⟩

theorem countlessInside_report_gives_nothing :
    (countlessInside.Typed ∧ OneLineSettings countlessInside ∧ pebbles.Spelled ∧ pebbles.Typed ∧
      textFrom (source countlessInside.style pebbles) countlessInside.session = none ∧
      ∃ e t, Report.generate countlessInside pebbles countlessInside.session = .ok (.failure e) t) ∧
    unwritable.Typed ∧ OneLineSettings unwritable ∧ modelless.Spelled ∧ modelless.Typed ∧
      (∃ code, textFrom (source unwritable.style modelless) unwritable.session = some code) ∧
      ∃ e t, Report.generate unwritable modelless unwritable.session = .ok (.failure e) t := by
  have htyped : countlessInside.Typed := ⟨.inr ⟨"API", rfl⟩, ⟨"", rfl⟩, ⟨_, rfl⟩⟩
  have hroom : ¬ RoomFor countlessInside none pebbles :=
    not_roomFor_of_line 1 (by decide) (by decide)
  have hnone : textFrom (source countlessInside.style pebbles) countlessInside.session = none := by
    apply Option.eq_none_iff_forall_ne_some.mpr
    intro code hcode
    exact hroom ((textFrom_source_of_typed htyped typed_pebbles rfl code).mp hcode).1
  obtain ⟨ws, hws⟩ := htyped.settingsWarnings canWarn_countless
  obtain ⟨e, t, hrun, -⟩ :=
    generate_without_room htyped typed_pebbles (w := countlessInside.session) rfl hroom hws
  exact ⟨⟨htyped, ⟨by decide, by decide⟩, ⟨by decide, by decide⟩, typed_pebbles, hnone, e, t, hrun⟩,
    typed_unwritable, ⟨by decide, by decide⟩, ⟨by decide, by decide⟩, typed_modelless,
    unwritable_source, unwritable_generation_fails⟩

end Model

end RealmModels
