import Mathlib
import RealmModels.Proofs.Model.References
import RealmModels.Proofs.Model.Tidiness

/-!
Three places tell whether a schema has scalars that are not caught: the facts of a report, its warnings
and the marks in its code. The last two agree. The first counts what stands in lists too, and differs
from them just if there is nothing else to count.
-/

namespace RealmModels

namespace GraphQL.Schema

def HasUncaught (s : Schema) : Prop :=
  ∃ m ∈ s.models, ∃ f ∈ m.fields, f.type.classified.isUncaught = true

def HasUncaughtAlone (s : Schema) : Prop :=
  ∃ m ∈ s.models, ∃ f ∈ m.fields, Model.isUncaughtAlone f.type = true

def OnlyListsUncaught (s : Schema) : Prop := s.HasUncaught ∧ ¬ s.HasUncaughtAlone

theorem HasUncaughtAlone.hasUncaught {s : Schema} (h : s.HasUncaughtAlone) : s.HasUncaught := by
  obtain ⟨m, hm, f, hf, hfield⟩ := h
  exact ⟨m, hm, f, hf, (Bool.and_eq_true_iff.mp hfield).1⟩

end GraphQL.Schema

namespace Model

open GraphQL Swift Writing

def WarnsUncaught (ws : List Warning) : Prop :=
  ∃ w ∈ ws, (after? "Uncaught scalar in " w.message).isSome = true

/-- A line of a text marks a scalar that is not caught, behind any white space. -/
def MarksUncaught (code : String) : Prop :=
  ∃ l ∈ Text.lines code, (uncaughtScalar? (Text.bare l)).isSome = true

variable {settings : Settings} {s : Schema} {w t : Session} {code : String} {ws : List Warning}
  {facts : Metadata}

def otherWarningStarts : List String :=
  ["Invalid namespace identifier: ", "Namespace ",
    "custom_scalars_prefix has no effect unless passthrough_custom_scalars is set",
    "Invalid indent_size: ", "Type '", "No declaration for abstract type in "]

theorem opens_message {w : Warning} (h : w.uncaught? = none) : Opens otherWarningStarts w.message := by
  cases w with
  | uncaughtScalar type field scalar => cases h
  | namespaceNotIdentifier name => exact Opens.of_mem (by decide) _
  | namespaceReserved name => exact (Opens.of_mem (by decide) _).append _
  | prefixWithoutPassthrough => exact Opens.self (by decide)
  | indentTooSmall shown => exact Opens.of_mem (by decide) _
  | noFields type => exact (Opens.of_mem (by decide) _).append _
  | abstractType type field target =>
    exact ((((Opens.of_mem (by decide) _).append _).append _).append _).append _

theorem opens_uncaughtScalar (type field scalar : String) :
    Opens ["Uncaught scalar in "] (Warning.uncaughtScalar type field scalar).message :=
  ((((Opens.of_mem (by decide) _).append _).append _).append _).append _

theorem after?_message (w : Warning) :
    (after? "Uncaught scalar in " w.message).isSome = w.uncaught?.isSome := by
  cases h : w.uncaught? with
  | none =>
    rw [(opens_message h).after? (by decide)]
    rfl
  | some x =>
    cases w with
    | uncaughtScalar type field scalar =>
      obtain ⟨start, hstart, rest, hmessage⟩ := opens_uncaughtScalar type field scalar
      obtain rfl := List.mem_singleton.mp hstart
      rw [hmessage, after?_append]
      rfl
    | _ => cases h

theorem warnsUncaught_iff : WarnsUncaught ws ↔ ws.filterMap Warning.uncaught? ≠ [] := by
  simp only [WarnsUncaught, after?_message, ne_eq, List.filterMap_eq_nil_iff, not_forall,
    Option.ne_none_iff_isSome, exists_prop]

theorem uncaught?_settingsWarnings (h : settingsWarnings settings = .ok ws) :
    ws.filterMap Warning.uncaught? = [] := by
  have hsite := site?_settingsWarnings h
  rw [List.filterMap_eq_nil_iff] at hsite ⊢
  intro w hw
  have hw := hsite w hw
  cases w with
  | uncaughtScalar type field scalar => cases hw
  | _ => rfl

theorem flatMap_uncaught_ne_nil_iff {α : Type} (g : ObjectType → Field → α) :
    (s.models.flatMap fun m => (m.fields.filter fun f => isUncaughtAlone f.type).map (g m)) ≠ [] ↔
      s.HasUncaughtAlone := by
  simp only [ne_eq, List.flatMap_eq_nil_iff, List.map_eq_nil_iff, List.filter_eq_nil_iff, not_forall,
    not_not, exists_prop]
  rfl

theorem warnsUncaught_schema_iff (hsettings : settingsWarnings settings = .ok ws)
    {ws' : List Warning} (hschema : schemaWarnings s = .ok ws') :
    WarnsUncaught (ws ++ ws') ↔ s.HasUncaughtAlone := by
  obtain ⟨-, rfl⟩ := (schemaWarnings_eq_ok_iff s ws').mp hschema
  rw [warnsUncaught_iff, List.filterMap_append, uncaught?_settingsWarnings hsettings, List.nil_append,
    List.filterMap_flatMap]
  simp only [filterMap_uncaught?_warningsOn]
  exact flatMap_uncaught_ne_nil_iff _

theorem scan_uncaughtScalar?_ne_nil_iff (settings : Settings) (s : Schema) :
    Line.scan uncaughtScalar? (sourceLines settings.style s) ≠ [] ↔ s.HasUncaughtAlone := by
  rw [scan_sourceLines (fun _ h => h.uncaughtScalar?) (isQuiet_namespace settings)]
  simp only [scan_uncaughtScalar?_classLines]
  exact flatMap_uncaught_ne_nil_iff fun _ f => f.type.leaf.name

theorem hasUncaughtScalars_iff (settings : Settings)
    (houtput : ∀ m ∈ s.models, ∀ f ∈ m.fields, f.type.IsOutput) :
    (metadata settings s).hasUncaughtScalars = true ↔ s.HasUncaught := by
  have hfield : ∀ m ∈ s.models, ∀ f ∈ m.fields,
      isUncaughtField f = f.type.classified.isUncaught := by
    intro m hm f hf
    rw [isUncaughtField, classify_of_isOutput (houtput m hm f hf)]
  simp only [metadata, List.any_eq_true]
  refine exists_congr fun m => and_congr_right fun hm => exists_congr fun f => ?_
  exact and_congr_right fun hf => by rw [hfield m hm f hf]

theorem marksUncaught_iff (hspelled : s.Spelled) (hsettings : OneLineSettings settings)
    (hcode : source settings.style s w = .ok code t) :
    MarksUncaught (Text.tidy code) ↔
      Line.scan uncaughtScalar? (sourceLines settings.style s) ≠ [] := by
  obtain ⟨p, n, e⟩ := w
  obtain ⟨⟨-, hcan⟩, rfl, -⟩ := (gives_source s code t).mp hcode
  have hlaid := laid_sourceLines settings.style hspelled
  have hlines := lines_textOf_sourceLines hspelled hsettings hcan p.indent
  have htidy := hlaid.isTidy hlines (by
    intro l hl
    obtain rfl : ⟨0, notice⟩ = l := Option.some.inj hl
    decide)
  have hbare : ∀ l ∈ sourceLines settings.style s, Text.bare (l.render p.indent 0) = l.text :=
    fun _ hl => hlaid.bare_render hl
  rw [htidy.tidy_eq, MarksUncaught, hlines, Line.scan, ne_eq, List.filterMap_eq_nil_iff]
  simp only [List.mem_map, exists_exists_and_eq_and, not_forall, Option.ne_none_iff_isSome, exists_prop]
  exact exists_congr fun l => and_congr_right fun hl => by rw [hbare l hl]

/-- The warnings of a report and the marks in its code tell whether a field that stands by itself has a
scalar that is not caught. The facts count those in lists too, so that all three agree just unless there
are only such. -/
theorem uncaught_flag_agrees_iff
    (hrun : Report.generate settings s w = .ok (.success code ws facts) t) :
    code = Text.tidy (Line.textOf w.printer.indent (sourceLines settings.style s)) ∧
    (facts.hasUncaughtScalars = true ↔ s.HasUncaught) ∧
    (WarnsUncaught ws ↔ s.HasUncaughtAlone) ∧
    (Line.scan uncaughtScalar? (sourceLines settings.style s) ≠ [] ↔ s.HasUncaughtAlone) ∧
    (s.Spelled → OneLineSettings settings → (MarksUncaught code ↔ s.HasUncaughtAlone)) ∧
    ((facts.hasUncaughtScalars = true ↔ WarnsUncaught ws) ↔ ¬ s.OnlyListsUncaught) := by
  obtain ⟨ws₁, ws₂, raw, u, hws₁, hws₂, rfl, hraw, rfl, rfl⟩ := generate_success hrun
  obtain ⟨houtput, -⟩ := (schemaWarnings_eq_ok_iff s ws₂).mp hws₂
  have hflag := hasUncaughtScalars_iff settings houtput
  have hwarns := warnsUncaught_schema_iff hws₁ hws₂
  have hscan := scan_uncaughtScalar?_ne_nil_iff settings s
  refine ⟨?_, hflag, hwarns, hscan, fun hspelled honeline => ?_, ?_⟩
  · obtain ⟨-, rfl, -⟩ := (gives_source s raw u).mp hraw
    rfl
  · exact (marksUncaught_iff hspelled honeline hraw).trans hscan
  · rw [hflag, hwarns, Schema.OnlyListsUncaught, not_and_not_right]
    exact ⟨Iff.mp, fun h => ⟨h, Schema.HasUncaughtAlone.hasUncaught⟩⟩

theorem people_uncaught_flag_agrees :
    ∃ ws code t, Report.generate Settings.default people Settings.default.session =
        .ok (.success code ws (metadata Settings.default people)) t ∧
      (metadata Settings.default people).hasUncaughtScalars = true ∧ WarnsUncaught ws ∧
      MarksUncaught code := by
  obtain ⟨ws, code, t, -, hrun⟩ := generate_default people typed_people
  obtain ⟨-, hflag, hwarns, -, hmarks, -⟩ := uncaught_flag_agrees_iff hrun
  have honeline : OneLineSettings Settings.default := ⟨by decide, by decide⟩
  have halone : people.HasUncaughtAlone := ⟨person.modelOf, person_mem_models,
    ⟨"born", .named ⟨"Date", .scalar⟩, [], .absent, .absent⟩, by decide, by decide⟩
  exact ⟨ws, code, t, hrun, hflag.mpr halone.hasUncaught, hwarns.mpr halone,
    (hmarks spelled_people honeline).mpr halone⟩

def diary : Schema where
  types := [⟨"Date", .scalar⟩,
    ⟨"Diary", .object [] [⟨"days", .list (.named ⟨"Date", .scalar⟩), [], .absent, .absent⟩]⟩]

theorem diary_flagged_unmarked :
    ∃ ws code t, Report.generate Settings.default diary Settings.default.session =
        .ok (.success code ws (metadata Settings.default diary)) t ∧
      (metadata Settings.default diary).hasUncaughtScalars = true ∧ ¬ WarnsUncaught ws ∧
      ¬ MarksUncaught code := by
  obtain ⟨ws, code, t, hws, hrun⟩ := generate_default diary ⟨by decide, by decide⟩
  have honeline : OneLineSettings Settings.default := ⟨by decide, by decide⟩
  have halone : ¬ diary.HasUncaughtAlone := by
    unfold Schema.HasUncaughtAlone
    decide
  obtain ⟨ws₁, ws₂, raw, u, hws₁, hws₂, rfl, hraw, rfl, -⟩ := generate_success hrun
  refine ⟨_, _, t, hrun, by decide, ?_, ?_⟩
  · exact mt (warnsUncaught_schema_iff hws₁ hws₂).mp halone
  · rw [marksUncaught_iff ⟨by decide, by decide⟩ honeline hraw, scan_uncaughtScalar?_ne_nil_iff]
    exact halone

end Model

end RealmModels
