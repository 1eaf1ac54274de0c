import Mathlib
import RealmModels.Proofs.Model.UncaughtScalars

namespace RealmModels.Model

open GraphQL Swift Writing
open Text (bare depths?)

/-- On the lines of a text stands the class of a model, from the line that opens it to the brace that
belongs to it. -/
structure HoldsClass (texts : List String) (name : String) (inside : List String) : Prop where
  lines : ("public final class " ++ name ++ ": Object \x7b") :: (inside ++ ["\x7d"]) <:+: texts
  deeper : ∃ depths, depths? 1 inside = some (depths, 1) ∧ ∀ depth ∈ depths, 1 ≤ depth

variable {settings : Settings} {room : Option ℕ} {s : Schema} {w : Session} {code : String}

theorem map_text_deeper_iterate (n : ℕ) (ls : List Line) :
    (ls.map Line.deeper^[n]).map Line.text = ls.map Line.text := by
  induction n generalizing ls with
  | zero => simp
  | succ n ih => rw [Function.iterate_succ, ← List.map_map, ih, Line.map_text_deeper]

theorem holdsClass_of_source (hspelled : s.Spelled) {m : ObjectType} (hm : m ∈ s.models) :
    HoldsClass ((sourceLines settings.style s).map Line.text) m.name
      ((bodyLines settings.style (namedFields m.fields)).map Line.text) := by
  have hbody := laid_bodyLines settings.style (hspelled.leaves m hm)
  constructor
  · have hinfix := (classLines_in_source settings.style hm).map Line.text
    rw [map_text_deeper_iterate, classLines, bracedLines, List.map_cons, List.map_append, classHeader_brace,
      Line.map_text_deeper] at hinfix
    simpa [String.append_assoc] using hinfix
  · refine ⟨_, hbody.depths 1, ?_⟩
    rw [List.forall_mem_map]
    intro l _
    exact Nat.le_add_right 1 l.depth

theorem bare_lines_of_source (hspelled : s.Spelled) (hsettings : OneLineSettings settings)
    (hw : w.printer.indent = settings.indent room)
    (hcode : textFrom (source settings.style s) w = some code) :
    (Text.lines code).map bare = (sourceLines settings.style s).map Line.text := by
  obtain ⟨hlines, -⟩ := lines_of_source hspelled hsettings hw hcode
  rw [hlines]
  exact (laid_sourceLines settings.style hspelled).map_bare

/-- No field of a model is lost: its class declares one property of the name that its scope gives to
the field, or else there is one warning on it. Scalars that are not caught are marked in the source,
warned about and reported one for one and in the same order. -/
theorem fields_declared_or_warned (hkeyed : s.Keyed) (hspelled : s.Spelled)
    (hsettings : OneLineSettings settings)
    (houtput : ∀ m ∈ s.models, ∀ f ∈ m.fields, f.type.IsOutput)
    (hw : w.printer.indent = settings.indent room) :
    ∃ ws, schemaWarnings s = .ok ws ∧
      (settings.Typed → s.Typed →
        ((∃ code t, source settings.style s w = .ok code t) ↔ RoomFor settings room s)) ∧
      ((settings.indent room).Fits 3 → RoomFor settings room s) ∧
      ∀ code t, source settings.style s w = .ok code t →
        ((Text.lines code).map bare).filterMap openedClass? =
          s.models.map (fun m => m.name ++ ": Object \x7b") ∧
        (∀ m ∈ s.models, ∃ inside names scope,
          HoldsClass ((Text.lines code).map bare) m.name inside ∧
          Naming.Scope.empty.answers naming (nameRequests m.fields) =
            .ok (names.map some, scope) ∧
          names.length = m.fields.length ∧
          ∀ x ∈ m.fields.zip names,
            (declarations inside x.2 = 1 ∧ warningsAbout ws m.name x.1.name = 0) ∨
            (declarations inside x.2 = 0 ∧ warningsAbout ws m.name x.1.name = 1)) ∧
        ((Text.lines code).map bare).filterMap uncaughtScalar? =
          (ws.filterMap Warning.uncaught?).map (fun x => x.2.2) ∧
        ∃ events, t.events = w.events ++ events ∧
          events.filterMap Log.Event.uncaught? =
            (ws.filterMap Warning.uncaught?).map (fun x => (x.2.2, x.2.1)) := by
  refine ⟨_, (schemaWarnings_eq_ok_iff s _).mpr ⟨houtput, rfl⟩, ?_, roomFor_of_fits, ?_⟩
  · intro hsettings hs
    obtain ⟨t, hgives, -⟩ := gives_source_of_typed hsettings hs hw
    constructor
    · rintro ⟨code, u, hrun⟩
      exact ((hgives code u).mp hrun).1
    · intro hroom
      exact ⟨_, t, hgives.ok hroom⟩
  · intro code t hrun
    have hbare := bare_lines_of_source hspelled hsettings hw (show _ = some code by rw [textFrom, hrun])
    have hscan {α : Type} (g : String → Option α) : ((Text.lines code).map bare).filterMap g =
        Line.scan g (sourceLines settings.style s) := by
      rw [hbare, List.filterMap_map]
      rfl
    have hquiet := isQuiet_namespace settings
    refine ⟨?_, ?_, ?_, sourceEvents settings.style s, ?_, ?_⟩
    · rw [hscan, scan_sourceLines (fun _ h => h.openedClass?) hquiet]
      simp only [scan_openedClass?_classLines]
      exact List.flatMap_pure_eq_map _ s.models
    · intro m hm
      refine ⟨_, (namedFields m.fields).map Prod.snd, _, hbare ▸ holdsClass_of_source hspelled hm,
        answers_nameRequests m.fields, by rw [List.length_map, length_namedFields], ?_⟩
      rw [zip_namedFields]
      intro x hx
      have hfield : x.1 ∈ m.fields := mem_of_mem_namedFields hx
      rw [declarations_eq settings.style (hkeyed.fieldsOf hm) hx, warningsAbout_eq hkeyed hm hfield]
      cases isStored x.1.type.classified with
      | true => exact .inl ⟨rfl, rfl⟩
      | false => exact .inr ⟨rfl, rfl⟩
    · rw [hscan, filterMap_uncaught?_warnings, scan_sourceLines (fun _ h => h.uncaughtScalar?) hquiet,
        List.map_map]
      exact s.flatMap_models fun m => scan_uncaughtScalar?_classLines settings.style m.name m.fields
    · obtain ⟨p, n, e⟩ := w
      obtain ⟨-, -, rfl⟩ := (gives_source s code t).mp hrun
      rfl
    · rw [filterMap_uncaught?_warnings, filterMap_uncaught?_sourceEvents, List.map_map]
      exact s.flatMap_models fun _ => rfl

theorem people_declared_or_warned :
    people.Keyed ∧ people.Spelled ∧ OneLineSettings Settings.default ∧
      (∀ m ∈ people.models, ∀ f ∈ m.fields, f.type.IsOutput) ∧
      ∃ ws code t, schemaWarnings people = .ok ws ∧
        source Settings.default.style people Settings.default.session = .ok code t ∧
        ∃ inside names scope,
          HoldsClass ((Text.lines code).map bare) person.modelOf.name inside ∧
          Naming.Scope.empty.answers naming (nameRequests person.modelOf.fields) =
            .ok (names.map some, scope) ∧
          names.length = person.modelOf.fields.length ∧
          ∀ x ∈ person.modelOf.fields.zip names,
            declarations inside x.2 + warningsAbout ws person.modelOf.name x.1.name = 1 := by
  have hsettings : OneLineSettings Settings.default := ⟨by decide, by decide⟩
  refine ⟨keyed_people, spelled_people, hsettings, fitting_people.types, ?_⟩
  obtain ⟨ws, hws, hwritten, hroom, hall⟩ := fields_declared_or_warned keyed_people spelled_people
    hsettings fitting_people.types (Settings.default.session_indent none)
  obtain ⟨code, t, hrun⟩ := (hwritten typed_default typed_people).mpr (hroom fitting_people.indent)
  obtain ⟨-, hmodels, -⟩ := hall code t hrun
  obtain ⟨inside, names, scope, hinside, hnames, hlength, hfields⟩ := hmodels _ person_mem_models
  refine ⟨ws, code, t, hws, hrun, inside, names, scope, hinside, hnames, hlength, fun x hx => ?_⟩
  rcases hfields x hx with ⟨hdeclared, hwarned⟩ | ⟨hdeclared, hwarned⟩
  · rw [hdeclared, hwarned]
  · rw [hdeclared, hwarned]

def spilling : Settings :=
  (Settings.default.set .passthrough (.bool true)).set .customPrefix (.str "Q>()\nUNCAUGHT SCALAR X")

theorem spilled_mark_is_unwarned :
    (schemaWarnings diary = .ok [] ∧
      ∃ code t, source spilling.style diary spilling.session = .ok code t ∧
        ((Text.lines code).map bare).filterMap uncaughtScalar? = ["XDate>()"]) ∧
    schemaWarnings pebbles = .ok [] ∧
      ∃ e t, source countless.style pebbles countless.session = .error e t := by
  refine ⟨⟨by decide, ?_⟩, by decide, _, _, rfl⟩
  have hrun : (textFrom (source spilling.style diary) spilling.session).map
      (fun code => ((Text.lines code).map bare).filterMap uncaughtScalar?) = some ["XDate>()"] := by
    decide +kernel
  obtain ⟨code, hcode, hmarks⟩ := Option.map_eq_some_iff.mp hrun
  rw [textFrom] at hcode
  split at hcode
  · next code' t hsource =>
    obtain rfl := Option.some.inj hcode
    exact ⟨code', t, hsource, hmarks⟩
  · cases hcode

end RealmModels.Model
