import Mathlib
import RealmModels.Proofs.Model.Accounting
import RealmModels.Proofs.Writing.Respects

/-!
Generation is total: with settings and schemas of the declared types it succeeds whenever the white
space in front of its lines can be written, and nothing else can make it fail.
-/

namespace RealmModels

/-- The values have their declared types, as far as they can make a difference. -/
structure Settings.Typed (settings : Settings) : Prop where
  namespaceName : settings.value .namespaceName = .null ∨
    ∃ name, settings.value .namespaceName = .str name
  customPrefix : ∃ start, settings.value .customPrefix = .str start
  indentSize : ∃ size, settings.value .indentSize = .int size

/-- An indentation that is warned about has no more digits than the warning can write. -/
def Settings.CanWarn (settings : Settings) : Prop :=
  ∀ size, settings.value .indentSize = .int size → size < 1 → size.natAbs < 10 ^ Text.digitLimit

/-- The fields of the models have output types, and what is said about them is said in words. -/
structure GraphQL.Schema.Typed (s : Schema) : Prop where
  types : ∀ m ∈ s.models, ∀ f ∈ m.fields, f.type.IsOutput
  notes : ∀ m ∈ s.models, ∀ f ∈ m.fields,
    f.description.words?.isSome = true ∧ f.deprecationReason.words?.isSome = true

theorem GraphQL.Schema.Typed.schemaWarnings {s : Schema} (h : s.Typed) :
    ∃ ws, schemaWarnings s = .ok ws :=
  ⟨_, (Model.schemaWarnings_eq_ok_iff s (s.models.flatMap Model.warningsOn)).mpr ⟨h.types, rfl⟩⟩

theorem isWritable_int_iff (n : Int) :
    (Json.int n).isWritable = true ↔ n.natAbs < 10 ^ Text.digitLimit := by
  rw [Json.isWritable, decide_eq_true_iff, Nat.pow_eq]

namespace Settings.Typed

variable {settings : Settings}

theorem indent_ne (h : settings.Typed) (room : Option ℕ) : settings.indent room ≠ .unusable := by
  obtain ⟨size, hsize⟩ := h.indentSize
  rw [Settings.indent, hsize]
  split <;> simp [Json.whole?]

theorem isText_scope (h : settings.Typed) : ∀ frame ∈ settings.style.scope, frame.isText = true := by
  intro frame hframe
  change frame ∈ settings.scope at hframe
  rw [Settings.scope] at hframe
  split at hframe
  · next hon =>
    obtain rfl := Option.some.inj hframe
    rcases h.namespaceName with hnull | ⟨name, hname⟩
    · rw [isOn, hnull] at hon
      exact absurd hon Bool.false_ne_true
    · simp [text?, hname]
  · cases hframe

theorem isSome_customPrefix (h : settings.Typed) :
    settings.style.typeNaming.customPrefix.isSome = true := by
  obtain ⟨start, hstart⟩ := h.customPrefix
  simp [style, typeNaming, text?, hstart]

theorem checkNamespace (h : settings.Typed) :
    ∃ ws, checkNamespace (settings.value .namespaceName) Swift.reservedWords = .ok ws := by
  rcases h.namespaceName with hnull | ⟨name, hname⟩
  · rw [hnull]
    exact ⟨_, rfl⟩
  · rw [hname]
    exact ⟨_, rfl⟩

theorem settingsWarnings (h : settings.Typed) (hwarn : settings.CanWarn) :
    ∃ ws, settingsWarnings settings = .ok ws := by
  obtain ⟨aboutNamespace, hnamespace⟩ := h.checkNamespace
  obtain ⟨size, hsize⟩ := h.indentSize
  have hindent : ∃ ws, checkIndent (.int size) = .ok ws := by
    by_cases hsmall : size < 1
    · have hdigits := (isWritable_int_iff size).mpr (hwarn size hsize hsmall)
      simp [checkIndent, Json.whole?, hsmall, hdigits]
    · simp [checkIndent, Json.whole?, hsmall]
  obtain ⟨aboutIndent, hindent⟩ := hindent
  rw [RealmModels.settingsWarnings, check, hnamespace, hsize, hindent]
  exact ⟨_, rfl⟩

theorem settingsWarnings_unwritable (h : settings.Typed) (hwarn : ¬ settings.CanWarn) :
    RealmModels.settingsWarnings settings = .error (.setting .indentUnwritable) := by
  obtain ⟨aboutNamespace, hnamespace⟩ := h.checkNamespace
  obtain ⟨size, hsize, hsmall, hdigits⟩ : ∃ size, settings.value .indentSize = .int size ∧ size < 1 ∧
      ¬ size.natAbs < 10 ^ Text.digitLimit := by
    simpa only [CanWarn, not_forall, exists_prop] using hwarn
  have hwritable : (Json.int size).isWritable = false :=
    Bool.eq_false_iff.mpr (mt (isWritable_int_iff size).mp hdigits)
  have hindent : checkIndent (.int size) = .error .indentUnwritable := by
    simp [checkIndent, Json.whole?, hsmall, hwritable]
  rw [RealmModels.settingsWarnings, check, hnamespace, hsize, hindent]
  rfl

end Settings.Typed

namespace Model

open GraphQL Swift Writing

variable {settings : Settings} {room : Option ℕ} {s : Schema} {w : Session}

/-- There can be white space in front of every line of the source. -/
def RoomFor (settings : Settings) (room : Option ℕ) (s : Schema) : Prop :=
  (Printer.fresh (settings.indent room)).HasRoom (sourceLines settings.style s)

theorem not_roomFor_of_line (depth : ℕ) (h : ¬ (settings.indent room).Fits depth)
    (hline : ∃ l ∈ sourceLines settings.style s, l.text ≠ "" ∧ l.depth = depth) :
    ¬ RoomFor settings room s := by
  intro hroom
  obtain ⟨l, hl, htext, rfl⟩ := hline
  have hfits := hroom l hl htext
  rw [Printer.fresh, Nat.zero_add] at hfits
  exact h hfits

theorem roomFor_of_fits (h : (settings.indent room).Fits 3) : RoomFor settings room s :=
  (within_sourceLines _ s).hasRoom ((Nat.zero_add 3).symm ▸ h)

theorem declarable_of_typed (hsettings : settings.Typed) (hs : s.Typed) {m : ObjectType}
    (hm : m ∈ s.models) {f : Field} (hf : f ∈ m.fields) : Declarable settings.style f :=
  declarable_of_words hsettings.isSome_customPrefix (hs.types m hm f hf) (hs.notes m hm f hf)

theorem steady_sourceBody (hsettings : settings.Typed) (hs : s.Typed) :
    Steady (sourceBody settings.style s) := by
  apply habit_steady.sourceBody (.inl hsettings.isText_scope)
  intro m hm
  apply habit_steady.declareClass _ Steady.resetNames
  apply habit_steady.classDeclaration _ Steady.giveName
  exact .inl ⟨m.fields, rfl, fun f hf => declarable_of_typed hsettings hs hm hf⟩

def sourceText (settings : Settings) (room : Option ℕ) (s : Schema) : String :=
  Line.textOf (settings.indent room) (sourceLines settings.style s)

theorem gives_source_of_typed (hsettings : settings.Typed) (hs : s.Typed)
    (hw : w.printer.indent = settings.indent room) :
    ∃ t, Gives (source settings.style s) w (RoomFor settings room s) (sourceText settings room s) t ∧
      t.printer.level = 0 ∧ t.printer.scopes = [] := by
  obtain ⟨p, n, e⟩ := w
  have hindent : p.indent = settings.indent room := hw
  have hgives : Gives (source settings.style s) ⟨p, n, e⟩ _ _ _ := gives_source s
  rw [hindent] at hgives
  have hcan := canDeclare_models hsettings.isText_scope fun m hm f hf =>
    declarable_of_typed hsettings hs hm hf
  refine ⟨_, hgives.congr (and_iff_left hcan), ?_, ?_⟩
  · exact Printer.putAll_level _ _
  · exact Printer.putAll_scopes _ _

theorem source_without_room (hsettings : settings.Typed) (hs : s.Typed)
    (hw : w.printer.indent = settings.indent room) (hroom : ¬ RoomFor settings room s) :
    ∃ e t, source settings.style s w = .error e t ∧ e.isNoRoom = true ∧
      t.printer.level = 0 ∧ t.printer.scopes = [] := by
  obtain ⟨t, hgives, -⟩ := gives_source_of_typed hsettings hs hw
  obtain ⟨p, n, events⟩ := w
  have hready : Ready p.reset := ⟨hw ▸ hsettings.indent_ne room, rfl⟩
  have hbody : source settings.style s ⟨p, n, events⟩ =
      sourceBody settings.style s ⟨p.reset, n, events⟩ := by
    rw [source_eq]
    rfl
  -- with fields that can be declared, only a lack of room can keep the source from being written
  cases hrun : source settings.style s ⟨p, n, events⟩ with
  | ok code u => exact absurd ((hgives code u).mp hrun).1 hroom
  | error e u =>
    rw [hbody] at hrun
    obtain ⟨hkept, hfault⟩ := (steady_sourceBody hsettings hs).stops _ e u hready hrun
    exact ⟨e, u, rfl, hfault, hkept.level, hkept.scopes⟩

theorem report_warnings (ws : List Warning) (s : Session) :
    (ws.forM fun w => report (.warned w)) s =
      .ok () { s with events := s.events ++ ws.map .warned } := by
  induction ws generalizing s with
  | nil =>
    rw [List.map_nil, List.append_nil]
    rfl
  | cons w ws ih =>
    have hrest := ih { s with events := s.events ++ [.warned w] }
    rw [List.append_assoc] at hrest
    exact (bind_of_ok rfl).trans hrest

def warnedOf (ws : List Warning) (w : Session) : Session :=
  { w with events := w.events ++ ws.map .warned }

theorem run_eq {ws ws' : List Warning} (hws : settingsWarnings settings = .ok ws)
    (hws' : schemaWarnings s = .ok ws') (w : Session) :
    Report.run settings s w =
      (source settings.style s >>= fun code => report (.generated s.models.length language) >>= fun _ =>
        pure (.success (Text.tidy code) (ws ++ ws') (metadata settings s))) (warnedOf (ws ++ ws') w) := by
  rw [Report.run, hws, hws']
  exact bind_of_ok (report_warnings (ws ++ ws') w)

theorem generate_of_ok {ws ws' : List Warning} (hws : settingsWarnings settings = .ok ws)
    (hws' : schemaWarnings s = .ok ws') {code : String} {t : Session}
    (h : source settings.style s (warnedOf (ws ++ ws') w) = .ok code t) :
    Report.generate settings s w =
      .ok (.success (Text.tidy code) (ws ++ ws') (metadata settings s))
        { t with events := t.events ++ [.generated s.models.length language] } := by
  rw [Report.generate, tryCatch_eq, run_eq hws hws', bind_of_ok h]
  rfl

theorem generate_of_error {ws ws' : List Warning} (hws : settingsWarnings settings = .ok ws)
    (hws' : schemaWarnings s = .ok ws') {e : Fault} {t : Session}
    (h : source settings.style s (warnedOf (ws ++ ws') w) = .error e t) :
    Report.generate settings s w =
      .ok (.failure e) { t with events := t.events ++ [.generationFailed] } := by
  rw [Report.generate, tryCatch_eq, run_eq hws hws', bind_eq_error_iff.mpr (.inl h)]
  rfl

theorem generate_success {t : Session} {code : String} {ws : List Warning} {facts : Metadata}
    (h : Report.generate settings s w = .ok (.success code ws facts) t) :
    ∃ ws₁ ws₂ raw u, settingsWarnings settings = .ok ws₁ ∧ schemaWarnings s = .ok ws₂ ∧
      ws = ws₁ ++ ws₂ ∧ source settings.style s (warnedOf ws w) = .ok raw u ∧
      code = Text.tidy raw ∧ facts = metadata settings s := by
  cases hws₁ : settingsWarnings settings with
  | error e =>
    rw [Report.generate, tryCatch_eq, Report.run, hws₁] at h
    cases h
  | ok ws₁ =>
    cases hws₂ : schemaWarnings s with
    | error e =>
      rw [Report.generate, tryCatch_eq, Report.run, hws₁, hws₂] at h
      cases h
    | ok ws₂ =>
      cases hraw : source settings.style s (warnedOf (ws₁ ++ ws₂) w) with
      | error e u =>
        rw [generate_of_error hws₁ hws₂ hraw] at h
        cases h
      | ok raw u =>
        rw [generate_of_ok hws₁ hws₂ hraw] at h
        cases h
        exact ⟨ws₁, ws₂, raw, u, rfl, rfl, rfl, hraw, rfl, rfl⟩

theorem generate_with_room (hsettings : settings.Typed) (hs : s.Typed)
    (hw : w.printer.indent = settings.indent room) (hroom : RoomFor settings room s) {ws ws' : List Warning}
    (hws : settingsWarnings settings = .ok ws) (hws' : schemaWarnings s = .ok ws') :
    ∃ t, Report.generate settings s w =
        .ok (.success (Text.tidy (sourceText settings room s)) (ws ++ ws') (metadata settings s)) t ∧
      t.printer.level = 0 ∧ t.printer.scopes = [] := by
  obtain ⟨t, hgives, hlevel, hscopes⟩ :=
    gives_source_of_typed (w := warnedOf (ws ++ ws') w) hsettings hs hw
  exact ⟨_, generate_of_ok hws hws' (hgives.ok hroom), hlevel, hscopes⟩

theorem generate_without_room (hsettings : settings.Typed) (hs : s.Typed)
    (hw : w.printer.indent = settings.indent room) (hroom : ¬ RoomFor settings room s)
    {ws : List Warning} (hws : settingsWarnings settings = .ok ws) :
    ∃ e t, Report.generate settings s w = .ok (.failure e) t ∧ e.isNoRoom = true ∧
      t.printer.level = 0 ∧ t.printer.scopes = [] := by
  obtain ⟨ws', hws'⟩ := hs.schemaWarnings
  obtain ⟨e, t, hrun, hfault, hlevel, hscopes⟩ :=
    source_without_room (w := warnedOf (ws ++ ws') w) hsettings hs hw hroom
  exact ⟨e, _, generate_of_error hws hws' hrun, hfault, hlevel, hscopes⟩

theorem generate_without_warning {e : Fault} (h : settingsWarnings settings = .error e) (s : Schema)
    (w : Session) : ∃ t, Report.generate settings s w = .ok (.failure e) t ∧ t.printer = w.printer := by
  rw [Report.generate, tryCatch_eq, Report.run, h]
  exact ⟨_, rfl, rfl⟩

/-- A reported run succeeds if there is room and an indentation that is warned about can be written
out. If not, it still ends with a report, of just that fault, and in any case no block is left open. -/
theorem generation_is_total (hsettings : settings.Typed) (hs : s.Typed)
    (hw : w.printer.indent = settings.indent room) :
    (∃ r t, Report.generate settings s w = .ok r t ∧
      (settings.CanWarn → t.printer.level = 0 ∧ t.printer.scopes = []) ∧
      (settings.CanWarn → RoomFor settings room s → ∃ ws ws' code,
        settingsWarnings settings = .ok ws ∧ schemaWarnings s = .ok ws' ∧
        r = .success code (ws ++ ws') (metadata settings s)) ∧
      (settings.CanWarn → ¬ RoomFor settings room s → ∃ e, r = .failure e ∧ e.isNoRoom = true) ∧
      (¬ settings.CanWarn → r = .failure (.setting .indentUnwritable) ∧ t.printer = w.printer)) ∧
    ((∃ ws, settingsWarnings settings = .ok ws) ↔ settings.CanWarn) ∧
    (∃ ws, schemaWarnings s = .ok ws) ∧
    ((settings.indent room).Fits 3 → RoomFor settings room s) := by
  obtain ⟨ws', hws'⟩ := hs.schemaWarnings
  refine ⟨?_, ?_, ⟨ws', hws'⟩, roomFor_of_fits⟩
  · by_cases hwarn : settings.CanWarn
    · obtain ⟨ws, hws⟩ := hsettings.settingsWarnings hwarn
      by_cases hroom : RoomFor settings room s
      · obtain ⟨t, hrun, hclosed⟩ := generate_with_room hsettings hs hw hroom hws hws'
        refine ⟨_, t, hrun, fun _ => hclosed, ?_, ?_, ?_⟩
        · exact fun _ _ => ⟨ws, ws', _, hws, hws', rfl⟩
        · exact fun _ hnone => absurd hroom hnone
        · exact fun hnot => absurd hwarn hnot
      · obtain ⟨e, t, hrun, hfault, hclosed⟩ := generate_without_room hsettings hs hw hroom hws
        refine ⟨_, t, hrun, fun _ => hclosed, ?_, ?_, ?_⟩
        · exact fun _ hsome => absurd hsome hroom
        · exact fun _ _ => ⟨e, rfl, hfault⟩
        · exact fun hnot => absurd hwarn hnot
    · obtain ⟨t, hrun, hkept⟩ :=
        generate_without_warning (hsettings.settingsWarnings_unwritable hwarn) s w
      refine ⟨_, t, hrun, fun h => absurd h hwarn, ?_, ?_, ?_⟩
      · exact fun h => absurd h hwarn
      · exact fun h => absurd h hwarn
      · exact fun _ => ⟨rfl, hkept⟩
  · constructor
    · rintro ⟨ws, hws⟩
      by_contra hwarn
      rw [hsettings.settingsWarnings_unwritable hwarn] at hws
      cases hws
    · exact hsettings.settingsWarnings

theorem canWarn_of_pos {size : Int} (h : settings.value .indentSize = .int size) (hsize : 1 ≤ size) :
    settings.CanWarn := by
  intro size' h' hsmall
  obtain rfl := Json.int.inj (h.symm.trans h')
  omega

theorem typed_default : Settings.default.Typed := ⟨.inl rfl, ⟨"", rfl⟩, ⟨2, rfl⟩⟩

theorem generate_default (s : Schema) (hs : s.Typed) : ∃ ws code t, schemaWarnings s = .ok ws ∧
    Report.generate Settings.default s Settings.default.session =
      .ok (.success code ws (metadata Settings.default s)) t := by
  obtain ⟨ws, hws⟩ := hs.schemaWarnings
  have hsettings : settingsWarnings Settings.default = .ok [] := by decide
  obtain ⟨t, hrun, -⟩ := generate_with_room typed_default hs (Settings.default.session_indent none)
    (roomFor_of_fits (by decide)) hsettings hws
  exact ⟨ws, _, t, hws, hrun⟩

theorem typed_people : people.Typed := ⟨fitting_people.types, fitting_people.notes⟩

theorem people_generation_is_total :
    ∃ ws code t, Report.generate Settings.default people Settings.default.session =
        .ok (.success code ws (metadata Settings.default people)) t ∧
      t.printer.level = 0 ∧ t.printer.scopes = [] := by
  obtain ⟨⟨r, t, hrun, hclosed, hsuccess, -⟩, -, -, hroom⟩ :=
    generation_is_total typed_default typed_people (Settings.default.session_indent none)
  have hwarn : Settings.default.CanWarn := canWarn_of_pos rfl (by decide)
  obtain ⟨ws, ws', code, -, -, rfl⟩ := hsuccess hwarn (hroom (by decide))
  exact ⟨ws ++ ws', code, t, hrun, hclosed hwarn⟩

def pebbles : Schema where
  types := [⟨"Pebble", .object [] [⟨"mass", .named ⟨"Int", .scalar⟩, [], .absent, .absent⟩]⟩]

theorem typed_pebbles : pebbles.Typed := ⟨by decide, by decide⟩

def countless : Settings := Settings.default.set .indentSize (.int (-9223372036854775809))

theorem canWarn_countless : countless.CanWarn := by
  intro size h _
  obtain rfl := Json.int.inj h
  decide +kernel

def modelless : Schema where
  types := []

theorem typed_modelless : modelless.Typed := ⟨by decide, by decide⟩

def unwritable : Settings :=
  Settings.default.set .indentSize (.int (-(10 ^ Text.digitLimit : ℕ)))

theorem typed_unwritable : unwritable.Typed := ⟨.inl rfl, ⟨"", rfl⟩, ⟨_, rfl⟩⟩

theorem not_canWarn_unwritable : ¬ unwritable.CanWarn := by
  intro hwarn
  have hsmall (n : ℕ) : -(n : ℤ) < 1 := by omega
  have hdigits := hwarn _ rfl (hsmall _)
  rw [Int.natAbs_neg, Int.natAbs_natCast] at hdigits
  exact lt_irrefl _ hdigits

theorem unwritable_generation_fails :
    ∃ e t, Report.generate unwritable modelless unwritable.session = .ok (.failure e) t := by
  obtain ⟨t, hrun, -⟩ := generate_without_warning
    (typed_unwritable.settingsWarnings_unwritable not_canWarn_unwritable) modelless unwritable.session
  exact ⟨_, t, hrun⟩

theorem countless_generation_fails :
    (countless.Typed ∧ pebbles.Typed ∧
      ∃ e t, Report.generate countless pebbles countless.session = .ok (.failure e) t) ∧
    unwritable.Typed ∧ modelless.Typed ∧
      ∃ e t, Report.generate unwritable modelless unwritable.session = .ok (.failure e) t := by
  have htyped : countless.Typed := ⟨.inl rfl, ⟨"", rfl⟩, ⟨_, rfl⟩⟩
  have hroom : ¬ RoomFor countless none pebbles := not_roomFor_of_line 1 (by decide) (by decide)
  obtain ⟨ws, hws⟩ := htyped.settingsWarnings canWarn_countless
  obtain ⟨e, t, hrun, -⟩ :=
    generate_without_room htyped typed_pebbles (w := countless.session) rfl hroom hws
  exact ⟨⟨htyped, typed_pebbles, e, t, hrun⟩, typed_unwritable, typed_modelless,
    unwritable_generation_fails⟩

end Model

end RealmModels
