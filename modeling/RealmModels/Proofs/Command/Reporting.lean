import Mathlib
import RealmModels.Proofs.Command.Arguments
import RealmModels.Proofs.Command.Writes
import RealmModels.Proofs.Model.Totality

/-!
Which runs on a schema file end with an exit code. Errors of the file system and of the formats are
reported, but not bytes that are no text, values beyond a limit, settings of the wrong type, and texts
of the input that look like marks of the console.
-/

namespace RealmModels.Command

open Console Remote

open Running (Reports refusal)

def Options.PairsUnits (o : Options) (d : Disk) (w : Surroundings) : Prop :=
  o.isSet .config = true → d.PairsUnits (Path.ofString (o.value .config)) w.limits.levels

structure Generates (d : Disk) (w : Surroundings) (o : Options) (path : String) (s : Settings)
    (r : Report) : Prop where
  settings : (Settings.load d o.settingsFile? o.overrides w.limits.levels).2 = .ok s
  report : ∃ loaded, Loading.Yields (Loading.file d (Path.ofString path) w.limits.levels) (.ok loaded) ∧
    Reports w s loaded.schema r

inductive Escapes (d : Disk) (w : Surroundings) (o : Options) (path : String) : Prop
  | schemaFile (h : Loading.Unloadable d (Path.ofString path) w.limits.levels)
  | schemaMessage (e : LoadError) (m : String)
      (h : Loading.Yields (Loading.file d (Path.ofString path) w.limits.levels) (.error e))
      (he : e.message? = some m) (hmarks : ¬ Showable (refusal (m ++ w.onLoad e)))
  | settingsFile (loaded : Loaded)
      (h : Loading.Yields (Loading.file d (Path.ofString path) w.limits.levels) (.ok loaded))
      (hconfig : o.isSet .config = true)
      (hfile : Settings.Unreadable d (Path.ofString (o.value .config)) w.limits.levels)
  | settingsMessage (loaded : Loaded) (e : SettingsError)
      (h : Loading.Yields (Loading.file d (Path.ofString path) w.limits.levels) (.ok loaded))
      (hs : (Settings.load d o.settingsFile? o.overrides w.limits.levels).2 = .error e) (he : e.isReported = true)
      (hmarks : ¬ Showable (refusal e.message))
  | failureMessage (s : Settings) (f : Fault) (h : Generates d w o path s (.failure f))
      (hmarks : ¬ Showable (failureLine w f))
  | delivery (s : Settings) (code : String) (ws : List Warning) (facts : Metadata)
      (h : Generates d w o path s (.success code ws facts))
      (hdelivery : Undelivered d (s.value .outputFile) (code ++ "\n"))
  | namespaceName (s : Settings) (code : String) (ws : List Warning) (facts : Metadata)
      (h : Generates d w o path s (.success code ws facts))
      (hdelivers : Delivers d (s.value .outputFile) (code ++ "\n")) (hverbose : o.has .verbose = true)
      (hmarks : ¬ Showable (s.value .namespaceName).display)
  | warning (s : Settings) (code : String) (ws : List Warning) (facts : Metadata) (warning : Warning)
      (h : Generates d w o path s (.success code ws facts))
      (hdelivers : Delivers d (s.value .outputFile) (code ++ "\n")) (hwarning : warning ∈ ws)
      (hmarks : ¬ Showable (Running.warningLine warning))

theorem fits_metadataTable (s : Settings) (schema : GraphQL.Schema) :
    (Running.metadataTable (metadata s schema)).Fits ↔ Showable (s.value .namespaceName).display := by
  constructor
  · rintro ⟨-, -, hrows⟩
    exact (hrows ("Namespace", (s.value .namespaceName).display) (by simp [Running.metadataTable, metadata])).2
  -- only the namespace is a text of the input; numbers and truth values have no marks
  · intro h
    have hcount : Showable (toString schema.models.length) := showable_of_lacks (.natCast (by decide) _)
    have hscalars (b : Bool) : Showable (Json.bool b).display := by cases b <;> decide +kernel
    have htitle : Showable "📊 Generation Metadata" := by decide +kernel
    have hhead : Showable "Property" ∧ Showable "Value" := by decide +kernel
    refine ⟨htitle, hhead, ?_⟩
    simp only [Running.metadataTable, metadata, List.forall_mem_cons]
    exact ⟨by decide +kernel, by decide +kernel, ⟨by decide +kernel, hcount⟩, ⟨by decide +kernel, h⟩,
      ⟨by decide +kernel, hscalars _⟩, by simp⟩

theorem Generates.facts_eq {d : Disk} {o : Options} {path : String} {s : Settings} {code : String}
    {ws : List Warning} {facts : Metadata} (h : Generates d w o path s (.success code ws facts)) :
    ∃ schema, facts = metadata s schema := by
  obtain ⟨loaded, -, after, hreport⟩ := h.report
  obtain ⟨-, -, -, -, -, -, -, -, -, hfacts⟩ := Model.generate_success hreport
  exact ⟨loaded.schema, hfacts⟩

section

variable {d : Disk} {send : Request → Reply} {w : Surroundings} {o : Options} {path : String}

theorem loading_of_schema (hschema : o.schema = some path) (hurl : o.isSet .url = false)
    (hpath : path ≠ "") :
    o.loading d send w = Loading.file d (Path.ofString path) w.limits.levels := by
  have hvalue : o.value .url = "" := by simpa [Options.isSet] using hurl
  rw [Options.loading, hschema, Option.getD_some, hvalue, Loading.either, if_neg (by simp [hpath]),
    if_neg (by simp), if_pos hpath]

theorem settings_wordless_iff (d : Disk) (w : Surroundings) (o : Options) (hunits : o.PairsUnits d w) :
    Settings.IsWordless (Settings.load d o.settingsFile? o.overrides w.limits.levels).2 ↔
      o.isSet .config = true ∧ Settings.Unreadable d (Path.ofString (o.value .config)) w.limits.levels := by
  rw [Options.settingsFile?]
  cases hconfig : o.isSet .config with
  | false =>
    refine iff_of_false (fun h => ?_) (fun h => Bool.false_ne_true h.1)
    rw [if_neg Bool.false_ne_true] at h
    simp only [Settings.load] at h
    exact ((Settings.isWordless_merged_iff o.plain_overrides).mp h).1 rfl
  | true => simpa using Settings.isWordless_load_iff o.plain_overrides (hunits hconfig)

theorem escapes_of_report {s : Settings} {r : Report} (h : Generates d w o path s r)
    (hunfinished : Unfinished d w o (s.value .outputFile) r) : Escapes d w o path := by
  cases hunfinished with
  | failure f hmarks => exact .failureMessage s f h hmarks
  | undelivered code ws facts hdelivery => exact .delivery s code ws facts h hdelivery
  | unannounced code ws facts hdelivers hnot =>
    rcases hnot with ⟨hverbose, hfits⟩ | ⟨warning, hwarning, hmarks⟩
    · obtain ⟨schema, rfl⟩ := h.facts_eq
      rw [fits_metadataTable] at hfits
      exact .namespaceName s code ws _ h hdelivers hverbose hfits
    · exact .warning s code ws facts warning h hdelivers hwarning hmarks

theorem untold_of_unfinished
    (hload : o.loading d send w = Loading.file d (Path.ofString path) w.limits.levels) {s : Settings} {r : Report} (h : Generates d w o path s r)
    (hunfinished : Unfinished d w o (s.value .outputFile) r) : Untold d send w o := by
  obtain ⟨loaded, hloaded, hr⟩ := h.report
  exact .report loaded s r (hload ▸ hloaded) h.settings hr hunfinished

theorem untold_iff_escapes
    (hload : o.loading d send w = Loading.file d (Path.ofString path) w.limits.levels)
    (hunits : d.PairsUnits (Path.ofString path) w.limits.levels) (hconfigUnits : o.PairsUnits d w) :
    Untold d send w o ↔ Escapes d w o path := by
  obtain ⟨r, hfile, hwordless⟩ := Loading.exists_yields_file d (Path.ofString path) w.limits.levels
  replace hwordless := hwordless hunits
  constructor
  · intro huntold
    cases huntold with
    | load e h he =>
      obtain rfl := hfile.unique (hload ▸ h)
      exact .schemaFile (hwordless.mp he)
    | loadMessage e m h he hmarks => exact .schemaMessage e m (hload ▸ h) he hmarks
    | settings loaded e h hs he =>
      obtain ⟨hconfig, hunreadable⟩ := (settings_wordless_iff d w o hconfigUnits).mp (by rw [hs]; exact he)
      exact .settingsFile loaded (hload ▸ h) hconfig hunreadable
    | settingsMessage loaded e h hs he hmarks =>
      exact .settingsMessage loaded e (hload ▸ h) hs he hmarks
    | report loaded s r h hs hr hunfinished =>
      exact escapes_of_report ⟨hs, loaded, hload ▸ h, hr⟩ hunfinished
  · intro hescapes
    cases hescapes with
    | schemaFile h =>
      have hnone := hwordless.mpr h
      cases r with
      | ok loaded => exact hnone.elim
      | error e => exact .load e (hload ▸ hfile) hnone
    | schemaMessage e m h he hmarks => exact .loadMessage e m (hload ▸ h) he hmarks
    | settingsFile loaded h hconfig hunreadable =>
      have hnone := (settings_wordless_iff d w o hconfigUnits).mpr ⟨hconfig, hunreadable⟩
      cases hs : (Settings.load d o.settingsFile? o.overrides w.limits.levels).2 with
      | ok s =>
        rw [hs] at hnone
        exact hnone.elim
      | error e =>
        rw [hs] at hnone
        exact .settings loaded e (hload ▸ h) hs hnone
    | settingsMessage loaded e h hs he hmarks =>
      exact .settingsMessage loaded e (hload ▸ h) hs he hmarks
    | failureMessage s f h hmarks => exact untold_of_unfinished hload h (.failure f hmarks)
    | delivery s code ws facts h hdelivery =>
      exact untold_of_unfinished hload h (.undelivered code ws facts hdelivery)
    | namespaceName s code ws facts h hdelivers hverbose hmarks =>
      obtain ⟨schema, rfl⟩ := h.facts_eq
      refine untold_of_unfinished hload h (.unannounced code ws _ hdelivers (.inl ?_))
      rw [fits_metadataTable]
      exact ⟨hverbose, hmarks⟩
    | warning s code ws facts warning h hdelivers hwarning hmarks =>
      exact untold_of_unfinished hload h
        (.unannounced code ws facts hdelivers (.inr ⟨warning, hwarning, hmarks⟩))

theorem exits_iff_not_untold {arguments : List String} (h : Options.ofArguments? arguments = some o)
    (hhelp : o.has .help = false) :
    (∃ exit ≤ 1, (run d send arguments w).1 = .exit exit) ↔ ¬ Untold d send w o := by
  rw [run_eq h hhelp]
  obtain ⟨exit, hmain⟩ := ends_main send w o { disk := d }
  rcases hmain with ⟨huntold, s, desk, hmain⟩ | ⟨htold, desk, hmain, hended⟩
  · rw [hmain]
    exact iff_of_false (fun ⟨_, _, h⟩ => nomatch h) (not_not_intro huntold)
  · rw [hmain]
    refine iff_of_true ⟨exit, ?_, rfl⟩ htold
    cases hended with
    | refused => exact Nat.le_refl 1
    | generated => exact Nat.zero_le 1

end

def strayByteDisk : Disk := ⟨[(["a.gql"], .bytes ⟨#[0xff]⟩)], []⟩

theorem strayByteDisk_notText : strayByteDisk.NotText (Path.ofString "a.gql") :=
  ⟨.bytes ⟨#[0xff]⟩, by cbv, by decide +kernel⟩

end RealmModels.Command
