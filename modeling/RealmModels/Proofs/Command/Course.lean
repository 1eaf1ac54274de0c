import Mathlib
import RealmModels.Proofs.Command.Running
import RealmModels.Proofs.Loading.Endpoint
import RealmModels.Proofs.Loading.File

namespace RealmModels.Command

open Console Remote

open Running (Ends Reports refusal)

def savedLine (p : Path) : String :=
  "[green]✓[/green] Generated Realm models saved to [cyan]" ++ p.toString ++ "[/cyan]"

def unsavedLine (p : Path) (reason : OpenError) : String :=
  "[red]✗ Failed to write to " ++ p.toString ++ ":[/red] " ++ reason.message p

def failureLine (w : Surroundings) (f : Fault) : String :=
  "[red]✗ Code generation failed:[/red] " ++ Report.errorMessage f ++ w.onFault f

inductive Undelivered (d : Disk) (v : Json) (text : String) : Prop
  | notText (h : v.truthy = true) (hv : ∀ name, v ≠ .str name)
  | nulInName (name : String) (hv : v = .str name) (hname : name ≠ "")
      (h : d.write (Path.ofString name) text = .error .nulInName)
  | unsaved (name : String) (reason : OpenError) (hv : v = .str name) (hname : name ≠ "")
      (h : d.write (Path.ofString name) text = .error reason) (hreason : reason ≠ .nulInName)
      (hmarks : ¬ Showable (unsavedLine (Path.ofString name) reason))
  | saved (name : String) (d' : Disk) (hv : v = .str name) (hname : name ≠ "")
      (h : d.write (Path.ofString name) text = .ok d')
      (hmarks : ¬ Showable (savedLine (Path.ofString name)))

def Delivers (d : Disk) (v : Json) (text : String) : Prop :=
  v.truthy = false ∨
    ∃ name d', v = .str name ∧ name ≠ "" ∧ d.write (Path.ofString name) text = .ok d'

def Unannounced (o : Options) (ws : List Warning) (facts : Metadata) : Prop :=
  (o.has .verbose = true ∧ ¬ (Running.metadataTable facts).Fits) ∨
    ∃ warning ∈ ws, ¬ Showable (Running.warningLine warning)

inductive Unfinished (d : Disk) (w : Surroundings) (o : Options) (v : Json) : Report → Prop
  | failure (f : Fault) (hmarks : ¬ Showable (failureLine w f)) : Unfinished d w o v (.failure f)
  | undelivered (code : String) (ws : List Warning) (facts : Metadata)
      (h : Undelivered d v (code ++ "\n")) : Unfinished d w o v (.success code ws facts)
  | unannounced (code : String) (ws : List Warning) (facts : Metadata)
      (hdelivers : Delivers d v (code ++ "\n")) (h : Unannounced o ws facts) :
      Unfinished d w o v (.success code ws facts)

inductive Left (desk : Desk) (v : Json) (text : String) (desk' : Desk) : Prop
  | saved (name : String) (d' : Disk) (hv : v = .str name) (hname : name ≠ "")
      (h : desk.disk.write (Path.ofString name) text = .ok d')
      (hremarks : Desk.Remarks { desk with disk := d' } desk')
  | printed (hv : v.truthy = false) (hremarks : (desk.showing (.output text)).Remarks desk')

inductive Handed (desk : Desk) (v : Json) (text : String) : Bool → Desk → Prop
  | kept {desk' : Desk} (h : desk.Remarks desk') : Handed desk v text false desk'
  | left {desk' : Desk} (h : Left desk v text desk') : Handed desk v text true desk'

theorem Left.and_remarks {desk desk' desk'' : Desk} {v : Json} {text : String}
    (h : Left desk v text desk') (hremarks : desk'.Remarks desk'') : Left desk v text desk'' := by
  cases h with
  | saved name d' hv hname h hsaved => exact .saved name d' hv hname h (hsaved.trans hremarks)
  | printed hv hprinted => exact .printed hv (hprinted.trans hremarks)

section

variable {d d' : Disk} {v : Json} {text name : String}

theorem undelivered_unset (hv : v.truthy = false) : ¬ Undelivered d v text := by
  intro h
  cases h with
  | notText h => exact absurd h (by rw [hv]; exact Bool.false_ne_true)
  | nulInName name hname h | unsaved name _ hname h | saved name _ hname h =>
    subst hname
    exact h (by simpa [Json.truthy] using hv)

theorem undelivered_iff_of_ok (hname : name ≠ "") (h : d.write (Path.ofString name) text = .ok d') :
    Undelivered d (.str name) text ↔ ¬ Showable (savedLine (Path.ofString name)) := by
  refine ⟨fun hnot => ?_, .saved name d' rfl hname h⟩
  cases hnot with
  | notText _ hv => exact absurd rfl (hv name)
  | nulInName _ hv _ h' | unsaved _ _ hv _ h' =>
    obtain rfl := Json.str.inj hv
    rw [h] at h'
    cases h'
  | saved _ _ hv _ _ hmarks =>
    obtain rfl := Json.str.inj hv
    exact hmarks

theorem undelivered_iff_of_error {reason : OpenError} (hname : name ≠ "")
    (h : d.write (Path.ofString name) text = .error reason) (hreason : reason ≠ .nulInName) :
    Undelivered d (.str name) text ↔ ¬ Showable (unsavedLine (Path.ofString name) reason) := by
  refine ⟨fun hnot => ?_, .unsaved name reason rfl hname h hreason⟩
  cases hnot with
  | notText _ hv => exact absurd rfl (hv name)
  | nulInName _ hv _ h' =>
    obtain rfl := Json.str.inj hv
    exact absurd (Except.error.inj (h.symm.trans h')) hreason
  | unsaved _ _ hv _ h' _ hmarks =>
    obtain rfl := Json.str.inj hv
    obtain rfl := Except.error.inj (h.symm.trans h')
    exact hmarks
  | saved _ _ hv _ h' =>
    obtain rfl := Json.str.inj hv
    rw [h] at h'
    cases h'

theorem not_delivers_of_error {reason : OpenError} (hname : name ≠ "")
    (h : d.write (Path.ofString name) text = .error reason) : ¬ Delivers d (.str name) text := by
  rintro (hv | ⟨_, d', hv, -, h'⟩)
  · exact hname (by simpa [Json.truthy] using hv)
  · obtain rfl := Json.str.inj hv
    rw [h] at h'
    cases h'

theorem unfinished_success_iff {w : Surroundings} {o : Options} {code : String} {ws : List Warning}
    {facts : Metadata} : Unfinished d w o v (.success code ws facts) ↔
      Undelivered d v (code ++ "\n") ∨ Delivers d v (code ++ "\n") ∧ Unannounced o ws facts := by
  constructor
  · intro h
    cases h with
    | undelivered _ _ _ h => exact .inl h
    | unannounced _ _ _ hdelivers h => exact .inr ⟨hdelivers, h⟩
  · rintro (h | ⟨hdelivers, h⟩)
    · exact .undelivered code ws facts h
    · exact .unannounced code ws facts hdelivers h

end

inductive Concluded (desk : Desk) (v : Json) : Report → ℕ → Desk → Prop
  | refused {r : Report} {desk' : Desk} (h : desk.Remarks desk') : Concluded desk v r 1 desk'
  | delivered {code : String} {ws : List Warning} {facts : Metadata} {desk' : Desk}
      (h : Left desk v (code ++ "\n") desk') : Concluded desk v (.success code ws facts) 0 desk'

namespace Running

variable {desk : Desk} {code : String} {p : Path}

theorem ends_save_ok {d' : Disk} (h : desk.disk.write p (code ++ "\n") = .ok d') :
    Ends (save p code) desk (¬ Showable (savedLine p)) true (Desk.Remarks { desk with disk := d' }) := by
  refine (ends_of_ok (x := get) (P := (desk = ·)) _ rfl rfl).then ?_
  rintro _ rfl
  rw [h]
  refine (ends_of_ok (x := modify _) (P := ({ desk with disk := d' } = ·)) _ rfl rfl).then ?_
  rintro _ rfl
  exact (ends_say _ _).last fun _ hremarks => ends_pure true hremarks

theorem ends_save_nul (h : desk.disk.write p (code ++ "\n") = .error .nulInName) (b : Bool)
    (P : Desk → Prop) : Ends (save p code) desk True b P := by
  refine (ends_of_ok (x := get) (P := (desk = ·)) _ rfl rfl).then ?_
  rintro _ rfl
  rw [h]
  exact ends_throw _ _ _

theorem ends_save_error {reason : OpenError} (h : desk.disk.write p (code ++ "\n") = .error reason)
    (hreason : reason ≠ .nulInName) :
    Ends (save p code) desk (¬ Showable (unsavedLine p reason)) false desk.Remarks := by
  refine (ends_of_ok (x := get) (P := (desk = ·)) _ rfl rfl).then ?_
  rintro _ rfl
  rw [h]
  cases reason with
  | nulInName => exact absurd rfl hreason
  | missing | notFolder | isFolder | nameTooLong =>
    exact (ends_say _ _).last fun _ hremarks => ends_pure false hremarks

section

variable {s : Settings}

theorem deliver_of_text {name : String} (hv : s.value .outputFile = .str name) (hname : name ≠ "")
    (code : String) : deliver s code = save (Path.ofString name) code := by
  simp only [deliver, hv]
  rw [if_pos hname]

theorem ends_deliver_unset (hv : (s.value .outputFile).truthy = false) (code : String) (desk : Desk) :
    Ends (deliver s code) desk False true (desk.showing (.output (code ++ "\n")) = ·) := by
  have hprint : Ends (do print code; return true) desk False true
      (desk.showing (.output (code ++ "\n")) = ·) := ends_of_ok _ rfl rfl
  cases hvalue : s.value .outputFile with
  | str name =>
    have hname : name = "" := by simpa [hvalue, Json.truthy] using hv
    simp only [deliver, hvalue]
    rwa [if_neg (not_not_intro hname)]
  | null | bool | int | real | arr | obj =>
    simp only [deliver, hvalue]
    rw [hvalue] at hv
    rwa [if_neg (by rw [hv]; exact Bool.false_ne_true)]

theorem ends_deliver_notText (h : (s.value .outputFile).truthy = true)
    (hv : ∀ name, s.value .outputFile ≠ .str name) (code : String) (b : Bool) (P : Desk → Prop) :
    Ends (deliver s code) desk True b P := by
  cases hvalue : s.value .outputFile with
  | str name => exact absurd hvalue (hv name)
  | null | bool | int | real | arr | obj =>
    simp only [deliver, hvalue]
    rw [hvalue] at h
    rw [if_pos h]
    exact (ends_throw .outputNotPath () fun _ => True).stop b P

theorem exists_ends_deliver (s : Settings) (code : String) (desk : Desk) : ∃ isDelivered : Bool,
    (¬ Undelivered desk.disk (s.value .outputFile) (code ++ "\n") →
      (isDelivered = true ↔ Delivers desk.disk (s.value .outputFile) (code ++ "\n"))) ∧
    ∀ desk₁, desk.Quiet desk₁ → Ends (deliver s code) desk₁
      (Undelivered desk.disk (s.value .outputFile) (code ++ "\n")) isDelivered
      (Handed desk (s.value .outputFile) (code ++ "\n") isDelivered) := by
  generalize hvalue : s.value .outputFile = v
  cases hset : v.truthy with
  | false =>
    refine ⟨true, fun _ => iff_of_true rfl (.inl hset), fun desk₁ hquiet => ?_⟩
    refine Ends.congr (Ends.mono (ends_deliver_unset (hvalue ▸ hset) code desk₁) ?_)
      (iff_of_false not_false (undelivered_unset hset))
    rintro _ rfl
    exact .left (.printed hset (hquiet.showing _).remarks)
  | true =>
    by_cases hv : ∃ name, v = .str name
    · obtain ⟨name, rfl⟩ := hv
      have hname : name ≠ "" := by simpa [Json.truthy] using hset
      rw [deliver_of_text hvalue hname]
      cases hwrite : desk.disk.write (Path.ofString name) (code ++ "\n") with
      | ok d' =>
        refine ⟨true, fun _ => iff_of_true rfl (.inr ⟨name, d', rfl, hname, hwrite⟩), fun desk₁ hquiet => ?_⟩
        refine Ends.congr (Ends.mono (ends_save_ok (hquiet.disk ▸ hwrite)) fun _ h => ?_)
          (undelivered_iff_of_ok hname hwrite).symm
        exact .left (.saved name d' rfl hname hwrite ((hquiet.withDisk d').remarks.trans h))
      | error reason =>
        have hnot := not_delivers_of_error hname hwrite
        refine ⟨false, fun _ => iff_of_false Bool.false_ne_true hnot, fun desk₁ hquiet => ?_⟩
        -- a NUL in the name is the one refusal of the disk that is not reported
        by_cases hreason : reason = .nulInName
        · subst hreason
          exact (ends_save_nul (hquiet.disk ▸ hwrite) _ _).congr
            (iff_of_true trivial (.nulInName name rfl hname hwrite))
        · refine Ends.congr (Ends.mono (ends_save_error (hquiet.disk ▸ hwrite) hreason) fun _ h => ?_)
            (undelivered_iff_of_error hname hwrite hreason).symm
          exact .kept (hquiet.remarks.trans h)
    · have hstop : Undelivered desk.disk v (code ++ "\n") := .notText hset fun name h => hv ⟨name, h⟩
      refine ⟨false, fun hnot => absurd hstop hnot, fun desk₁ _ => ?_⟩
      exact (ends_deliver_notText (hvalue ▸ hset) (fun name h => hv ⟨name, hvalue ▸ h⟩) code _ _).congr
        (iff_of_true trivial hstop)

variable {schema : GraphQL.Schema} {w : Surroundings} {o : Options} {ws : List Warning} {facts : Metadata}
  {S : Prop}

theorem ends_generate_failure {f : Fault} (hreport : Reports w s schema (.failure f)) (desk : Desk) :
    Ends (generate w o s schema) desk (¬ Showable (failureLine w f)) 1 desk.Remarks :=
  (ends_report hreport desk).then fun desk₁ hquiet =>
    (ends_say (failureLine w f) desk₁).last fun _ h => ends_pure 1 (hquiet.remarks.trans h)

theorem ends_generate_undelivered {desk₁ : Desk} {v : Json} {text : String}
    (hreport : Reports w s schema (.success code ws facts)) (hquiet : desk.Quiet desk₁)
    (hdeliver : ∀ desk₂, desk.Quiet desk₂ → Ends (deliver s code) desk₂ S false (Handed desk v text false)) :
    Ends (generate w o s schema) desk₁ S 1 desk.Remarks := by
  refine (ends_report hreport desk₁).then fun desk₂ hquiet' => (hdeliver desk₂ (hquiet.trans hquiet')).last ?_
  rintro desk₃ ⟨h⟩
  exact ends_pure 1 h

theorem ends_generate_delivered {desk₁ : Desk} {v : Json} {text : String}
    (hreport : Reports w s schema (.success code ws facts)) (hquiet : desk.Quiet desk₁)
    (hdeliver : ∀ desk₂, desk.Quiet desk₂ → Ends (deliver s code) desk₂ S true (Handed desk v text true)) :
    Ends (generate w o s schema) desk₁ (S ∨ Unannounced o ws facts) 0 (Left desk v text) := by
  have hwarnings {desk₁ : Desk} (h : Left desk v text desk₁) :
      Ends (do sayWarnings ws; return 0) desk₁ (∃ warning ∈ ws, ¬ Showable (warningLine warning)) 0
        (Left desk v text) :=
    (ends_sayWarnings ws desk₁).last fun _ h' => ends_pure 0 (h.and_remarks h')
  refine (ends_report hreport desk₁).then fun desk₂ hquiet' => (hdeliver desk₂ (hquiet.trans hquiet')).bind ?_
  rintro desk₃ (_ | h)
  dsimp only
  rw [if_neg (show ¬ (!true) = true by decide)]
  split
  · next hverbose =>
    refine ((ends_sayMetadata facts desk₃).bind fun desk₄ h' => hwarnings (h.and_remarks h')).congr ?_
    simp [Unannounced, hverbose]
  · next hverbose => exact (hwarnings h).congr (by simp [Unannounced, hverbose])

theorem exists_ends_generate {r : Report} (hreport : Reports w s schema r) (desk : Desk) :
    ∃ exit, ∀ desk₁, desk.Quiet desk₁ → Ends (generate w o s schema) desk₁
      (Unfinished desk.disk w o (s.value .outputFile) r) exit
      (Concluded desk (s.value .outputFile) r exit) := by
  cases r with
  | failure f =>
    refine ⟨1, fun desk₁ hquiet => Ends.congr (Ends.mono (ends_generate_failure hreport desk₁)
      fun _ h => .refused (hquiet.remarks.trans h)) ?_⟩
    exact ⟨.failure f, fun h => by cases h; assumption⟩
  | success code ws facts =>
    simp only [unfinished_success_iff]
    obtain ⟨isDelivered, hdelivers, hdeliver⟩ := exists_ends_deliver s code desk
    cases isDelivered with
    | false =>
      refine ⟨1, fun desk₁ hquiet => Ends.congr (Ends.mono (ends_generate_undelivered hreport hquiet
        hdeliver) fun _ h => .refused h) ?_⟩
      refine (or_iff_left_of_imp fun h => ?_).symm
      by_contra hnot
      exact Bool.false_ne_true ((hdelivers hnot).mpr h.1)
    | true =>
      refine ⟨0, fun desk₁ hquiet => Ends.congr (Ends.mono (ends_generate_delivered hreport hquiet
        hdeliver) fun _ h => .delivered h) ?_⟩
      by_cases hnot : Undelivered desk.disk (s.value .outputFile) (code ++ "\n")
      · exact iff_of_true (.inl hnot) (.inl hnot)
      · simp [hnot, (hdelivers hnot).mp rfl]

end

end Running

/-- What ends a run without a report. -/
inductive Untold (d : Disk) (send : Request → Reply) (w : Surroundings) (o : Options) : Prop
  | load (e : LoadError) (h : Loading.Yields (o.loading d send w) (.error e)) (he : e.message? = none)
  | loadMessage (e : LoadError) (m : String) (h : Loading.Yields (o.loading d send w) (.error e))
      (he : e.message? = some m) (hmarks : ¬ Showable (refusal (m ++ w.onLoad e)))
  | settings (loaded : Loaded) (e : SettingsError) (h : Loading.Yields (o.loading d send w) (.ok loaded))
      (hs : (Settings.load d o.settingsFile? o.overrides w.limits.levels).2 = .error e) (he : e.isReported = false)
  | settingsMessage (loaded : Loaded) (e : SettingsError)
      (h : Loading.Yields (o.loading d send w) (.ok loaded))
      (hs : (Settings.load d o.settingsFile? o.overrides w.limits.levels).2 = .error e) (he : e.isReported = true)
      (hmarks : ¬ Showable (refusal e.message))
  | report (loaded : Loaded) (s : Settings) (r : Report)
      (h : Loading.Yields (o.loading d send w) (.ok loaded))
      (hs : (Settings.load d o.settingsFile? o.overrides w.limits.levels).2 = .ok s) (hr : Reports w s loaded.schema r)
      (hunfinished : Unfinished d w o (s.value .outputFile) r)

/-- How a run ends: with exit code one and remarks only, or with exit code zero and all of the code
for the schema and the settings. -/
inductive Ended (desk : Desk) (send : Request → Reply) (w : Surroundings) (o : Options) : ℕ → Desk → Prop
  | refused {desk' : Desk} (h : desk.Remarks desk') : Ended desk send w o 1 desk'
  | generated {desk' : Desk} (loaded : Loaded) (s : Settings) (code : String) (ws : List Warning)
      (facts : Metadata) (h : Loading.Yields (o.loading desk.disk send w) (.ok loaded))
      (hs : (Settings.load desk.disk o.settingsFile? o.overrides w.limits.levels).2 = .ok s)
      (hr : Reports w s loaded.schema (.success code ws facts))
      (hleft : Left desk (s.value .outputFile) (code ++ "\n") desk') : Ended desk send w o 0 desk'

theorem exists_yields_loading (o : Options) (d : Disk) (send : Request → Reply) (w : Surroundings) :
    ∃ r, Loading.Yields (o.loading d send w) r := by
  rw [Options.loading, Loading.either]
  split
  · exact ⟨_, Loading.yields_fail _⟩
  · split
    · exact ⟨_, Loading.yields_fail _⟩
    · split
      · obtain ⟨r, hr, -⟩ := Loading.exists_yields_file d (Path.ofString (o.schema.getD "")) w.limits.levels
        exact ⟨r, hr⟩
      · obtain ⟨r, hr, -⟩ := Loading.exists_yields_endpoint send { url := o.value .url }
        exact ⟨r, hr⟩

def Options.IsSourceless (o : Options) : Prop := o.schema.getD "" = "" ∧ o.isSet .url = false

section

variable {d : Disk} {send : Request → Reply} {w : Surroundings} {o : Options}

theorem yields_loading_of_isSourceless (h : o.IsSourceless) :
    Loading.Yields (o.loading d send w) (.error (.trouble .noSource)) := by
  have hurl : o.value .url = "" := by simpa [Options.isSet] using h.2
  rw [Options.loading, Loading.either, if_pos (by simp [h.1, hurl])]
  exact Loading.yields_fail _

theorem not_untold_of_isSourceless (h : o.IsSourceless) : ¬ Untold d send w o := by
  have hload : Loading.Yields (o.loading d send w) _ := yields_loading_of_isSourceless h
  have hshown : Showable (refusal (Log.LoadTrouble.noSource.summary ++ "")) := by decide +kernel
  intro huntold
  cases huntold with
  | load e h he =>
    obtain rfl := Except.error.inj (hload.unique h)
    cases he
  | loadMessage e m h he hmarks =>
    obtain rfl := Except.error.inj (hload.unique h)
    obtain rfl := Option.some.inj he
    exact hmarks hshown
  | settings _ _ h | settingsMessage _ _ h | report _ _ _ h => cases hload.unique h

theorem untold_iff_of_error {e : LoadError} (h : Loading.Yields (o.loading d send w) (.error e)) :
    Untold d send w o ↔ e.message? = none ∨
      ∃ m, e.message? = some m ∧ ¬ Showable (refusal (m ++ w.onLoad e)) := by
  constructor
  · intro huntold
    cases huntold with
    | load e' h' he =>
      obtain rfl := Except.error.inj (h.unique h')
      exact .inl he
    | loadMessage e' m h' he hmarks =>
      obtain rfl := Except.error.inj (h.unique h')
      exact .inr ⟨m, he, hmarks⟩
    | settings _ _ h' | settingsMessage _ _ h' | report _ _ _ h' => cases h.unique h'
  · rintro (he | ⟨m, he, hmarks⟩)
    · exact .load e h he
    · exact .loadMessage e m h he hmarks

theorem untold_iff_of_settings_error {loaded : Loaded} {e : SettingsError}
    (h : Loading.Yields (o.loading d send w) (.ok loaded))
    (hs : (Settings.load d o.settingsFile? o.overrides w.limits.levels).2 = .error e) :
    Untold d send w o ↔ e.isReported = false ∨
      e.isReported = true ∧ ¬ Showable (refusal e.message) := by
  constructor
  · intro huntold
    cases huntold with
    | load _ h' | loadMessage _ _ h' => cases h.unique h'
    | settings _ e' h' hs' he =>
      obtain rfl := Except.error.inj (hs.symm.trans hs')
      exact .inl he
    | settingsMessage _ e' h' hs' he hmarks =>
      obtain rfl := Except.error.inj (hs.symm.trans hs')
      exact .inr ⟨he, hmarks⟩
    | report _ _ _ h' hs' =>
      rw [hs] at hs'
      cases hs'
  · rintro (he | ⟨he, hmarks⟩)
    · exact .settings loaded e h hs he
    · exact .settingsMessage loaded e h hs he hmarks

theorem untold_iff_of_report {loaded : Loaded} {s : Settings} {r : Report}
    (h : Loading.Yields (o.loading d send w) (.ok loaded))
    (hs : (Settings.load d o.settingsFile? o.overrides w.limits.levels).2 = .ok s) (hr : Reports w s loaded.schema r) :
    Untold d send w o ↔ Unfinished d w o (s.value .outputFile) r := by
  constructor
  · intro huntold
    cases huntold with
    | load _ h' | loadMessage _ _ h' => cases h.unique h'
    | settings _ _ _ hs' | settingsMessage _ _ _ hs' =>
      rw [hs] at hs'
      cases hs'
    | report _ s' r' h' hs' hr' hunfinished =>
      obtain rfl := Except.ok.inj (h.unique h')
      obtain rfl := Except.ok.inj (hs.symm.trans hs')
      obtain rfl := hr.unique hr'
      exact hunfinished
  · exact .report loaded s r h hs hr

theorem ends_main_of_isSourceless (h : o.IsSourceless) (desk : Desk) :
    Ends (Running.main send w o) desk False 1 desk.Remarks := by
  have hshown : Showable (refusal "Input source required (schema file or --url)") := by decide +kernel
  rw [Running.main, if_pos (by simp [h.1, h.2])]
  exact (Running.ends_refuse _ desk).congr (iff_of_false (not_not_intro hshown) not_false)

section

variable {desk : Desk} {loaded : Loaded} {exit : ℕ} {T : Prop} {P : Desk → Prop}

theorem ends_main_of_error {e : LoadError} (hsource : ¬ o.IsSourceless)
    (hload : Loading.Yields (o.loading desk.disk send w) (.error e)) :
    Ends (Running.main send w o) desk (Untold desk.disk send w o) 1 desk.Remarks := by
  rw [Running.main, if_neg (by simpa [Options.IsSourceless] using hsource)]
  refine Ends.congr ?_ (untold_iff_of_error hload).symm
  cases hmessage : e.message? with
  | none =>
    have hstop := Running.ends_load_unreported (w := w) hload hmessage (.error "") desk.Quiet
    exact (hstop.stop 1 _).congr (by simp)
  | some m =>
    refine Ends.congr ((Running.ends_load_reported hload hmessage).then fun desk₁ hquiet =>
      (Running.ends_refuse _ desk₁).mono fun _ h => hquiet.remarks.trans h) (by simp)

theorem ends_main_of_loaded (hsource : ¬ o.IsSourceless)
    (hload : Loading.Yields (o.loading desk.disk send w) (.ok loaded))
    (h : ∀ desk₁, desk.Quiet desk₁ → Ends (do
      match ← Running.settings w o with
      | .error message => Running.refuse message
      | .ok s => Running.generate w o s loaded.schema) desk₁ T exit P) :
    Ends (Running.main send w o) desk T exit P := by
  rw [Running.main, if_neg (by simpa [Options.IsSourceless] using hsource)]
  exact (Running.ends_load_ok hload).then h

theorem ends_main_of_settings_error {e : SettingsError} (hsource : ¬ o.IsSourceless)
    (hload : Loading.Yields (o.loading desk.disk send w) (.ok loaded))
    (hs : (Settings.load desk.disk o.settingsFile? o.overrides w.limits.levels).2 = .error e) :
    Ends (Running.main send w o) desk (Untold desk.disk send w o) 1 desk.Remarks := by
  refine Ends.congr (ends_main_of_loaded hsource hload fun desk₁ hquiet => ?_)
    (untold_iff_of_settings_error hload hs).symm
  -- the load leaves the disk as it is, so that the same settings are read after it
  have hs₁ := hquiet.disk.symm ▸ hs
  cases hreported : e.isReported with
  | false =>
    have hstop := Running.ends_settings_unreported hs₁ hreported (.error "") desk.Quiet
    exact (hstop.stop 1 _).congr (by simp)
  | true =>
    refine Ends.congr ((Running.ends_settings_reported hs₁ hreported).then fun desk₂ hquiet' =>
      (Running.ends_refuse _ desk₂).mono fun _ h => (hquiet.trans hquiet').remarks.trans h) (by simp)

theorem ends_main_of_settings {s : Settings} (hsource : ¬ o.IsSourceless)
    (hload : Loading.Yields (o.loading desk.disk send w) (.ok loaded))
    (hs : (Settings.load desk.disk o.settingsFile? o.overrides w.limits.levels).2 = .ok s)
    (h : ∀ desk₁, desk.Quiet desk₁ → Ends (Running.generate w o s loaded.schema) desk₁ T exit P) :
    Ends (Running.main send w o) desk T exit P :=
  ends_main_of_loaded hsource hload fun _ hquiet =>
    (Running.ends_settings_ok (hquiet.disk.symm ▸ hs)).then fun desk₂ hquiet' =>
      h desk₂ (hquiet.trans hquiet')

theorem ends_main_printed {s : Settings} {code : String} {ws : List Warning} {facts : Metadata}
    (hsource : ¬ o.IsSourceless) (hload : Loading.Yields (o.loading desk.disk send w) (.ok loaded))
    (hs : (Settings.load desk.disk o.settingsFile? o.overrides w.limits.levels).2 = .ok s)
    (hr : Reports w s loaded.schema (.success code ws facts)) (hv : (s.value .outputFile).truthy = false) :
    Ends (Running.main send w o) desk (Unannounced o ws facts) 0
      (Left desk (s.value .outputFile) (code ++ "\n")) := by
  refine ends_main_of_settings hsource hload hs fun desk₁ hquiet =>
    (Running.ends_generate_delivered (S := False) hr hquiet fun desk₂ hquiet' => ?_).congr
      (iff_of_eq (false_or _))
  refine (Running.ends_deliver_unset hv code desk₂).mono ?_
  rintro _ rfl
  exact .left (.printed hv (hquiet'.showing _).remarks)

theorem ends_main (send : Request → Reply) (w : Surroundings) (o : Options) (desk : Desk) :
    ∃ exit, Ends (Running.main send w o) desk (Untold desk.disk send w o) exit
      (Ended desk send w o exit) := by
  by_cases hsource : o.IsSourceless
  · refine ⟨1, Ends.mono (Ends.congr (ends_main_of_isSourceless hsource desk) ?_) fun _ h => .refused h⟩
    exact iff_of_false not_false (not_untold_of_isSourceless hsource)
  obtain ⟨r, hload⟩ := exists_yields_loading o desk.disk send w
  cases r with
  | error e => exact ⟨1, (ends_main_of_error hsource hload).mono fun _ h => .refused h⟩
  | ok loaded =>
    cases hs : (Settings.load desk.disk o.settingsFile? o.overrides w.limits.levels).2 with
    | error e => exact ⟨1, (ends_main_of_settings_error hsource hload hs).mono fun _ h => .refused h⟩
    | ok s =>
      obtain ⟨r, hr⟩ := Running.exists_reports w s loaded.schema
      obtain ⟨exit, hgenerate⟩ := Running.exists_ends_generate (w := w) (o := o) hr desk
      refine ⟨exit, Ends.mono (Ends.congr (ends_main_of_settings hsource hload hs hgenerate)
        (untold_iff_of_report hload hs hr).symm) fun desk' h => ?_⟩
      cases h with
      | refused h => exact .refused h
      | delivered h => exact .generated loaded s _ _ _ hload hs hr h

end

end

end RealmModels.Command
