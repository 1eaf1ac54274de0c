import Mathlib
import RealmModels.Command.Run
import RealmModels.Proofs.Command.Overrides
import RealmModels.Proofs.Console.Showable
import RealmModels.Proofs.Disk.Writing
import RealmModels.Proofs.Loading.Outcome
import RealmModels.Proofs.Writing.Respects

namespace RealmModels

namespace Command

open Console Remote

namespace Shown

def IsRemark : Shown → Prop
  | output _ => False
  | console _ => True

end Shown

namespace Desk

structure Quiet (desk desk' : Desk) : Prop where
  disk : desk'.disk = desk.disk
  shown : desk'.shown = desk.shown

structure Remarks (desk desk' : Desk) : Prop where
  disk : desk'.disk = desk.disk
  shown : ∃ remarks, desk'.shown = desk.shown ++ remarks ∧ ∀ s ∈ remarks, s.IsRemark

variable {desk desk' desk'' : Desk}

theorem Quiet.trans (h : Quiet desk desk') (h' : Quiet desk' desk'') : Quiet desk desk'' :=
  ⟨h'.disk.trans h.disk, h'.shown.trans h.shown⟩

theorem Quiet.remarks (h : Quiet desk desk') : Remarks desk desk' :=
  ⟨h.disk, [], by rw [h.shown, List.append_nil], by simp⟩

theorem Quiet.withDisk (h : Quiet desk desk') (d : Disk) :
    Quiet { desk with disk := d } { desk' with disk := d } := ⟨rfl, h.shown⟩

theorem Quiet.showing (h : Quiet desk desk') (s : Shown) : Quiet (desk.showing s) (desk'.showing s) := by
  refine ⟨h.disk, ?_⟩
  rw [Desk.showing, Desk.showing, h.shown]

theorem Remarks.refl (desk : Desk) : Remarks desk desk := Quiet.remarks ⟨rfl, rfl⟩

theorem Remarks.trans (h : Remarks desk desk') (h' : Remarks desk' desk'') : Remarks desk desk'' := by
  obtain ⟨remarks, hshown, hall⟩ := h.shown
  obtain ⟨remarks', hshown', hall'⟩ := h'.shown
  refine ⟨h'.disk.trans h.disk, remarks ++ remarks', ?_, List.forall_mem_append.mpr ⟨hall, hall'⟩⟩
  rw [hshown', hshown, List.append_assoc]

theorem remarks_showing (desk : Desk) (ls : List (List Char)) :
    Remarks desk (desk.showing (.console ls)) :=
  ⟨rfl, [.console ls], rfl, by simp [Shown.IsRemark]⟩

end Desk

def Options.loading (o : Options) (d : Disk) (send : Request → Reply) (w : Surroundings) :
    Loading Loaded :=
  Loading.either d send (o.schema.getD "") { url := o.value .url } w.limits.levels

namespace Running

/-- `x` stops under just the condition `S`; otherwise it gives `a` and leaves a desk with `P`. -/
def Ends {α : Type} (x : Running α) (desk : Desk) (S : Prop) (a : α) (P : Desk → Prop) : Prop :=
  (S ∧ ∃ s desk', x desk = .error s desk') ∨ (¬ S ∧ ∃ desk', x desk = .ok a desk' ∧ P desk')

section

variable {α β : Type} {x : Running α} {f : α → Running β} {desk : Desk} {S T : Prop} {a : α} {b : β}
  {P : Desk → Prop} {Q : Desk → Prop}

theorem ends_of_ok (desk' : Desk) (h : x desk = .ok a desk') (hP : P desk') :
    Ends x desk False a P := .inr ⟨not_false, desk', h, hP⟩

theorem ends_of_error (s : Stop) (desk' : Desk) (h : x desk = .error s desk') (a : α)
    (P : Desk → Prop) : Ends x desk True a P := .inl ⟨trivial, s, desk', h⟩

theorem ends_pure (a : α) (hP : P desk) : Ends (pure a : Running α) desk False a P :=
  ends_of_ok desk rfl hP

theorem ends_throw (s : Stop) (a : α) (P : Desk → Prop) :
    Ends (throw s : Running α) desk True a P := ends_of_error s desk rfl a P

theorem Ends.congr (h : Ends x desk S a P) (hST : S ↔ T) : Ends x desk T a P := by
  rwa [Ends, ← hST]

theorem Ends.mono (h : Ends x desk S a P) (hPQ : ∀ desk', P desk' → Q desk') : Ends x desk S a Q :=
  h.imp_right fun ⟨hS, desk', hx, hP⟩ => ⟨hS, desk', hx, hPQ desk' hP⟩

theorem Ends.bind (hx : Ends x desk S a P) (hf : ∀ desk', P desk' → Ends (f a) desk' T b Q) :
    Ends (x >>= f) desk (S ∨ T) b Q := by
  change _ ∧ (∃ s desk', EStateM.bind x f desk = _) ∨ _ ∧ ∃ desk', EStateM.bind x f desk = _ ∧ _
  rcases hx with ⟨hS, s, desk', hx⟩ | ⟨hS, desk', hx, hP⟩
  · refine .inl ⟨.inl hS, s, desk', ?_⟩
    rw [EStateM.bind, hx]
  · rw [EStateM.bind, hx]
    exact (hf desk' hP).imp (And.imp_left .inr) (And.imp_left (not_or_intro hS))

theorem Ends.then (hx : Ends x desk False a P) (hf : ∀ desk', P desk' → Ends (f a) desk' T b Q) :
    Ends (x >>= f) desk T b Q := (hx.bind hf).congr (iff_of_eq (false_or T))

theorem Ends.last (hx : Ends x desk S a P) (hf : ∀ desk', P desk' → Ends (f a) desk' False b Q) :
    Ends (x >>= f) desk S b Q := (hx.bind hf).congr (iff_of_eq (or_false S))

theorem Ends.stop (hx : Ends x desk True a P) (b : β) (Q : Desk → Prop) :
    Ends (x >>= f) desk True b Q := by
  rcases hx with ⟨-, s, desk', hx⟩ | ⟨hnot, -⟩
  · refine ends_of_error s desk' ?_ b Q
    change EStateM.bind x f desk = _
    rw [EStateM.bind, hx]
  · exact absurd trivial hnot

end

theorem ends_say (markup : String) (desk : Desk) :
    Ends (say markup) desk (¬ Showable markup) () desk.Remarks := by
  cases hplain : plain markup with
  | ok cs =>
    refine (ends_of_ok (x := say markup) (desk.showing (.console (wrap .fold consoleWidth cs))) ?_
      (desk.remarks_showing _)).congr ?_
    · simp only [say, hplain]
      rfl
    · simp [Showable, hplain]
  | error fault =>
    refine (ends_of_error (x := say markup) (.marks fault) desk ?_ _ _).congr ?_
    · simp only [say, hplain]
      rfl
    · simp [Showable, hplain]

theorem ends_sayTable (t : Table) (desk : Desk) :
    Ends (sayTable t) desk (¬ t.Fits) () desk.Remarks := by
  rw [← t.render_isOk_iff consoleWidth]
  cases hrender : t.render consoleWidth with
  | ok ls =>
    refine (ends_of_ok (x := sayTable t) (desk.showing (.console ls)) ?_
      (desk.remarks_showing ls)).congr (by simp)
    simp only [sayTable, hrender]
    rfl
  | error fault =>
    refine (ends_of_error (x := sayTable t) (.marks fault) desk ?_ _ _).congr (by simp)
    simp only [sayTable, hrender]
    rfl

def refusal (message : String) : String := "[red]✗ Error:[/red] " ++ message

theorem ends_refuse (message : String) (desk : Desk) :
    Ends (refuse message) desk (¬ Showable (refusal message)) 1 desk.Remarks :=
  (ends_say _ desk).last fun _ h => ends_pure 1 h

section

variable {send : Request → Reply} {w : Surroundings} {o : Options} {desk : Desk}

theorem ends_load_ok {loaded : Loaded}
    (h : Loading.Yields (o.loading desk.disk send w) (.ok loaded)) :
    Ends (load send w o) desk False (.ok loaded.schema) desk.Quiet := by
  obtain ⟨j, hj⟩ := h desk.journal
  refine ends_of_ok { desk with journal := j } ?_ ⟨rfl, rfl⟩
  rw [Options.loading] at hj
  simp only [load, hj]

theorem ends_load_reported {e : LoadError} {m : String}
    (h : Loading.Yields (o.loading desk.disk send w) (.error e)) (hm : e.message? = some m) :
    Ends (load send w o) desk False (.error (m ++ w.onLoad e)) desk.Quiet := by
  obtain ⟨j, hj⟩ := h desk.journal
  refine ends_of_ok { desk with journal := j } ?_ ⟨rfl, rfl⟩
  rw [Options.loading] at hj
  simp only [load, hj, hm]

theorem ends_load_unreported {e : LoadError}
    (h : Loading.Yields (o.loading desk.disk send w) (.error e)) (hm : e.message? = none)
    (a : Except String GraphQL.Schema) (P : Desk → Prop) : Ends (load send w o) desk True a P := by
  obtain ⟨j, hj⟩ := h desk.journal
  refine ends_of_error (.load e) { desk with journal := j } ?_ a P
  rw [Options.loading] at hj
  simp only [load, hj, hm]

theorem ends_settings_ok {s : Settings}
    (h : (Settings.load desk.disk o.settingsFile? o.overrides w.limits.levels).2 = .ok s) :
    Ends (settings w o) desk False (.ok s) desk.Quiet := by
  refine ends_of_ok { desk with journal := { desk.journal with events :=
    desk.journal.events ++ (Settings.load desk.disk o.settingsFile? o.overrides w.limits.levels).1 } } ?_ ⟨rfl, rfl⟩
  rw [Options.settingsFile?] at h ⊢
  simp only [settings, h]

theorem ends_settings_reported {e : SettingsError}
    (h : (Settings.load desk.disk o.settingsFile? o.overrides w.limits.levels).2 = .error e)
    (he : e.isReported = true) :
    Ends (settings w o) desk False (.error e.message) desk.Quiet := by
  refine ends_of_ok { desk with journal := { desk.journal with events :=
    desk.journal.events ++ (Settings.load desk.disk o.settingsFile? o.overrides w.limits.levels).1 } } ?_ ⟨rfl, rfl⟩
  rw [Options.settingsFile?] at h ⊢
  simp only [settings, h, he, if_true]

theorem ends_settings_unreported {e : SettingsError}
    (h : (Settings.load desk.disk o.settingsFile? o.overrides w.limits.levels).2 = .error e)
    (he : e.isReported = false) (a : Except String Settings) (P : Desk → Prop) :
    Ends (settings w o) desk True a P := by
  refine ends_of_error (.settings e) { desk with journal := { desk.journal with
    events := desk.journal.events ++ (Settings.load desk.disk o.settingsFile? o.overrides w.limits.levels).1 } } ?_ a P
  rw [Options.settingsFile?] at h ⊢
  simp only [settings, h, he, Bool.false_eq_true, if_false]

def Reports (w : Surroundings) (s : Settings) (schema : GraphQL.Schema) (r : Report) : Prop :=
  ∃ after, Report.generate s schema (s.session w.limits.places) = .ok r after

theorem exists_reports (w : Surroundings) (s : Settings) (schema : GraphQL.Schema) : ∃ r, Reports w s schema r := by
  have hrun : ∃ r after, Report.generate s schema (s.session w.limits.places) = .ok r after := by
    rw [Report.generate, Writing.tryCatch_eq]
    cases Report.run s schema (s.session w.limits.places) with
    | ok r after => exact ⟨r, after, rfl⟩
    | error f after => exact ⟨.failure f, _, rfl⟩
  exact hrun

theorem Reports.unique {s : Settings} {schema : GraphQL.Schema} {r r' : Report}
    (h : Reports w s schema r) (h' : Reports w s schema r') : r = r' := by
  obtain ⟨after, h⟩ := h
  obtain ⟨after', h'⟩ := h'
  exact (EStateM.Result.ok.inj (h.symm.trans h')).1

theorem ends_report {s : Settings} {schema : GraphQL.Schema} {r : Report} (h : Reports w s schema r)
    (desk : Desk) : Ends (report w s schema) desk False r desk.Quiet := by
  obtain ⟨after, h⟩ := h
  refine ends_of_ok { desk with journal := { desk.journal with
    events := desk.journal.events ++ after.events } } ?_ ⟨rfl, rfl⟩
  simp only [report, h]

theorem ends_sayMetadata (m : Metadata) (desk : Desk) :
    Ends (sayMetadata m) desk (¬ (metadataTable m).Fits) () desk.Remarks :=
  (ends_of_ok (x := sayLines [[]]) _ rfl (desk.remarks_showing [[]])).then fun _ h =>
    (ends_sayTable _ _).mono fun _ h' => h.trans h'

def warningLine (warning : Warning) : String := "  [yellow]•[/yellow] " ++ warning.message

theorem ends_sayEach (ws : List Warning) (desk : Desk) :
    Ends (ws.forM fun warning => say (warningLine warning)) desk
      (∃ warning ∈ ws, ¬ Showable (warningLine warning)) () desk.Remarks := by
  induction ws generalizing desk with
  | nil => exact (ends_pure () (Desk.Remarks.refl desk)).congr (by simp)
  | cons warning ws ih =>
    refine Ends.congr (S := _ ∨ ∃ warning ∈ ws, ¬ Showable (warningLine warning)) ?_
      (by rw [List.exists_mem_cons_iff])
    exact (ends_say (warningLine warning) desk).bind fun desk' h => (ih desk').mono fun _ h' => h.trans h'

theorem ends_sayWarnings (ws : List Warning) (desk : Desk) :
    Ends (sayWarnings ws) desk (∃ warning ∈ ws, ¬ Showable (warningLine warning)) () desk.Remarks := by
  have hhead : Showable "\n[yellow]⚠️  Warnings:[/yellow]" := by decide +kernel
  cases ws with
  | nil => exact (ends_pure () (Desk.Remarks.refl desk)).congr (by simp)
  | cons warning ws =>
    refine ((ends_say _ desk).congr (iff_of_false (not_not_intro hhead) not_false)).then fun desk' h =>
      (ends_sayEach (warning :: ws) desk').mono fun _ h' => h.trans h'

end

end Running

end Command

end RealmModels
