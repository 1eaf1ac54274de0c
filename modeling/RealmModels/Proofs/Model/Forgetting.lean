import Mathlib
import RealmModels.Proofs.Model.Indentation
import RealmModels.Proofs.Script.History
import RealmModels.Template.Standard

/-!
A generator has no memory: after any history the source of a schema is written, or fails to be, just as
it is at first, and the same is reported. The printer is reset before it is read, and the names before
each class.
-/

namespace RealmModels.Model

open GraphQL Swift Writing

theorem respects_sourceBody_any (style : Style) (s : Schema) :
    Respects (fun _ _ => True) (sourceBody style s) := by
  have hclass (name : String) (fields : Option (List Field)) :
      Respects (fun _ _ => True) (declareClass style name fields) := by
    rw [declareClass_eq]
    apply (Respects.report _).seq
    exact ((habit_respects Eq).classDeclaration (.inr trivial) .giveName).behindReset
  exact (habit_respects _).sourceBody (.inr trivial) fun _ _ => hclass _ _

theorem source_of_indent (style : Style) (s : Schema) {w w' : Session}
    (h : w.printer.indent = w'.printer.indent) :
    ∃ r t t', source style s w = ended r t ∧ source style s w' = ended r t' ∧ t.printer = t'.printer ∧
      ∃ news, t.events = w.events ++ news ∧ t'.events = w'.events ++ news := by
  -- both runs begin with a reset, which keeps nothing but the indentation
  have hprinter : w.printer.reset = w'.printer.reset := by
    rw [Printer.reset, Printer.reset, h]
  obtain ⟨r, t, t', hrun, hrun', hboth⟩ := respects_sourceBody_any style s
    { w with printer := w.printer.reset } { w' with printer := w'.printer.reset } hprinter trivial
  exact ⟨r, t, t', hrun, hrun', hboth.printer, hboth.events⟩

/-- After any history a source ends with the same text or fault as in a new session, leaves the same
printer and adds the same events to those that there were. -/
theorem source_forgets_history (settings : Settings) {history : List Operation}
    (hhistory : ∀ o ∈ history, o.Offered) (room : Option ℕ) (s : Schema) :
    ∃ r t t', source settings.style s (settings.sessionAfter history room) = ended r t ∧
      source settings.style s (settings.session room) = ended r t' ∧ t.printer = t'.printer ∧
      t.events = (settings.sessionAfter history room).events ++ t'.events := by
  have hindent : (settings.sessionAfter history room).printer.indent =
      (settings.session room).printer.indent := settings.sessionAfter_indent hhistory room
  obtain ⟨r, t, t', hrun, hrun', hprinter, news, hnews, hnews'⟩ :=
    source_of_indent settings.style s hindent
  refine ⟨r, t, t', hrun, hrun', hprinter, ?_⟩
  rw [hnews, hnews']
  rfl

def interrupted : List Operation :=
  [.script Template.standard people
    [.act "open_scope" (.openDeclaration ⟨"Person", "class", true⟩ {}),
      .block "with_indent" .indented [.act "print" (.print "("), .act "raise" (.interrupt "stopped")],
      .act "open_block" (.openBlock " \x7b")],
    .names (.take "nickName")]

theorem offered_interrupted : ∀ o ∈ interrupted, o.Offered := by
  refine List.forall_mem_cons.mpr ⟨?_, List.forall_mem_singleton.mpr trivial⟩
  refine List.forall_mem_cons.mpr ⟨.act _ _, List.forall_mem_cons.mpr ⟨?_, ?_⟩⟩
  · apply Step.Offered.block _ .indented
    exact List.forall_mem_cons.mpr ⟨.act _ _, List.forall_mem_singleton.mpr (.act _ _)⟩
  · exact List.forall_mem_singleton.mpr (.act _ _)

theorem people_source_forgets_interruption :
    (Settings.default.sessionAfter interrupted).printer.level = 2 ∧
    (Settings.default.sessionAfter interrupted).printer.scopes = [⟨"Person", "class", true⟩] ∧
    ∃ code t t',
      source Settings.default.style people (Settings.default.sessionAfter interrupted) = .ok code t ∧
      source Settings.default.style people Settings.default.session = .ok code t' ∧
      t.events = (Settings.default.sessionAfter interrupted).events ++ t'.events := by
  obtain ⟨r, t, t', hrun, hrun', -, hevents⟩ :=
    source_forgets_history Settings.default offered_interrupted none people
  obtain ⟨code, u, hcode⟩ := fitting_people.source (w := Settings.default.session) rfl
  rw [hcode] at hrun'
  cases r with
  | ok code' =>
    obtain ⟨rfl, rfl⟩ := EStateM.Result.ok.inj hrun'
    exact ⟨rfl, rfl, code, t, u, hrun, hcode, hevents⟩
  | error e => cases hrun'

end RealmModels.Model
