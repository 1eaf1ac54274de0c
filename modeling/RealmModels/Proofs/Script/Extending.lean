import Mathlib
import RealmModels.Proofs.Script.History

namespace RealmModels

def Printer.Begins (p q : Printer) : Prop := ∃ more, q.output = p.output ++ more

structure Printer.Extends (p q : Printer) : Prop extends p.Keeps q where
  output : p.Begins q

namespace Printer

theorem Begins.refl (p : Printer) : p.Begins p := ⟨"", String.append_empty.symm⟩

theorem Begins.trans {p q r : Printer} (h : p.Begins q) (h' : q.Begins r) : p.Begins r := by
  obtain ⟨more, hmore⟩ := h
  obtain ⟨rest, hrest⟩ := h'
  exact ⟨more ++ rest, by rw [hrest, hmore, String.append_assoc]⟩

theorem Keeps.depth {p q : Printer} (h : p.Keeps q) : q.depth = p.depth :=
  congrArg List.length h.scopes

end Printer

namespace Printer.Extends

variable {p q r : Printer}

theorem refl (p : Printer) : p.Extends p := ⟨.refl p, .refl p⟩

theorem trans (h : p.Extends q) (h' : q.Extends r) : p.Extends r :=
  ⟨h.toKeeps.trans h'.toKeeps, h.output.trans h'.output⟩

theorem print (text : String) (p : Printer) : p.Extends (p.print text) := ⟨⟨rfl, rfl, rfl⟩, text, rfl⟩

theorem put (p : Printer) (l : Line) : p.Extends (p.put l) := by
  refine ⟨⟨p.put_indent l, p.put_level l, p.put_scopes l⟩, ?_⟩
  by_cases h : p.output = ""
  · exact ⟨l.render p.indent p.level, by rw [put_of_empty h, h, String.empty_append]⟩
  · exact ⟨"\n" ++ l.render p.indent p.level, by rw [put_of_ne h, String.append_assoc]⟩

theorem putAll (p : Printer) (ls : List Line) : p.Extends (p.putAll ls) := by
  induction ls generalizing p with
  | nil => exact .refl p
  | cons l ls ih => exact (Extends.put p l).trans (ih (p.put l))

theorem newline (p : Printer) : p.Extends p.newline := by
  rw [newline_eq_put_blank]
  exact .put p _

theorem newlineIfNeeded (p : Printer) : p.Extends p.newlineIfNeeded := by
  rw [Printer.newlineIfNeeded]
  split
  · exact .refl p
  · exact .newline p

end Printer.Extends

namespace Writing

open GraphQL Swift

theorem left_of_ok {α : Type} {w : Writing α} {s t : Session} {a : α} (h : w s = .ok a t) :
    left w s = t := by
  rw [left, h]

theorem left_of_error {α : Type} {w : Writing α} {s t : Session} {e : Fault} (h : w s = .error e t) :
    left w s = t := by
  rw [left, h]

def fault? {α : Type} (w : Writing α) (s : Session) : Option Fault :=
  match w s with
  | .ok _ _ => none
  | .error e _ => some e

theorem fault?_bind {α β : Type} (w : Writing α) (f : α → Writing β) (s : Session) :
    fault? (w >>= f) s =
      match w s with
      | .ok a t => fault? (f a) t
      | .error e _ => some e := by
  change fault? (EStateM.bind w f) s = _
  rw [fault?, EStateM.bind]
  cases w s <;> rfl

theorem left_bind_of {R : Printer → Printer → Prop} (htrans : ∀ {p q r}, R p q → R q r → R p r)
    {α β : Type} {w : Writing α} {f : α → Writing β} (hw : ∀ s, R s.printer (left w s).printer)
    (hf : ∀ a s, R s.printer (left (f a) s).printer) (s : Session) :
    R s.printer (left (w >>= f) s).printer := by
  have hleft := hw s
  rw [left_bind]
  cases hrun : w s with
  | ok a t =>
    rw [left_of_ok hrun] at hleft
    exact htrans hleft (hf a t)
  | error e t => rwa [left_of_error hrun] at hleft

def Extending {α : Type} (w : Writing α) : Prop :=
  ∀ s : Session, s.printer.Extends (left w s).printer

namespace Extending

variable {α β : Type}

theorem of_ok {w : Writing α} (h : Extending w) {s t : Session} {a : α} (hrun : w s = .ok a t) :
    s.printer.Extends t.printer := by
  have hleft := h s
  rwa [left_of_ok hrun] at hleft

theorem of_error {w : Writing α} (h : Extending w) {s t : Session} {e : Fault}
    (hrun : w s = .error e t) : s.printer.Extends t.printer := by
  have hleft := h s
  rwa [left_of_error hrun] at hleft

theorem pure (a : α) : Extending (Pure.pure a : Writing α) := fun _ => .refl _

theorem throw (e : Fault) : Extending (MonadExcept.throw e : Writing α) := fun _ => .refl _

theorem bind {w : Writing α} {f : α → Writing β} (hw : Extending w) (hf : ∀ a, Extending (f a)) :
    Extending (w >>= f) := fun s => left_bind_of (fun h h' => h.trans h') hw hf s

theorem seq {w : Writing α} {v : Writing β} (hw : Extending w) (hv : Extending v) :
    Extending (w >>= fun _ => v) := hw.bind fun _ => hv

theorem print (text : String) : Extending (print text) := fun _ => .print text _

theorem newline : Extending newline := fun _ => .newline _

theorem newlineIfNeeded : Extending newlineIfNeeded := fun _ => .newlineIfNeeded _

theorem printIndent : Extending printIndent := by
  intro s
  rw [left, Writing.printIndent, tryPrinter_eq, Printer.printIndent_eq]
  cases s.printer.indent.text s.printer.level with
  | ok white => exact .print white _
  | error e => exact .refl _

theorem line (text : String) : Extending (line text) := by
  unfold Writing.line
  split
  · exact newline.seq (printIndent.seq (print text))
  · exact pure ()

theorem comment (note : Note) : Extending (comment note) := by
  have hlines (ls : List String) : Extending (ls.forM Writing.line) := by
    induction ls with
    | nil => exact pure ()
    | cons l ls ih => exact (line l).seq ih
  rw [Swift.comment, words]
  cases note.words? with
  | some text => exact (pure text).bind fun _ => hlines _
  | none => exact (throw _).bind fun _ => hlines _

end Extending

theorem line_of_not_fits {s : Session} {text : String} (h : text ≠ "")
    (hfits : ¬ s.printer.indent.Fits s.printer.level) :
    ∃ e, line text s = .error (.printer e) { s with printer := s.printer.newline } := by
  have hnewline : s.printer.newline.indent = s.printer.indent ∧
      s.printer.newline.level = s.printer.level := by
    rw [Printer.newline_eq_put_blank]
    exact ⟨s.printer.put_indent _, s.printer.put_level _⟩
  have hline : line text s =
      (do printIndent; print text : Writing Unit) { s with printer := s.printer.newline } := by
    rw [line, if_pos h]
    rfl
  rw [hline]
  cases htext : s.printer.indent.text s.printer.level with
  | ok white => exact absurd (by rw [Indent.Fits, htext]; rfl) hfits
  | error e =>
    refine ⟨e, bind_eq_error_iff.mpr (.inl ?_)⟩
    rw [printIndent, tryPrinter_eq, Printer.printIndent_eq, hnewline.1, hnewline.2, htext]
    rfl

end Writing

end RealmModels
