import Mathlib
import RealmModels.Proofs.Writing.Habit

/-!
Programs that leave the printer as balanced as they found it, however they end, and that can fail for
want of room only: what they open they close again.
-/

namespace RealmModels

/-- The printer has the same level, the same open declarations and the same indentation. -/
structure Printer.Keeps (p q : Printer) : Prop where
  indent : q.indent = p.indent
  level : q.level = p.level
  scopes : q.scopes = p.scopes

theorem Printer.printIndent_eq (p : Printer) :
    p.printIndent = (p.indent.text p.level).map p.print := by
  rw [Printer.printIndent]
  cases p.indent.text p.level <;> rfl

namespace Printer.Keeps

variable {p q r : Printer}

theorem refl (p : Printer) : p.Keeps p := ⟨rfl, rfl, rfl⟩

theorem trans (h : p.Keeps q) (h' : q.Keeps r) : p.Keeps r :=
  ⟨h'.indent.trans h.indent, h'.level.trans h.level, h'.scopes.trans h.scopes⟩

theorem newline (p : Printer) : p.Keeps p.newline := by
  rw [newline_eq_put_blank]
  exact ⟨p.put_indent _, p.put_level _, p.put_scopes _⟩

theorem newlineIfNeeded (p : Printer) : p.Keeps p.newlineIfNeeded := by
  unfold Printer.newlineIfNeeded
  split
  · exact .refl p
  · exact .newline p

theorem printIndent (h : p.printIndent = .ok q) : p.Keeps q := by
  rw [printIndent_eq] at h
  cases hwhite : p.indent.text p.level with
  | ok white =>
    rw [hwhite] at h
    obtain rfl := Except.ok.inj h
    exact ⟨rfl, rfl, rfl⟩
  | error e =>
    rw [hwhite] at h
    cases h

end Printer.Keeps

def Fault.isNoRoom : Fault → Bool
  | .printer .indentTooLong | .printer .indentBeyondCount => true
  | _ => false

theorem Indent.isNoRoom_of_text {i : Indent} {level : ℕ} {e : PrinterError} (hi : i ≠ .unusable)
    (h : i.text level = .error e) : (Fault.printer e).isNoRoom = true := by
  cases i with
  | tab => cases h
  | unusable => exact absurd rfl hi
  | spaces width =>
    simp only [Indent.text] at h
    split at h
    · obtain rfl := Except.error.inj h
      rfl
    · split at h
      · obtain rfl := Except.error.inj h
        rfl
      · cases h

namespace Writing

open Swift

structure Ready (p : Printer) : Prop where
  indent : p.indent ≠ .unusable
  scopes : p.scopes.all (·.isText) = true

theorem Ready.kept {p q : Printer} (hp : Ready p) (h : p.Keeps q) : Ready q :=
  ⟨h.indent ▸ hp.indent, h.scopes ▸ hp.scopes⟩

structure Steady {α : Type} (w : Writing α) : Prop where
  keeps : ∀ s a t, Ready s.printer → w s = .ok a t → s.printer.Keeps t.printer
  stops : ∀ s e t, Ready s.printer → w s = .error e t → s.printer.Keeps t.printer ∧ e.isNoRoom = true

section

variable {α β : Type} {w : Writing α} {f : α → Writing β} {s t : Session} {b : β} {e : Fault}

theorem bind_eq_error_iff :
    (w >>= f) s = .error e t ↔ w s = .error e t ∨ ∃ a u, w s = .ok a u ∧ f a u = .error e t := by
  change EStateM.bind w f s = _ ↔ _
  simp only [EStateM.bind]
  cases w s with
  | ok a u => simp
  | error e u => simp

theorem bind_of_ok {a : α} (h : w s = .ok a t) : (w >>= f) s = f a t := by
  change EStateM.bind w f s = _
  rw [EStateM.bind, h]

theorem closing_eq_ok_iff {body : Writing α} {close : Writing Unit} {a : α} :
    closing body close s = .ok a t ↔ ∃ u, body s = .ok a u ∧ close u = .ok () t := by
  rw [closing]
  cases body s with
  | ok b u => cases hclose : close u <;> simp [hclose, and_assoc]
  | error e u => cases hclose : close u <;> simp [hclose]

theorem closing_eq_error_iff {body : Writing α} {close : Writing Unit} :
    closing body close s = .error e t ↔
      (∃ u, body s = .error e u ∧ close u = .ok () t) ∨
      (∃ a u, body s = .ok a u ∧ close u = .error e t) ∨
      ∃ e' u, body s = .error e' u ∧ close u = .error e t := by
  rw [closing]
  cases body s with
  | ok b u => cases hclose : close u <;> simp [hclose]
  | error e' u => cases hclose : close u <;> simp [hclose]

end

namespace Steady

variable {α β : Type}

theorem pure (a : α) : Steady (Pure.pure a : Writing α) := by
  constructor
  · rintro s b t - h
    obtain ⟨-, rfl, rfl⟩ := (gives_pure a s b t).mp h
    exact .refl _
  · rintro s e t - h
    cases h

theorem bind {w : Writing α} {f : α → Writing β} (hw : Steady w)
    (hf : ∀ s a t, w s = .ok a t → Steady (f a)) : Steady (w >>= f) := by
  constructor
  · intro s b t hs h
    obtain ⟨a, u, hrun, hrest⟩ := bind_eq_ok_iff.mp h
    have hkept := hw.keeps s a u hs hrun
    exact hkept.trans ((hf s a u hrun).keeps u b t (hs.kept hkept) hrest)
  · intro s e t hs h
    rcases bind_eq_error_iff.mp h with hrun | ⟨a, u, hrun, hrest⟩
    · exact hw.stops s e t hs hrun
    · have hkept := hw.keeps s a u hs hrun
      obtain ⟨hrestored, hfault⟩ := (hf s a u hrun).stops u e t (hs.kept hkept) hrest
      exact ⟨hkept.trans hrestored, hfault⟩

theorem onPrinter {f : Printer → Printer} (hf : ∀ p : Printer, p.Keeps (f p)) :
    Steady (onPrinter f) := by
  constructor
  · rintro s a t - h
    obtain ⟨-, -, rfl⟩ := (gives_onPrinter f s a t).mp h
    exact hf s.printer
  · rintro s e t - h
    cases h

theorem tryPrinter {f : Printer → Except PrinterError Printer}
    (hf : ∀ p q, f p = .ok q → p.Keeps q)
    (hfault : ∀ p e, Ready p → f p = .error e → (Fault.printer e).isNoRoom = true) :
    Steady (tryPrinter f) := by
  constructor
  · rintro s a t - h
    rw [tryPrinter_eq] at h
    split at h
    · next p hp =>
      obtain ⟨-, rfl⟩ := EStateM.Result.ok.inj h
      exact hf _ _ hp
    · cases h
  · intro s e t hs h
    rw [tryPrinter_eq] at h
    split at h
    · cases h
    · next err herr =>
      obtain ⟨rfl, rfl⟩ := EStateM.Result.error.inj h
      exact ⟨.refl _, hfault _ _ hs herr⟩

theorem look {f : Printer → Except PrinterError α} (hf : ∀ p, Ready p → (f p).isOk = true) :
    Steady (look f) := by
  constructor
  · rintro s a t - h
    rw [look_eq] at h
    split at h
    · obtain ⟨-, rfl⟩ := EStateM.Result.ok.inj h
      exact .refl _
    · cases h
  · intro s e t hs h
    rw [look_eq] at h
    have hok := hf s.printer hs
    split at h
    · cases h
    · next err herr =>
      rw [herr] at hok
      exact absurd hok Bool.false_ne_true

theorem print (text : String) : Steady (print text) := onPrinter fun _ => ⟨rfl, rfl, rfl⟩

theorem newline : Steady newline := onPrinter .newline

theorem newlineIfNeeded : Steady newlineIfNeeded := onPrinter .newlineIfNeeded

theorem report (e : Log.Event) : Steady (report e) := by
  constructor
  · rintro s a t - h
    obtain ⟨-, -, rfl⟩ := (gives_report e s a t).mp h
    exact .refl _
  · rintro s err t - h
    cases h

theorem printed : Steady (do return (← get).printer.output) := by
  constructor
  · rintro s a t - h
    obtain ⟨-, rfl⟩ := EStateM.Result.ok.inj h
    exact .refl _
  · rintro s err t - h
    cases h

theorem qualified (name : String) : Steady (Writing.look (·.qualified name)) := by
  apply look
  intro p hp
  simp only [Printer.qualified, hp.scopes]
  rfl

theorem printIndent : Steady printIndent := by
  apply tryPrinter
  · intro p q h
    exact .printIndent h
  · intro p e hp h
    rw [Printer.printIndent_eq] at h
    cases hwhite : p.indent.text p.level with
    | ok white =>
      rw [hwhite] at h
      cases h
    | error e' =>
      rw [hwhite] at h
      obtain rfl := Except.error.inj h
      exact Indent.isNoRoom_of_text hp.indent hwhite

theorem line (text : String) : Steady (line text) := by
  unfold Writing.line
  split
  · exact newline.bind fun _ _ _ _ => printIndent.bind fun _ _ _ _ => print text
  · exact pure ()

theorem comment {note : GraphQL.Note} (h : note.words?.isSome = true) : Steady (comment note) := by
  obtain ⟨text, htext⟩ := Option.isSome_iff_exists.mp h
  have hlines (ls : List String) : Steady (ls.forM Writing.line) := by
    induction ls with
    | nil => exact pure ()
    | cons l ls ih => exact (line l).bind fun _ _ _ _ => ih
  rw [Swift.comment, words, htext]
  exact (pure text).bind fun _ _ _ _ => hlines _

end Steady

theorem closeBlock_eq {s : Session} {level : ℕ} (h : s.printer.level = level + 1) (ending : String) :
    closeBlock ending s =
      line ending { s with printer := { s.printer with level := level } } :=
  bind_of_ok ((gives_dedent h).ok trivial)

def Inside (p q : Printer) : Prop := (p.print " \x7b").deepen.Keeps q

namespace Inside

variable {p : Printer} {s t : Session}

theorem lowered (hp : Ready p) (h : Inside p s.printer) :
    Ready { s.printer with level := p.level } ∧ p.Keeps { s.printer with level := p.level } :=
  ⟨⟨h.indent ▸ hp.indent, h.scopes ▸ hp.scopes⟩, ⟨h.indent, rfl, h.scopes⟩⟩

theorem keeps_closeBlock (hp : Ready p) (h : Inside p s.printer) (hclose : closeBlock "\x7d" s = .ok () t) :
    p.Keeps t.printer := by
  obtain ⟨hready, hkept⟩ := h.lowered hp
  rw [closeBlock_eq h.level] at hclose
  exact hkept.trans ((Steady.line _).keeps _ () t hready hclose)

theorem stops_closeBlock {e : Fault} (hp : Ready p) (h : Inside p s.printer)
    (hclose : closeBlock "\x7d" s = .error e t) : p.Keeps t.printer ∧ e.isNoRoom = true := by
  obtain ⟨hready, hkept⟩ := h.lowered hp
  rw [closeBlock_eq h.level] at hclose
  obtain ⟨hlowered, hfault⟩ := (Steady.line _).stops _ e t hready hclose
  exact ⟨hkept.trans hlowered, hfault⟩

end Inside

namespace Steady

variable {α : Type} {body : Writing α}

theorem braces (hbody : Steady body) : Steady (Block.braces.around body) := by
  have hopen (s : Session) : Block.braces.around body s =
      closing body (closeBlock "\x7d") { s with printer := (s.printer.print " \x7b").deepen } := rfl
  have hready {p : Printer} (hp : Ready p) : Ready (p.print " \x7b").deepen :=
    ⟨hp.indent, hp.scopes⟩
  constructor
  · intro s a t hs h
    rw [hopen] at h
    obtain ⟨u, hrun, hclose⟩ := closing_eq_ok_iff.mp h
    have hinside : Inside s.printer u.printer := hbody.keeps _ a u (hready hs) hrun
    exact hinside.keeps_closeBlock hs hclose
  · intro s e t hs h
    rw [hopen] at h
    rcases closing_eq_error_iff.mp h with ⟨u, hrun, hclose⟩ | ⟨a, u, hrun, hclose⟩ | ⟨e', u, hrun, hclose⟩
    · obtain ⟨hinside, hfault⟩ := hbody.stops _ e u (hready hs) hrun
      exact ⟨Inside.keeps_closeBlock hs hinside hclose, hfault⟩
    · have hinside : Inside s.printer u.printer := hbody.keeps _ a u (hready hs) hrun
      exact hinside.stops_closeBlock hs hclose
    · obtain ⟨hinside, -⟩ := hbody.stops _ e' u (hready hs) hrun
      exact Inside.stops_closeBlock hs hinside hclose

end Steady

section

variable {p : Printer} {frame : Frame} {header : Header}

def printTitle (frame : Frame) (header : Header) : Writing Unit := do
  newlineIfNeeded
  comment header.description
  line (wrap "" (joinParts " " header.modifiers) " " ++ frame.keyword ++ " " ++ frame.name)
  print (wrap ": " (joinParts ", " header.inherited) "")

theorem printTitle_of_error {s t : Session} {e : Fault} (h : openDeclaration frame header s = .error e t) :
    printTitle frame header s = .error e t := by
  have hopen : openDeclaration frame header =
      (do printTitle frame header; push frame; openBlock " \x7b") := by
    simp only [openDeclaration, printTitle, bind_assoc]
  rw [hopen] at h
  rcases bind_eq_error_iff.mp h with hrun | ⟨a, u, -, hrest⟩
  · exact hrun
  · cases hrest

theorem stops_openDeclaration (hwords : header.description.words?.isSome = true) {s t : Session} {e : Fault}
    (hs : Ready s.printer) (h : openDeclaration frame header s = .error e t) :
    s.printer.Keeps t.printer ∧ e.isNoRoom = true := by
  have htitle : Steady (printTitle frame header) :=
    Steady.newlineIfNeeded.bind fun _ _ _ _ => (Steady.comment hwords).bind fun _ _ _ _ =>
      (Steady.line _).bind fun _ _ _ _ => Steady.print _
  exact htitle.stops s e t hs (printTitle_of_error h)

theorem leave_declaration {s : Session} (hbody : (opened frame header p).Keeps s.printer)
    (hfits : p.indent.Fits p.level) :
    ∃ t, (declaration frame header).leave s = .ok () t ∧ p.Keeps t.printer := by
  obtain ⟨q, n, e⟩ := s
  have hlevel : q.level = p.level + 1 := hbody.level.trans (opened_level _ _ p)
  have hscopes : q.scopes = frame :: p.scopes := hbody.scopes.trans (opened_scopes _ _ p)
  have hindent : q.indent = p.indent := hbody.indent.trans (opened_indent _ _ p)
  let r : Printer := { q with level := p.level, scopes := p.scopes }
  have hpushed : { q with level := p.level } = r.push frame := by
    simp only [r, Printer.push, ← hscopes]
  have hline : Gives (line "\x7d") ⟨r.push frame, n, e⟩ (q.indent.Fits p.level) ()
      ⟨(r.push frame).put ⟨0, "\x7d"⟩, n, e⟩ := gives_line (by decide)
  have hclose : closeBlock "\x7d" ⟨q, n, e⟩ = .ok () ⟨(r.put ⟨0, "\x7d"⟩).push frame, n, e⟩ := by
    rw [closeBlock_eq hlevel, hpushed, ← Printer.put_push]
    exact hline.ok (hindent ▸ hfits)
  refine ⟨⟨r.put ⟨0, "\x7d"⟩, n, e⟩, ?_, ⟨?_, ?_, ?_⟩⟩
  · have hpop := (gives_pop (p := r.put ⟨0, "\x7d"⟩) (n := n) (e := e) frame).ok trivial
    have hboth : closeDeclaration ⟨q, n, e⟩ = .ok frame ⟨r.put ⟨0, "\x7d"⟩, n, e⟩ :=
      (bind_of_ok hclose).trans hpop
    exact bind_of_ok hboth
  · simp [r, hindent]
  · simp [r]
  · simp [r]

theorem ready_opened (hp : Ready p) (hframe : frame.isText = true) : Ready (opened frame header p) := by
  constructor
  · rw [opened_indent]
    exact hp.indent
  · rw [opened_scopes, List.all_cons, hframe, hp.scopes]
    rfl

theorem Steady.declaration {α : Type} {body : Writing α} (hframe : frame.isText = true)
    (hwords : header.description.words?.isSome = true) (hbody : Steady body) :
    Steady ((declaration frame header).around body) := by
  have hopened {s u : Session} (h : openDeclaration frame header s = .ok () u) :
      s.printer.indent.Fits s.printer.level ∧ u.printer = opened frame header s.printer := by
    obtain ⟨⟨-, hfits⟩, -, rfl⟩ := (gives_openDeclaration frame header () u).mp h
    exact ⟨hfits, rfl⟩
  have hready {s u : Session} (hs : Ready s.printer) (hu : u.printer = opened frame header s.printer) :
      Ready u.printer := hu ▸ ready_opened hs hframe
  constructor
  · intro s a t hs h
    obtain ⟨_, u, hopen, hclosing⟩ := bind_eq_ok_iff.mp h
    obtain ⟨hfits, hu⟩ := hopened hopen
    obtain ⟨v, hrun, hleave⟩ := closing_eq_ok_iff.mp hclosing
    have hkept := hbody.keeps u a v (hready hs hu) hrun
    obtain ⟨t', hleft, hrestored⟩ := leave_declaration (hu ▸ hkept) hfits
    obtain ⟨-, rfl⟩ := EStateM.Result.ok.inj (hleave.symm.trans hleft)
    exact hrestored
  · intro s e t hs h
    rcases bind_eq_error_iff.mp h with hopen | ⟨_, u, hopen, hclosing⟩
    · exact stops_openDeclaration hwords hs hopen
    · obtain ⟨hfits, hu⟩ := hopened hopen
      -- closing never fails here, so that the fault is that of the body
      rcases closing_eq_error_iff.mp hclosing with
        ⟨v, hrun, hleave⟩ | ⟨a, v, hrun, hleave⟩ | ⟨e', v, hrun, hleave⟩
      · obtain ⟨hkept, hfault⟩ := hbody.stops u e v (hready hs hu) hrun
        obtain ⟨t', hleft, hrestored⟩ := leave_declaration (hu ▸ hkept) hfits
        obtain ⟨-, rfl⟩ := EStateM.Result.ok.inj (hleave.symm.trans hleft)
        exact ⟨hrestored, hfault⟩
      · have hkept := hbody.keeps u a v (hready hs hu) hrun
        obtain ⟨t', hleft, -⟩ := leave_declaration (hu ▸ hkept) hfits
        cases hleave.symm.trans hleft
      · obtain ⟨hkept, -⟩ := hbody.stops u e' v (hready hs hu) hrun
        obtain ⟨t', hleft, -⟩ := leave_declaration (hu ▸ hkept) hfits
        cases hleave.symm.trans hleft

end

theorem habit_steady : Habit False fun _ w => Steady w where
  pure := Steady.pure
  bind := Steady.bind
  throw _ h := h.elim
  print := Steady.print
  newline := Steady.newline
  line := Steady.line
  qualified := Steady.qualified
  printed := Steady.printed
  report := Steady.report
  braces := Steady.braces
  declaration _ _ hframe hbody := by
    obtain ⟨htext, hwords⟩ := hframe.resolve_right not_false
    exact Steady.declaration htext hwords hbody

theorem Steady.resetNames : Steady Model.resetNames := by
  constructor
  · rintro s a t - h
    obtain ⟨-, rfl⟩ := EStateM.Result.ok.inj h
    exact .refl _
  · rintro s e t - h
    cases h

theorem Steady.giveName (spelling : String) : Steady (Model.giveName spelling) := by
  constructor
  · rintro ⟨p, n, e⟩ name t - h
    obtain ⟨-, -, rfl⟩ := (Model.gives_giveName (p := p) (n := n) (e := e) spelling name t).mp h
    exact .refl _
  · rintro ⟨p, n, e⟩ fault t - h
    rw [(Model.gives_giveName spelling).ok trivial] at h
    cases h

end Writing

end RealmModels
