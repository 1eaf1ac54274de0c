import Mathlib
import RealmModels.Proofs.Writing.Steady

namespace RealmModels.Writing

open GraphQL Swift

theorem tryCatch_eq {σ α : Type} (w : EStateM Fault σ α) (handle : Fault → EStateM Fault σ α)
    (s : σ) :
    tryCatch w handle s =
      match w s with
      | .ok a t => .ok a t
      | .error e t => handle e t := by
  change EStateM.tryCatch w handle s = _
  rw [EStateM.tryCatch]
  cases w s <;> rfl

def ended {α : Type} (r : Except Fault α) (t : Session) : EStateM.Result Fault Session α :=
  match r with
  | .ok a => .ok a t
  | .error e => .error e t

structure Parallel (N : Naming.Scope → Naming.Scope → Prop) (s s' t t' : Session) : Prop where
  printer : t.printer = t'.printer
  indent : t.printer.indent = s.printer.indent
  names : N t.names t'.names
  events : ∃ news, t.events = s.events ++ news ∧ t'.events = s'.events ++ news

theorem Parallel.trans {N M : Naming.Scope → Naming.Scope → Prop} {s s' t t' u u' : Session}
    (h : Parallel N s s' t t') (h' : Parallel M t t' u u') : Parallel M s s' u u' := by
  obtain ⟨news, hnews, hnews'⟩ := h.events
  obtain ⟨more, hmore, hmore'⟩ := h'.events
  refine ⟨h'.printer, h'.indent.trans h.indent, h'.names, news ++ more, ?_, ?_⟩
  · rw [hmore, hnews, List.append_assoc]
  · rw [hmore', hnews', List.append_assoc]

/-- From sessions with the same printer and related names, `w` ends alike and leaves such sessions. -/
def Respects (N : Naming.Scope → Naming.Scope → Prop) {α : Type} (w : Writing α) : Prop :=
  ∀ s s', s.printer = s'.printer → N s.names s'.names →
    ∃ r t t', w s = ended r t ∧ w s' = ended r t' ∧ Parallel N s s' t t'

namespace Respects

variable {N : Naming.Scope → Naming.Scope → Prop} {α β : Type} {w : Writing α}

theorem onlyPrinter (g : Printer → Except Fault α × Printer)
    (hw : ∀ s, w s = ended (g s.printer).1 { s with printer := (g s.printer).2 })
    (hg : ∀ p, (g p).2.indent = p.indent) : Respects N w := by
  intro s s' hprinter hnames
  refine ⟨(g s.printer).1, _, { s' with printer := (g s.printer).2 }, hw s, ?_,
    ⟨rfl, hg _, hnames, [], ?_, ?_⟩⟩
  · rw [hw s', hprinter]
  · rw [List.append_nil]
  · rw [List.append_nil]

theorem pure (a : α) : Respects N (Pure.pure a : Writing α) :=
  onlyPrinter (fun p => (.ok a, p)) (fun _ => rfl) fun _ => rfl

theorem throw (e : Fault) : Respects N (MonadExcept.throw e : Writing α) :=
  onlyPrinter (fun p => (.error e, p)) (fun _ => rfl) fun _ => rfl

theorem bind {f : α → Writing β} (hw : Respects N w)
    (hf : ∀ s a t, w s = .ok a t → Respects N (f a)) : Respects N (w >>= f) := by
  intro s s' hprinter hnames
  obtain ⟨r, t, t', hrun, hrun', hboth⟩ := hw s s' hprinter hnames
  cases r with
  | error e => exact ⟨.error e, t, t', bind_eq_error_iff.mpr (.inl hrun),
      bind_eq_error_iff.mpr (.inl hrun'), hboth⟩
  | ok a =>
    obtain ⟨r, u, u', hrest, hrest', hmore⟩ := hf s a t hrun t t' hboth.printer hboth.names
    exact ⟨r, u, u', (bind_of_ok hrun).trans hrest, (bind_of_ok hrun').trans hrest',
      hboth.trans hmore⟩

theorem seq {v : Writing β} (hw : Respects N w) (hv : Respects N v) :
    Respects N (w >>= fun _ => v) := hw.bind fun _ _ _ _ => hv

theorem closing {close : Writing Unit} (hw : Respects N w) (hclose : Respects N close) :
    Respects N (closing w close) := by
  intro s s' hprinter hnames
  obtain ⟨r, t, t', hrun, hrun', hboth⟩ := hw s s' hprinter hnames
  obtain ⟨c, u, u', hleft, hleft', hmore⟩ := hclose t t' hboth.printer hboth.names
  refine ⟨c.bind fun _ => r, u, u', ?_, ?_, hboth.trans hmore⟩
  · cases r <;> cases c <;> simp [Writing.closing, hrun, hleft, ended, Except.bind]
  · cases r <;> cases c <;> simp [Writing.closing, hrun', hleft', ended, Except.bind]

theorem around {b : Block} (henter : Respects N b.enter) (hleave : Respects N b.leave)
    (hw : Respects N w) : Respects N (b.around w) := henter.seq (hw.closing hleave)

theorem onPrinter {f : Printer → Printer} (hf : ∀ p : Printer, (f p).indent = p.indent) :
    Respects N (onPrinter f) := onlyPrinter (fun p => (.ok (), f p)) (fun _ => rfl) hf

theorem tryPrinter {f : Printer → Except PrinterError Printer}
    (hf : ∀ p q, f p = .ok q → q.indent = p.indent) : Respects N (tryPrinter f) := by
  apply onlyPrinter fun p =>
    (((f p).mapError Fault.printer).map fun _ => (), (f p).toOption.getD p)
  · intro s
    rw [tryPrinter_eq]
    cases f s.printer <;> rfl
  · intro p
    cases hp : f p with
    | ok q => exact hf p q hp
    | error e => rfl

theorem look (f : Printer → Except PrinterError α) : Respects N (look f) := by
  apply onlyPrinter fun p => ((f p).mapError Fault.printer, p)
  · intro s
    rw [look_eq]
    cases f s.printer <;> rfl
  · exact fun _ => rfl

theorem report (e : Log.Event) : Respects N (report e) := by
  intro s s' hprinter hnames
  exact ⟨.ok (), _, _, rfl, rfl, hprinter, rfl, hnames, [e], rfl, rfl⟩

theorem newline : Respects N newline := onPrinter fun p => (Printer.Keeps.newline p).indent

theorem newlineIfNeeded : Respects N newlineIfNeeded :=
  onPrinter fun p => (Printer.Keeps.newlineIfNeeded p).indent

theorem print (text : String) : Respects N (print text) := onPrinter fun _ => rfl

theorem printIndent : Respects N printIndent :=
  tryPrinter fun _ _ h => (Printer.Keeps.printIndent h).indent

theorem line (text : String) : Respects N (line text) := by
  unfold Writing.line
  split
  · exact newline.seq (printIndent.seq (print text))
  · exact pure ()

theorem dedent : Respects N dedent := by
  apply tryPrinter
  intro p q h
  rw [Printer.dedent] at h
  split at h
  · cases h
  · obtain rfl := Except.ok.inj h
    rfl

theorem deepen : Respects N deepen := onPrinter fun _ => rfl

theorem push (frame : Frame) : Respects N (push frame) := onPrinter fun _ => rfl

theorem pop : Respects N pop := by
  apply onlyPrinter fun p =>
    match p.pop with
    | .ok (frame, q) => (.ok frame, q)
    | .error e => (.error (.printer e), p)
  · intro s
    cases hp : s.printer.pop with
    | ok x =>
      have hlook : Writing.look Printer.pop s = .ok x s := by rw [look_eq, hp]
      exact bind_of_ok hlook
    | error e =>
      have hlook : Writing.look Printer.pop s = .error (.printer e) s := by rw [look_eq, hp]
      exact bind_eq_error_iff.mpr (.inl hlook)
  · rintro ⟨i, output, level, atBlockStart, scopes⟩
    cases scopes <;> rfl

theorem openBlock (opening : String) : Respects N (openBlock opening) := (print opening).seq deepen

theorem closeBlock (ending : String) : Respects N (closeBlock ending) := dedent.seq (line ending)

theorem printed : Respects N (do return (← get).printer.output) :=
  onlyPrinter (fun p => (.ok p.output, p)) (fun _ => rfl) fun _ => rfl

theorem braces (hw : Respects N w) : Respects N (Block.braces.around w) :=
  around (openBlock _) (closeBlock _) hw

end Respects

namespace Respects

variable {N : Naming.Scope → Naming.Scope → Prop} {α : Type} {body : Writing α}

theorem comment (note : Note) : Respects N (comment note) := by
  have hlines (ls : List String) : Respects N (ls.forM Writing.line) := by
    induction ls with
    | nil => exact pure ()
    | cons l ls ih => exact (line l).seq ih
  rw [Swift.comment, words]
  cases note.words? with
  | some text => exact (pure text).bind fun _ _ _ _ => hlines _
  | none => exact (throw _).bind fun _ _ _ _ => hlines _

theorem openDeclaration (frame : Frame) (header : Header) :
    Respects N (openDeclaration frame header) :=
  newlineIfNeeded.seq ((comment _).seq ((line _).seq ((print _).seq ((push _).seq (openBlock _)))))

theorem closeDeclaration : Respects N closeDeclaration := (closeBlock _).seq pop

theorem declaration (frame : Frame) (header : Header) (hbody : Respects N body) :
    Respects N ((declaration frame header).around body) :=
  around (openDeclaration frame header) (closeDeclaration.seq (pure ())) hbody

end Respects

theorem habit_respects (N : Naming.Scope → Naming.Scope → Prop) :
    Habit True fun _ w => Respects N w where
  pure := Respects.pure
  bind := Respects.bind
  throw e _ := Respects.throw e
  print := Respects.print
  newline := Respects.newline
  line := Respects.line
  qualified _ := Respects.look _
  printed := Respects.printed
  report := Respects.report
  braces := Respects.braces
  declaration frame header _ := Respects.declaration frame header

namespace Respects

theorem resetNames {N : Naming.Scope → Naming.Scope → Prop} (hN : N .empty .empty) :
    Respects N Model.resetNames := by
  intro s s' hprinter _
  refine ⟨.ok (), _, _, rfl, rfl, hprinter, rfl, hN, [], ?_, ?_⟩
  · rw [List.append_nil]
  · rw [List.append_nil]

theorem giveName (spelling : String) : Respects Eq (Model.giveName spelling) := by
  rintro ⟨p, n, e⟩ ⟨p', n', e'⟩ hprinter hnames
  obtain rfl : p = p' := hprinter
  obtain rfl : n = n' := hnames
  refine ⟨.ok _, _, _, (Model.gives_giveName spelling).ok trivial,
    (Model.gives_giveName spelling).ok trivial, rfl, rfl, rfl, [], ?_, ?_⟩
  · rw [List.append_nil]
  · rw [List.append_nil]

theorem behindReset {α : Type} {w : Writing α} (hw : Respects Eq w) :
    Respects (fun _ _ => True) (do Model.resetNames; w) := by
  intro s s' hprinter _
  obtain ⟨r, t, t', hrun, hrun', hboth⟩ := hw { s with names := .empty } { s' with names := .empty }
    hprinter rfl
  exact ⟨r, t, t', hrun, hrun', hboth.printer, hboth.indent, trivial, hboth.events⟩

end Respects

end RealmModels.Writing
