import Mathlib
import RealmModels.Proofs.Naming.Requests
import RealmModels.Proofs.Writing.Respects
import RealmModels.Script.Trace

namespace RealmModels

open GraphQL Swift Writing

/-- The blocks that can be put around steps; those of namespaces, classes, structures and protocols are
declarations. -/
inductive Writing.Bracket where
  | bare
  | indented
  | enclosed (opening ending : String)
  | inScope (frame : Frame)
  | declaration (frame : Frame) (header : Header)

def Writing.Bracket.block : Bracket → Block
  | bare => .bare
  | indented => .indented
  | enclosed opening ending => .enclosed opening ending
  | inScope frame => .inScope frame
  | declaration frame header => Swift.declaration frame header

inductive Step.Offered : Step → Prop
  | act (label : String) (action : Action) : Offered (.act label action)
  | block (label : String) (around : Bracket) {body : List Step} (hbody : ∀ step ∈ body, Offered step) :
    Offered (.block label around.block body)

/-- What can be done with a generator: a script or a reported run over some schema, or a request for
a name. -/
inductive Operation where
  | script (language : Template.Language) (schema : Schema) (steps : List Step)
  | report (schema : Schema)
  | names (request : Naming.Request)

def Operation.Offered : Operation → Prop
  | script _ _ steps => ∀ step ∈ steps, step.Offered
  | _ => True

def Writing.left {σ α : Type} (w : EStateM Fault σ α) (s : σ) : σ :=
  match w s with
  | .ok _ t | .error _ t => t

theorem Writing.left_closing {σ α : Type} (body : EStateM Fault σ α) (close : EStateM Fault σ Unit)
    (s : σ) : left (closing body close) s = left close (left body s) := by
  simp only [left, closing]
  cases body s with
  | ok a t => cases hclose : close t <;> simp [hclose]
  | error e t => cases hclose : close t <;> simp [hclose]

theorem Writing.left_bind {σ α β : Type} (w : EStateM Fault σ α) (f : α → EStateM Fault σ β) (s : σ) :
    left (w >>= f) s =
      match w s with
      | .ok a t => left (f a) t
      | .error _ t => t := by
  change left (EStateM.bind w f) s = _
  rw [left, EStateM.bind]
  cases w s <;> rfl

def Operation.leaves (settings : Settings) (s : Session) : Operation → Session
  | script language schema steps => (Workshop.trace ⟨settings, schema, language⟩ steps s).session
  | report schema => left (Report.generate settings schema) s
  | names request =>
    match s.names.answer naming request with
    | .ok (_, n) => { s with names := n }
    | .error _ => s

/-- The session of a generator after these operations, each whatever became of those before it. -/
def Settings.sessionAfter (settings : Settings) (history : List Operation)
    (room : Option ℕ := none) : Session :=
  history.foldl (Operation.leaves settings) (settings.session room)

namespace Writing.Respects

variable {α : Type} {w : Writing α}

theorem left_indent (h : Respects Eq w) (s : Session) :
    (left w s).printer.indent = s.printer.indent := by
  obtain ⟨r, t, _, hrun, -, hboth⟩ := h s s rfl rfl
  have hleft : left w s = t := by
    rw [left, hrun]
    cases r <;> rfl
  rw [hleft]
  exact hboth.indent

end Writing.Respects

namespace Writing

theorem respects_declareClass (style : Style) (name : String) (fields : Option (List Field)) :
    Respects Eq (Model.declareClass style name fields) :=
  (habit_respects Eq).declareClass
    ((habit_respects Eq).classDeclaration (.inr trivial) .giveName) (.resetNames rfl)

theorem respects_sourceBody (style : Style) (s : Schema) : Respects Eq (Model.sourceBody style s) :=
  (habit_respects Eq).sourceBody (.inr trivial) fun _ _ => respects_declareClass _ _ _

theorem respects_reset {N : Naming.Scope → Naming.Scope → Prop} :
    Respects N (onPrinter Printer.reset) := .onPrinter fun _ => rfl

end Writing

namespace Writing.Respects

variable {N : Naming.Scope → Naming.Scope → Prop}

theorem quietly {w : Writing Unit} (h : Respects N w) : Respects N (quietly w) := h.seq (pure _)

theorem answered {α : Type} {w : Writing α} (h : Respects N w) (f : α → Answer) :
    Respects N (do return f (← w)) := h.bind fun _ _ _ _ => pure _

theorem type (w : Workshop) (name : String) : Respects N (w.type name) := by
  rw [Workshop.type]
  cases w.schema.find? name with
  | some t => exact pure t
  | none => exact throw _

theorem field (w : Workshop) (type name : String) : Respects N (w.field type name) := by
  apply (Respects.type w type).bind
  intro _ t _ _
  cases t.fields? with
  | none => exact throw _
  | some fields =>
    dsimp only
    cases fields.find? (·.name == name) with
    | none => exact throw _
    | some f => exact pure f

end Writing.Respects

theorem Action.respects_perform (w : Workshop) (a : Action) : Respects Eq (a.perform w) := by
  have h := habit_respects Eq
  have hproperty (p : Property) : Respects Eq (Swift.declareProperty w.typeNaming p) :=
    (Respects.comment _).seq ((h.classified _ (.inr trivial)).bind fun _ _ _ _ =>
      h.printProperty _ _ _ _ (.inr trivial))
  cases a with
  | print text => exact (Respects.print text).quietly
  | line text => exact (Respects.line text).quietly
  | newline => exact Respects.newline.quietly
  | newlineIfNeeded => exact Respects.newlineIfNeeded.quietly
  | printIndent => exact Respects.printIndent.quietly
  | deepen => exact Respects.deepen.quietly
  | dedent => exact Respects.dedent.quietly
  | reset => exact respects_reset.quietly
  | push frame => exact (Respects.push frame).quietly
  | pop => exact Respects.pop.answered _
  | scope => exact (Respects.look _).answered _
  | qualified name => exact (Respects.look _).answered _
  | openBlock opening => exact (Respects.openBlock opening).quietly
  | closeBlock ending => exact (Respects.closeBlock ending).quietly
  | interrupt message => exact .throw _
  | literal text =>
    cases text with
    | none => exact .throw _
    | some text => exact (Respects.line _).quietly
  | comment note => exact (Respects.comment note).quietly
  | primaryKey name => exact (h.primaryKey name (.inr trivial)).quietly
  | deprecation isDeprecated reason =>
    apply Respects.quietly
    split
    · exact h.deprecationAttribute reason (.inr trivial)
    · exact .pure ()
  | openDeclaration frame header => exact (Respects.openDeclaration frame header).quietly
  | closeDeclaration => exact Respects.closeDeclaration.answered _
  | declareProperty p => exact (hproperty p).quietly
  | requireProperty p => exact (Respects.line _).quietly
  | declareProperties ps => exact (h.forM fun p _ => hproperty p).quietly
  | requireProperties ps => exact (h.forM fun _ _ => .line _).quietly
  | parameters ps =>
    cases ps with
    | none => exact ((Respects.print _).seq (.throw _)).quietly
    | some ps => exact (h.parameters (.inr trivial)).quietly
  | memberwise ps =>
    apply Respects.quietly
    cases ps with
    | none => exact (Respects.throw _).bind fun _ _ _ _ => h.memberwise (.inr trivial)
    | some ps => exact (Respects.pure ps).bind fun _ _ _ _ => h.memberwise (.inr trivial)
  | printProperty type name typeName =>
    exact ((h.classified type (.inr trivial)).bind fun _ _ _ _ =>
      h.printProperty _ _ _ _ (.inr trivial)).quietly
  | header => exact h.header.quietly
  | requiredInitializers => exact h.required.quietly
  | declareIfModel type =>
    exact ((Respects.type w type).bind fun _ _ _ _ =>
      h.declareIfModel fun _ _ => respects_declareClass _ _ _).quietly
  | declareType type =>
    exact ((Respects.type w type).bind fun _ _ _ _ => respects_declareClass _ _ _).quietly
  | singleType type =>
    apply Respects.bind (Respects.type w type)
    intro _ _ _ _
    exact (respects_reset.seq ((respects_declareClass _ _ _).seq .printed)).answered _
  | source => exact (respects_reset.seq (respects_sourceBody _ _)).answered _
  | schemaWarnings => exact (h.ofExcept (.inr trivial)).bind fun _ _ _ _ => .pure _
  | declareField type field =>
    exact ((Respects.field w type field).bind fun _ _ _ _ =>
      (h.declareField (.inr trivial) (.giveName _)).answered _)
  | resetNames => exact (Respects.resetNames rfl).quietly
  | render template context =>
    rw [Action.perform]
    cases Model.templates.render w.language template context with
    | ok text => exact .pure _
    | error e => exact .throw _
  | hasTemplate template => exact .pure _
  | about => exact .pure _
  | unfit fault => exact .throw _

theorem Writing.Bracket.respects (b : Bracket) :
    Respects Eq b.block.enter ∧ Respects Eq b.block.leave := by
  cases b with
  | bare => exact ⟨.pure (), .pure ()⟩
  | indented => exact ⟨.deepen, .dedent⟩
  | enclosed opening ending => exact ⟨.openBlock opening, .closeBlock ending⟩
  | inScope frame =>
    exact ⟨(Respects.push frame).seq (.openBlock _),
      (Respects.closeBlock _).closing (Respects.pop.seq (.pure ()))⟩
  | declaration frame header =>
    exact ⟨.openDeclaration frame header, Respects.closeDeclaration.seq (.pure ())⟩

namespace Tracing

def KeepsIndent {α : Type} (x : Tracing α) : Prop :=
  ∀ o, (left x o).session.printer.indent = o.session.printer.indent

namespace KeepsIndent

variable {α β : Type} {x : Tracing α}

theorem pure (a : α) : KeepsIndent (Pure.pure a : Tracing α) := fun _ => rfl

theorem throw (e : Fault) : KeepsIndent (MonadExcept.throw e : Tracing α) := fun _ => rfl

theorem bind {f : α → Tracing β} (hx : KeepsIndent x) (hf : ∀ a, KeepsIndent (f a)) :
    KeepsIndent (x >>= f) := by
  intro o
  have hkept := hx o
  rw [left_bind]
  rw [left] at hkept
  cases hrun : x o with
  | ok a o' =>
    rw [hrun] at hkept
    exact (hf a o').trans hkept
  | error e o' => rwa [hrun] at hkept

theorem closing {close : Tracing Unit} (hx : KeepsIndent x) (hclose : KeepsIndent close) :
    KeepsIndent (closing x close) := by
  intro o
  rw [left_closing, hclose, hx]

theorem onSession {w : Writing α} (h : Respects Eq w) : KeepsIndent (onSession w) := by
  intro o
  have hkept := h.left_indent o.session
  rw [left] at hkept ⊢
  rw [Tracing.onSession]
  cases hrun : w o.session <;> rwa [hrun] at hkept

theorem caught {handle : Fault → Tracing α} (hx : KeepsIndent x)
    (hhandle : ∀ e, KeepsIndent (handle e)) : KeepsIndent (tryCatch x handle) := by
  intro o
  have hkept := hx o
  rw [left] at hkept ⊢
  rw [tryCatch_eq]
  cases hrun : x o with
  | ok a o' => rwa [hrun] at hkept
  | error e o' =>
    rw [hrun] at hkept
    exact (hhandle e o').trans hkept

theorem observed {label : String} {action : Tracing Answer} (h : KeepsIndent action) :
    KeepsIndent (observed label action) := by
  apply ((h.bind fun _ => pure _).caught fun _ => pure _).bind
  intro result
  have hrecord : KeepsIndent (record label result) := fun _ => rfl
  apply hrecord.bind
  intro _
  cases result with
  | ok a => exact pure ()
  | error e => exact throw e

theorem runBody {w : Workshop} {body : List Step} (h : ∀ step ∈ body, KeepsIndent (runStep w step)) :
    KeepsIndent (runBody w body) := by
  induction body with
  | nil =>
    rw [Tracing.runBody]
    exact pure ()
  | cons step body ih =>
    obtain ⟨hstep, hbody⟩ := List.forall_mem_cons.mp h
    rw [Tracing.runBody]
    exact hstep.bind fun _ => ih hbody

theorem runStep {w : Workshop} {step : Step} (h : step.Offered) : KeepsIndent (runStep w step) := by
  induction h with
  | act label action =>
    rw [Tracing.runStep]
    exact (onSession (action.respects_perform w)).observed
  | block label around _ ih =>
    obtain ⟨henter, hleave⟩ := around.respects
    rw [Tracing.runStep]
    apply observed
    apply (onSession henter).bind
    intro _
    exact ((runBody ih).closing (onSession hleave)).bind fun _ => pure _

end KeepsIndent

end Tracing

theorem Workshop.trace_eq (w : Workshop) (steps : List Step) (s : Session) :
    w.trace steps s = steps.foldl (fun o step => left (Tracing.runStep w step) o) { session := s } := by
  rw [trace]
  congr 1
  funext o step
  rw [left]
  cases Tracing.runStep w step o <;> rfl

theorem Workshop.trace_indent (w : Workshop) {steps : List Step} (h : ∀ step ∈ steps, step.Offered)
    (s : Session) : (w.trace steps s).session.printer.indent = s.printer.indent := by
  rw [trace_eq]
  apply List.foldlRecOn (motive := fun o : Observed => o.session.printer.indent = s.printer.indent)
  · rfl
  · intro o ho step hstep
    exact (Tracing.KeepsIndent.runStep (h step hstep) o).trans ho

namespace Writing.Respects

variable {N : Naming.Scope → Naming.Scope → Prop}

theorem caught {α : Type} {w : Writing α} {handle : Fault → Writing α} (hw : Respects N w)
    (hhandle : ∀ e, Respects N (handle e)) : Respects N (tryCatch w handle) := by
  intro s s' hprinter hnames
  obtain ⟨r, t, t', hrun, hrun', hboth⟩ := hw s s' hprinter hnames
  rw [tryCatch_eq, tryCatch_eq, hrun, hrun']
  cases r with
  | ok a => exact ⟨.ok a, t, t', rfl, rfl, hboth⟩
  | error e =>
    obtain ⟨r, u, u', hrest, hrest', hmore⟩ := hhandle e t t' hboth.printer hboth.names
    exact ⟨r, u, u', hrest, hrest', hboth.trans hmore⟩

theorem generate (settings : Settings) (s : Schema) : Respects Eq (Report.generate settings s) := by
  have h := habit_respects Eq
  apply caught
  · apply h.bind (h.ofExcept (.inr trivial))
    intro _ ws _ _
    apply h.bind (h.ofExcept (.inr trivial))
    intro _ ws' _ _
    apply h.seq (h.forM fun _ _ => h.report _)
    apply h.bind (respects_reset.seq (respects_sourceBody _ _))
    intro _ code _ _
    exact h.seq (h.report _) (h.pure _)
  · intro e
    exact (Respects.report _).seq (.pure _)

end Writing.Respects

theorem Operation.leaves_indent (settings : Settings) {o : Operation} (h : o.Offered) (s : Session) :
    (o.leaves settings s).printer.indent = s.printer.indent := by
  cases o with
  | script language schema steps => exact Workshop.trace_indent ⟨settings, schema, language⟩ h s
  | report schema => exact (Respects.generate settings schema).left_indent s
  | names request =>
    rw [leaves]
    split <;> rfl

theorem Settings.sessionAfter_indent (settings : Settings) {history : List Operation}
    (h : ∀ o ∈ history, o.Offered) (room : Option ℕ) :
    (settings.sessionAfter history room).printer.indent = settings.indent room := by
  apply List.foldlRecOn (motive := fun s : Session => s.printer.indent = settings.indent room)
  · rfl
  · intro s hs o ho
    exact (o.leaves_indent settings (h o ho) s).trans hs

end RealmModels
