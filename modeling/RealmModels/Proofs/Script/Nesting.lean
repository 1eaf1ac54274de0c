import Mathlib
import RealmModels.Proofs.Printer.Indent
import RealmModels.Proofs.Script.Brackets

/-!
Blocks inside of blocks, with steps that print and steps that raise a fault at any place between. The
runs of such trees are told by the steps that are come to, in their order.
-/

namespace RealmModels.Writing

open GraphQL Swift

inductive Print where
  | text (words : String)
  | newline
  | newlineIfNeeded
  | indent
  | line (words : String)
  | literal (words : String)
  | comment (note : Note)

def Print.perform : Print → Writing Unit
  | text words => Writing.print words
  | newline => Writing.newline
  | newlineIfNeeded => Writing.newlineIfNeeded
  | indent => Writing.printIndent
  | line words => Writing.line words
  | literal words => Writing.line (Swift.literal words)
  | comment note => Swift.comment note

theorem Print.extending (p : Print) : Extending p.perform := by
  cases p with
  | text words => exact .print words
  | newline => exact .newline
  | newlineIfNeeded => exact .newlineIfNeeded
  | indent => exact .printIndent
  | line words => exact .line words
  | literal words => exact .line _
  | comment note => exact .comment note

inductive Body where
  | done
  | print (what : Print) (rest : Body)
  | raise (fault : Fault)
  | block (around : Bracket) (inner rest : Body)

namespace Body

def run : Body → Writing Unit
  | done => pure ()
  | print what rest => do
    what.perform
    rest.run
  | raise fault => throw fault
  | block around inner rest => do
    around.block.around inner.run
    rest.run

/-- The steps that a run from `s` comes to, each with what is behind it and the session in which it is
begun. -/
def visits : Body → Session → List (Body × Session)
  | done, s => [(done, s)]
  | print what rest, s =>
    (print what rest, s) ::
      match what.perform s with
      | .ok _ t => rest.visits t
      | .error _ _ => []
  | raise fault, s => [(raise fault, s)]
  | block around inner rest, s =>
    (block around inner rest, s) ::
      match around.block.enter s with
      | .ok _ u =>
        inner.visits u ++
          match around.block.around inner.run s with
          | .ok _ t => rest.visits t
          | .error _ _ => []
      | .error _ _ => []

def raised : Body × Session → Option Fault
  | (done, _) => none
  | (print what _, s) => fault? what.perform s
  | (raise fault, _) => some fault
  | (block around _ _, s) => fault? around.block.enter s

def Closable (body : Body) (s : Session) : Prop :=
  ∀ around inner rest t, (block around inner rest, t) ∈ body.visits s →
    fault? around.block.enter t = none → around.CanClose t.printer

def height : Body → ℕ
  | done | raise _ => 0
  | print _ rest => rest.height
  | block around inner rest => max (around.levels + inner.height) rest.height

def isScoped : Body → Bool
  | done | raise _ => true
  | print _ rest => rest.isScoped
  | block around inner rest => around.levels == around.frames.length && inner.isScoped && rest.isScoped

theorem extending_run (body : Body) : Extending body.run := by
  induction body with
  | done => exact .pure ()
  | print what rest ih => exact what.extending.seq ih
  | raise fault => exact .throw fault
  | block around inner rest ihinner ihrest =>
    exact (around.extending_around ihinner).seq ihrest

variable {body inner rest x : Body} {s t u : Session}

theorem forall_visits {P : Body → Session → Prop}
    (hprint : ∀ what rest s t, P (print what rest) s → what.perform s = .ok () t → P rest t)
    (hinside : ∀ around inner rest s u, P (block around inner rest) s →
      around.block.enter s = .ok () u → P inner u)
    (hbehind : ∀ around inner rest s t, P (block around inner rest) s →
      around.block.around inner.run s = .ok () t → P rest t)
    (h : P body s) : ∀ x t, (x, t) ∈ body.visits s → P x t := by
  induction body generalizing s with
  | done | raise fault =>
    intro x t hx
    obtain ⟨rfl, rfl⟩ := Prod.mk.inj (List.mem_singleton.mp hx)
    exact h
  | print what rest ih =>
    intro x t hx
    rw [visits] at hx
    rcases List.mem_cons.mp hx with hx | hx
    · obtain ⟨rfl, rfl⟩ := Prod.mk.inj hx
      exact h
    · split at hx
      · next u hrun => exact ih (hprint _ _ _ _ h hrun) x t hx
      · exact absurd hx List.not_mem_nil
  | block around inner rest ihinner ihrest =>
    intro x t hx
    rw [visits] at hx
    rcases List.mem_cons.mp hx with hx | hx
    · obtain ⟨rfl, rfl⟩ := Prod.mk.inj hx
      exact h
    · split at hx
      · next u henter =>
        rcases List.mem_append.mp hx with hx | hx
        · exact ihinner (hinside _ _ _ _ _ h henter) x t hx
        · split at hx
          · next v hrun => exact ihrest (hbehind _ _ _ _ _ h hrun) x t hx
          · exact absurd hx List.not_mem_nil
      · exact absurd hx List.not_mem_nil

theorem run_print_of_ok {what : Print} (h : what.perform s = .ok () t) :
    (print what rest).run s = rest.run t := bind_of_ok h

theorem run_block_of_ok {around : Bracket} (h : around.block.around inner.run s = .ok () t) :
    (block around inner rest).run s = rest.run t := bind_of_ok h

theorem begins_block (around : Bracket) (inner rest : Body) (s : Session) :
    (left (around.block.around inner.run) s).printer.Begins
      (left (block around inner rest).run s).printer := by
  rw [run, left_bind]
  cases hrun : around.block.around inner.run s with
  | ok a t =>
    rw [left_of_ok hrun]
    exact (rest.extending_run t).output
  | error e t =>
    rw [left_of_error hrun]
    exact .refl _

theorem begins_of_mem_visits (hx : (x, t) ∈ body.visits s) :
    (left x.run t).printer.Begins (left body.run s).printer := by
  refine forall_visits (P := fun x t => (left x.run t).printer.Begins (left body.run s).printer)
    ?_ ?_ ?_ (.refl _) x t hx
  · intro what rest s t h hrun
    rwa [left, run_print_of_ok hrun, ← left] at h
  · intro around inner rest s u h henter
    exact (Bracket.begins_around inner.extending_run henter).trans
      ((begins_block around inner rest s).trans h)
  · intro around inner rest s t h hrun
    rwa [left, run_block_of_ok hrun, ← left] at h

theorem lockstep_of_isScoped (hscoped : body.isScoped = true) (hx : (x, t) ∈ body.visits s) :
    t.printer.level + s.printer.depth = s.printer.level + t.printer.depth := by
  let P (x : Body) (t : Session) : Prop := x.isScoped = true ∧
    t.printer.level + s.printer.depth = s.printer.level + t.printer.depth
  suffices h : P x t from h.2
  refine forall_visits (P := P) ?_ ?_ ?_ ⟨hscoped, rfl⟩ x t hx
  · rintro what rest s t ⟨hrest, hboth⟩ hrun
    have hkept := what.extending.of_ok hrun
    exact ⟨hrest, by rwa [hkept.level, hkept.depth]⟩
  · rintro around inner rest s u ⟨hall, hboth⟩ henter
    simp only [isScoped, Bool.and_eq_true, beq_iff_eq] at hall
    have hopened := Bracket.opened_of_enter henter
    refine ⟨hall.1.2, ?_⟩
    rw [hopened.level, hopened.depth, hall.1.1]
    omega
  · rintro around inner rest s t ⟨hall, hboth⟩ hrun
    simp only [isScoped, Bool.and_eq_true] at hall
    have hkept := (around.extending_around inner.extending_run).of_ok hrun
    exact ⟨hall.2, by rwa [hkept.level, hkept.depth]⟩

theorem closable_of_fits (hfits : s.printer.indent.Fits (s.printer.level + body.height)) :
    body.Closable s := by
  let P (x : Body) (t : Session) : Prop := t.printer.indent = s.printer.indent ∧
    t.printer.level + x.height ≤ s.printer.level + body.height
  intro around inner rest t hx _ _
  suffices h : P (block around inner rest) t by
    rw [h.1]
    exact Indent.fits_mono (Nat.le_of_add_right_le h.2) hfits
  refine forall_visits (P := P) ?_ ?_ ?_ ⟨rfl, le_rfl⟩ _ t hx
  · rintro what rest s t ⟨hindent, hlevel⟩ hrun
    have hkept := what.extending.of_ok hrun
    exact ⟨hkept.indent.trans hindent, by rwa [hkept.level]⟩
  · rintro around inner rest s u ⟨hindent, hlevel⟩ henter
    have hopened := Bracket.opened_of_enter henter
    refine ⟨hopened.indent.trans hindent, ?_⟩
    rw [height] at hlevel
    rw [hopened.level]
    omega
  · rintro around inner rest s t ⟨hindent, hlevel⟩ hrun
    have hkept := (around.extending_around inner.extending_run).of_ok hrun
    refine ⟨hkept.indent.trans hindent, ?_⟩
    rw [height] at hlevel
    rw [hkept.level]
    omega

theorem Closable.of_visits (h : body.Closable s) (hx : ∀ y ∈ x.visits t, y ∈ body.visits s) :
    x.Closable t :=
  fun around inner rest u hu => h around inner rest u (hx _ hu)

theorem fault?_eq_findSome? (h : body.Closable s) :
    fault? body.run s = (body.visits s).findSome? raised := by
  induction body generalizing s with
  | done | raise fault => rfl
  | print what rest ih =>
    rw [run, fault?_bind, visits, List.findSome?_cons, raised, fault?]
    cases hrun : what.perform s with
    | error e t => rfl
    | ok a t =>
      refine ih (h.of_visits ?_)
      intro y hy
      rw [visits, hrun]
      exact List.mem_cons_of_mem _ hy
  | block around inner rest ihinner ihrest =>
    rw [run, fault?_bind, visits, List.findSome?_cons, raised]
    cases henter : around.block.enter s with
    | error e u =>
      have haround : around.block.around inner.run s = .error e u :=
        bind_eq_error_iff.mpr (.inl henter)
      rw [fault?, henter, haround]
    | ok _ u =>
      have hopens : fault? around.block.enter s = none := by rw [fault?, henter]
      have hcan := h around inner rest s List.mem_cons_self hopens
      -- closing succeeds, so that the block ends as the steps inside of it do
      obtain ⟨-, hfault, -⟩ :=
        (around.around_of_enter inner.extending_run henter).resolve_right fun hcannot =>
          hcannot.1 hcan
      have hinner : inner.Closable u := by
        refine h.of_visits fun y hy => ?_
        rw [visits, henter]
        exact List.mem_cons_of_mem _ (List.mem_append_left _ hy)
      rw [hopens]
      dsimp only
      rw [List.findSome?_append, ← ihinner hinner, ← hfault, fault?]
      cases hrun : around.block.around inner.run s with
      | error e t => rfl
      | ok a t =>
        refine ihrest (h.of_visits fun y hy => ?_)
        rw [visits, henter, hrun]
        exact List.mem_cons_of_mem _ (List.mem_append_right _ hy)

end Body

/-- Every block restores the level and the open declarations, however it ends, goes on from what was
printed before it and ends with its closing text. The fault that is left with is the one that was raised
first, unless a block cannot be closed for want of room. -/
theorem blocks_restore (body : Body) (s : Session) :
    (∀ around inner rest t, (Body.block around inner rest, t) ∈ body.visits s →
      let exit := left (around.block.around inner.run) t
      t.printer.Extends exit.printer ∧
      exit.printer.Begins (left body.run s).printer ∧
      ∀ u, around.block.enter t = .ok () u → around.CanClose t.printer →
        exit.printer.output = (left inner.run u).printer.output ++
          around.closingText t.printer (left inner.run u).printer.output) ∧
    (body.Closable s → fault? body.run s = (body.visits s).findSome? Body.raised) ∧
    (s.printer.indent.Fits (s.printer.level + body.height) → body.Closable s) ∧
    (body.isScoped = true → ∀ x t, (x, t) ∈ body.visits s →
      t.printer.level + s.printer.depth = s.printer.level + t.printer.depth) := by
  refine ⟨?_, Body.fault?_eq_findSome?, Body.closable_of_fits, ?_⟩
  · intro around inner rest t hx
    refine ⟨around.extending_around inner.extending_run t,
      (Body.begins_block around inner rest t).trans (Body.begins_of_mem_visits hx), ?_⟩
    intro u henter hcan
    have hopened := (Bracket.opened_of_enter henter).extend (inner.extending_run u)
    obtain ⟨-, -, hleft⟩ :=
      (around.around_of_enter inner.extending_run henter).resolve_right fun hcannot => hcannot.1 hcan
    rw [hleft]
    exact Bracket.output_closed hopened.indent
  · intro hscoped x t hx
    exact Body.lockstep_of_isScoped hscoped hx

def interruptedBody : Body :=
  .block (.enclosed " \x7b" "\x7d")
    (.block (.enclosed " \x7b" "\x7d") (.raise (.interrupted "boom")) .done) .done

example :
    fault? interruptedBody.run ⟨{ indent := .tab }, .empty, []⟩ = some (.interrupted "boom") ∧
    (left interruptedBody.run ⟨{ indent := .tab }, .empty, []⟩).printer.output =
      " \x7b \x7b\n\t\x7d\n\x7d" := ⟨rfl, by decide⟩

theorem unclosable_block_hides_fault :
    let s : Session := ⟨{ indent := .spaces (-9223372036854775809) }, .empty, []⟩
    (interruptedBody.visits s).findSome? Body.raised = some (.interrupted "boom") ∧
    fault? interruptedBody.run s = some (.printer .indentBeyondCount) := ⟨rfl, rfl⟩

end RealmModels.Writing
