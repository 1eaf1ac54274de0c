import Mathlib
import RealmModels.Proofs.Printer.Line
import RealmModels.Writing.Block

namespace RealmModels.Writing

/-- `w` succeeds from `s` under just the condition `C`, and then gives `a` and leaves `t`. -/
def Gives {α : Type} (w : Writing α) (s : Session) (C : Prop) (a : α) (t : Session) : Prop :=
  ∀ b u, w s = .ok b u ↔ C ∧ b = a ∧ u = t

section

variable {α β : Type} {w : Writing α} {f : α → Writing β} {s t u : Session} {C D : Prop} {a : α}
  {b : β}

theorem Gives.ok (h : Gives w s C a t) (hC : C) : w s = .ok a t := (h a t).mpr ⟨hC, rfl, rfl⟩

theorem Gives.exists_ok_iff (h : Gives w s C a t) : (∃ u, w s = .ok a u) ↔ C :=
  ⟨fun ⟨u, hrun⟩ => ((h a u).mp hrun).1, fun hC => ⟨t, h.ok hC⟩⟩

theorem Gives.congr (h : Gives w s C a t) (hCD : C ↔ D) : Gives w s D a t := by
  intro b u
  rw [h b u, hCD]

theorem gives_of_ok (h : w s = .ok a t) : Gives w s True a t := by
  intro b u
  rw [h]
  simp [eq_comm]

theorem gives_of_error {e : Fault} (h : w s = .error e u) : Gives w s False a t := by
  intro b v
  rw [h]
  simp

theorem gives_pure (a : α) (s : Session) : Gives (pure a : Writing α) s True a s :=
  gives_of_ok rfl

theorem gives_throw (e : Fault) (s t : Session) (a : α) : Gives (throw e : Writing α) s False a t :=
  gives_of_error rfl

theorem bind_eq_ok_iff {v : Session} :
    (w >>= f) s = .ok b v ↔ ∃ a t, w s = .ok a t ∧ f a t = .ok b v := by
  change EStateM.bind w f s = _ ↔ _
  simp only [EStateM.bind]
  cases w s with
  | ok a t => simp
  | error e t => simp

theorem Gives.bind (hw : Gives w s C a t) (hf : C → Gives (f a) t D b u) :
    Gives (w >>= f) s (C ∧ D) b u := by
  intro c v
  rw [bind_eq_ok_iff]
  constructor
  · rintro ⟨a', t', hw', hf'⟩
    obtain ⟨hC, rfl, rfl⟩ := (hw a' t').mp hw'
    obtain ⟨hD, rfl, rfl⟩ := (hf hC c v).mp hf'
    exact ⟨⟨hC, hD⟩, rfl, rfl⟩
  · rintro ⟨⟨hC, hD⟩, rfl, rfl⟩
    exact ⟨a, t, hw.ok hC, (hf hC).ok hD⟩

theorem Gives.seq {v : Writing β} (hw : Gives w s C a t) (hv : Gives v t D b u) :
    Gives (w >>= fun _ => v) s (C ∧ D) b u := hw.bind fun _ => hv

theorem Gives.then {v : Writing β} (hw : Gives w s True a t) (hv : Gives v t D b u) :
    Gives (w >>= fun _ => v) s D b u := (hw.seq hv).congr (by simp only [true_and])

theorem Gives.use (hw : Gives w s True a t) (hf : Gives (f a) t D b u) :
    Gives (w >>= f) s D b u := (hw.bind fun _ => hf).congr (by simp only [true_and])

theorem gives_onPrinter (f : Printer → Printer) (s : Session) :
    Gives (onPrinter f) s True () { s with printer := f s.printer } := gives_of_ok rfl

theorem gives_report (e : Log.Event) (s : Session) :
    Gives (report e) s True () { s with events := s.events ++ [e] } := gives_of_ok rfl

theorem tryPrinter_eq (f : Printer → Except PrinterError Printer) (s : Session) :
    tryPrinter f s =
      match f s.printer with
      | .ok p => .ok () { s with printer := p }
      | .error e => .error (.printer e) s := by
  cases hf : f s.printer <;>
    (simp only [tryPrinter, bind, EStateM.bind, get, getThe, MonadStateOf.get, EStateM.get, hf]; rfl)

theorem look_eq (f : Printer → Except PrinterError α) (s : Session) :
    look f s =
      match f s.printer with
      | .ok a => .ok a s
      | .error e => .error (.printer e) s := by
  cases hf : f s.printer <;>
    (simp only [look, bind, EStateM.bind, get, getThe, MonadStateOf.get, EStateM.get, hf]; rfl)

theorem gives_tryPrinter {f : Printer → Except PrinterError Printer} {p : Printer}
    (h : ∀ q, f s.printer = .ok q ↔ C ∧ q = p) :
    Gives (tryPrinter f) s C () { s with printer := p } := by
  intro _ u
  rw [tryPrinter_eq]
  cases hf : f s.printer with
  | ok q =>
    obtain ⟨hC, rfl⟩ := (h q).mp hf
    simp [hC, eq_comm]
  | error e =>
    have hC : ¬ C := fun hC => by simpa [hf] using (h p).mpr ⟨hC, rfl⟩
    simp [hC]

theorem gives_look {f : Printer → Except PrinterError α} (h : ∀ b, f s.printer = .ok b ↔ C ∧ b = a) :
    Gives (look f) s C a s := by
  intro b u
  rw [look_eq]
  cases hf : f s.printer with
  | ok b' =>
    obtain ⟨hC, rfl⟩ := (h b').mp hf
    simp [hC, eq_comm]
  | error e =>
    have hC : ¬ C := fun hC => by simpa [hf] using (h a).mpr ⟨hC, rfl⟩
    simp [hC]

theorem gives_ofExcept {x : Except Fault α} (h : ∀ b, x = .ok b ↔ C ∧ b = a) :
    Gives (MonadExcept.ofExcept x : Writing α) s C a s := by
  intro b u
  cases hx : x with
  | ok b' =>
    obtain ⟨hC, rfl⟩ := (h b').mp hx
    change EStateM.Result.ok b' s = _ ↔ _
    simp [hC, eq_comm]
  | error e =>
    have hC : ¬ C := fun hC => by simpa [hx] using (h a).mpr ⟨hC, rfl⟩
    change EStateM.Result.error e s = _ ↔ _
    simp [hC]

theorem gives_closing {body : Writing α} {close : Writing Unit} (hb : Gives body s C a t)
    (hc : C → Gives close t D () u) : Gives (closing body close) s (C ∧ D) a u := by
  intro b v
  cases hrun : body s with
  | ok b' t' =>
    obtain ⟨hC, rfl, rfl⟩ := (hb b' t').mp hrun
    have hclose := hc hC
    cases hleave : close t' with
    | ok c v' =>
      obtain ⟨hD, -, rfl⟩ := (hclose c v').mp hleave
      simp [closing, hrun, hleave, hC, hD, eq_comm]
    | error e v' =>
      have hD : ¬ D := fun hD => by simp [hclose.ok hD] at hleave
      simp [closing, hrun, hleave, hD]
  | error e t' =>
    have hC : ¬ C := fun hC => by simp [hb.ok hC] at hrun
    cases hleave : close t' <;> simp [closing, hrun, hleave, hC]

theorem Gives.around {b : Block} {body : Writing α} {v : Session} {E : Prop}
    (he : Gives b.enter s C () t) (hb : Gives body t D a u) (hl : Gives b.leave u E () v) :
    Gives (b.around body) s (C ∧ D ∧ E) a v :=
  he.bind fun _ => gives_closing hb fun _ => hl

theorem gives_filterM {ask : α → Writing Bool} {q : α → Bool} {E : α → Prop} (as : List α)
    (h : ∀ a ∈ as, Gives (ask a) s (E a) (q a) s) :
    Gives (as.filterM ask) s (∀ a ∈ as, E a) (as.filter q) s := by
  have haux (acc : List α) :
      Gives (as.filterAuxM ask acc) s (∀ a ∈ as, E a) ((as.filter q).reverse ++ acc) s := by
    induction as generalizing acc with
    | nil => exact (gives_pure _ _).congr (by simp)
    | cons a as ih =>
      have hrest := ih (fun b hb => h b (List.mem_cons_of_mem _ hb))
      refine ((h a List.mem_cons_self).bind fun _ => ?_).congr List.forall_mem_cons.symm
      cases hq : q a with
      | true => simpa [hq] using hrest (a :: acc)
      | false => simpa [hq] using hrest acc
  have hwhole := (haux []).bind (f := fun bs => pure bs.reverse) fun _ => gives_pure _ s
  rw [List.append_nil, List.reverse_reverse] at hwhole
  exact hwhole.congr (and_true _).to_iff

theorem map_eq_ok_iff {ε : Type} {x : Except ε α} (h : ∀ c, x = .ok c ↔ C ∧ c = a) (f : α → β)
    (b : β) : (do return f (← x)) = .ok b ↔ C ∧ b = f a := by
  cases hx : x with
  | ok c =>
    obtain ⟨hC, rfl⟩ := (h c).mp hx
    change Except.ok (f c) = .ok b ↔ _
    rw [Except.ok.injEq]
    exact ⟨fun hb => ⟨hC, hb.symm⟩, fun hb => hb.2.symm⟩
  | error e =>
    have hC : ¬ C := fun hC => by simpa [hx] using (h a).mpr ⟨hC, rfl⟩
    simp [bind, Except.bind, hC]

theorem mapM_eq_ok_iff {ε γ : Type} {g : α → Except ε γ} {h : α → γ} {E : α → Prop} (as : List α)
    (hg : ∀ a c, g a = .ok c ↔ E a ∧ c = h a) (cs : List γ) :
    as.mapM g = .ok cs ↔ (∀ a ∈ as, E a) ∧ cs = as.map h := by
  induction as generalizing cs with
  | nil => simp [pure, Except.pure, eq_comm]
  | cons a as ih =>
    rw [List.mapM_cons, List.forall_mem_cons]
    cases ha : g a with
    | error e =>
      have hE : ¬ E a := fun hE => by simpa [ha] using (hg a _).mpr ⟨hE, rfl⟩
      simp [bind, Except.bind, hE]
    | ok c =>
      obtain ⟨hE, rfl⟩ := (hg a c).mp ha
      cases has : as.mapM g with
      | error e =>
        have hall : ¬ ∀ b ∈ as, E b := fun hall => by simpa [has] using (ih _).mpr ⟨hall, rfl⟩
        simp [bind, Except.bind, hall]
      | ok ds =>
        obtain ⟨hall, rfl⟩ := (ih ds).mp has
        simpa [bind, Except.bind, pure, Except.pure, hE, eq_comm] using fun _ => hall

end

end RealmModels.Writing
