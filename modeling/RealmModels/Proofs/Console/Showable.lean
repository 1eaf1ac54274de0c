import Mathlib
import RealmModels.Console.Table
import RealmModels.Proofs.Json.Writing

namespace RealmModels.Console

open Text

def Showable (markup : String) : Prop := ∃ cs, plain markup = .ok cs

instance (markup : String) : Decidable (Showable markup) :=
  decidable_of_iff ((plain markup).toOption.isSome = true) <| by
    cases h : plain markup <;> simp [Showable, h, Except.toOption]

theorem text_of_mem_textBefore {cs : List Char} {parts : List Span}
    (h : ∀ span ∈ parts, ∃ t, span = .text t) : ∀ span ∈ textBefore cs parts, ∃ t, span = .text t := by
  cases parts with
  | nil =>
    rw [textBefore]
    · split
      · exact h
      · simp
    · simp
  | cons span parts =>
    obtain ⟨⟨t, rfl⟩, hparts⟩ := List.forall_mem_cons.mp h
    rw [textBefore]
    exact List.forall_mem_cons.mpr ⟨⟨_, rfl⟩, hparts⟩

theorem text_of_mem_spans {cs : List Char} (h : '[' ∉ cs) (fuel : ℕ) :
    ∀ span ∈ spans fuel cs, ∃ t, span = .text t := by
  induction fuel generalizing cs with
  | zero => simp [spans]
  | succ fuel ih =>
    cases cs with
    | nil => simp [spans]
    | cons c cs =>
      -- a mark could only begin behind the backslashes
      have hrest : '[' ∉ (c :: cs).dropWhile (· == '\\') :=
        fun hmem => h ((List.dropWhile_suffix _).subset hmem)
      rw [spans]
      simp only [List.span_eq_takeWhile_dropWhile]
      split
      · next tail heq =>
        rw [heq] at hrest
        exact absurd List.mem_cons_self hrest
      · split
        · exact text_of_mem_textBefore (ih fun hmem => h (List.mem_cons_of_mem _ hmem))
        · exact text_of_mem_textBefore (ih hrest)

theorem unmarked_texts {parts : List Span} (h : ∀ span ∈ parts, ∃ t, span = .text t)
    (opened : List OpenMark) : ∃ cs, unmarked opened parts = .ok (cs, opened) := by
  induction parts with
  | nil => exact ⟨[], rfl⟩
  | cons span parts ih =>
    obtain ⟨hspan, hparts⟩ := List.forall_mem_cons.mp h
    obtain ⟨t, rfl⟩ := hspan
    obtain ⟨cs, hcs⟩ := ih hparts
    refine ⟨Emoji.replace (t.length + 1) t ++ cs, ?_⟩
    rw [unmarked, hcs]
    rfl

theorem showable_of_lacks {markup : String} (h : Lacks '[' markup) : Showable markup := by
  obtain ⟨cs, hcs⟩ := unmarked_texts (text_of_mem_spans h (markup.length + 1)) []
  refine ⟨cs.filter (!isControl ·), ?_⟩
  rw [plain, hcs]
  rfl

theorem bind_isOk_iff {ε α β : Type} {x : Except ε α} {f : α → Except ε β} :
    (∃ b, x >>= f = .ok b) ↔ ∃ a, x = .ok a ∧ ∃ b, f a = .ok b := by
  cases x with
  | error e => simp [bind, Except.bind]
  | ok a => simp [bind, Except.bind]

theorem mapM_isOk_iff {ε α β : Type} {f : α → Except ε β} (as : List α) :
    (∃ bs, as.mapM f = .ok bs) ↔ ∀ a ∈ as, ∃ b, f a = .ok b := by
  induction as with
  | nil => simp [pure, Except.pure]
  | cons a as ih =>
    rw [List.mapM_cons, bind_isOk_iff, List.forall_mem_cons, ← ih]
    simp only [bind_isOk_iff, pure, Except.pure, Except.ok.injEq, exists_eq', and_true, exists_and_right]

namespace Table

structure Fits (t : Table) : Prop where
  title : Showable t.title
  head : Showable t.head.1 ∧ Showable t.head.2
  rows : ∀ row ∈ t.rows, Showable row.1 ∧ Showable row.2

theorem plainRow_isOk_iff (row : String × String) :
    (∃ cs, plainRow row = .ok cs) ↔ Showable row.1 ∧ Showable row.2 := by
  simp only [plainRow, bind_isOk_iff, pure, Except.pure, Except.ok.injEq, exists_eq', and_true,
    exists_and_right]
  rfl

theorem render_isOk_iff (t : Table) (limit : ℕ) : (∃ ls, t.render limit = .ok ls) ↔ t.Fits := by
  simp only [render, bind_isOk_iff, pure, Except.pure, Except.ok.injEq, exists_eq', and_true]
  constructor
  · rintro ⟨head, hhead, rows, hrows, title, htitle⟩
    exact ⟨⟨title, htitle⟩, (plainRow_isOk_iff _).mp ⟨head, hhead⟩, fun row hrow =>
      (plainRow_isOk_iff row).mp ((mapM_isOk_iff t.rows).mp ⟨rows, hrows⟩ row hrow)⟩
  · rintro ⟨⟨title, htitle⟩, hhead, hrows⟩
    obtain ⟨head, hhead⟩ := (plainRow_isOk_iff _).mpr hhead
    obtain ⟨rows, hrows⟩ := (mapM_isOk_iff t.rows).mpr fun row hrow =>
      (plainRow_isOk_iff row).mpr (hrows row hrow)
    exact ⟨head, hhead, rows, hrows, title, htitle⟩

end Table

end RealmModels.Console
