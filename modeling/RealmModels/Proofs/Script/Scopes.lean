import Mathlib
import RealmModels.Proofs.Script.Brackets

/-!
The open declarations behind a block whose body indents as it likes. A block in scope takes its own
from the stack in any case; a declaration does so only if its brace was printed.
-/

namespace RealmModels

/-- The level can be lowered, and the brace that ends a block be printed there. -/
def Printer.ClosesBrace (p : Printer) : Prop := ∃ level, p.level = level + 1 ∧ p.indent.Fits level

namespace Writing

open Swift

/-- However it ends, `w` leaves the declarations open that it found open. -/
def KeepsScopes {α : Type} (w : Writing α) : Prop :=
  ∀ s : Session, (left w s).printer.scopes = s.printer.scopes

namespace KeepsScopes

variable {α β : Type}

theorem of_extending {w : Writing α} (h : Extending w) : KeepsScopes w := fun s => (h s).scopes

theorem bind {w : Writing α} {f : α → Writing β} (hw : KeepsScopes w) (hf : ∀ a, KeepsScopes (f a)) :
    KeepsScopes (w >>= f) :=
  left_bind_of (R := fun p q => q.scopes = p.scopes) (fun h h' => h'.trans h) hw hf

theorem deepen : KeepsScopes deepen := fun _ => rfl

theorem dedent : KeepsScopes dedent := by
  intro s
  rw [left, Writing.dedent, tryPrinter_eq, Printer.dedent]
  cases s.printer.level <;> rfl

theorem closeBlock (ending : String) : KeepsScopes (closeBlock ending) :=
  dedent.bind fun _ => of_extending (.line ending)

end KeepsScopes

variable {s t u v : Session} {frame : Frame}

theorem closeBlock_ok_iff : (∃ u, closeBlock "\x7d" v = .ok () u) ↔ v.printer.ClosesBrace := by
  cases hlevel : v.printer.level with
  | zero =>
    have hdedent : dedent v = .error (.printer .dedentAtMargin) v := by
      rw [dedent, tryPrinter_eq, Printer.dedent, hlevel]
    have hclose : closeBlock "\x7d" v = .error (.printer .dedentAtMargin) v :=
      bind_eq_error_iff.mpr (.inl hdedent)
    constructor
    · rintro ⟨u, hrun⟩
      rw [hclose] at hrun
      cases hrun
    · rintro ⟨level, habove, -⟩
      rw [hlevel] at habove
      cases habove
  | succ level =>
    have hline := gives_line (p := { v.printer with level := level }) (n := v.names) (e := v.events)
      Bracket.brace_ne
    rw [closeBlock_eq hlevel, hline.exists_ok_iff]
    constructor
    · intro hfits
      exact ⟨level, hlevel, hfits⟩
    · rintro ⟨level', habove, hfits⟩
      obtain rfl := Nat.succ.inj (hlevel.symm.trans habove)
      exact hfits

theorem pop_of_cons {rest : List Frame} (h : v.printer.scopes = frame :: rest) :
    pop v = .ok frame { v with printer := { v.printer with scopes := rest } } := by
  have hpushed : ({ v.printer with scopes := rest } : Printer).push frame = v.printer := by
    rw [Printer.push, ← h]
  have hrun := (gives_pop (p := { v.printer with scopes := rest }) (n := v.names) (e := v.events)
    frame).ok trivial
  rwa [hpushed] at hrun

namespace Bracket

variable {b : Bracket} {rest : List Frame} {header : Header}

def isDeclaration : Bracket → Bool
  | declaration _ _ => true
  | _ => false

theorem exists_of_isDeclaration (h : b.isDeclaration = true) :
    ∃ frame header, b = declaration frame header := by
  cases b with
  | declaration frame header => exact ⟨frame, header, rfl⟩
  | bare | indented | enclosed _ _ | inScope _ => cases h

theorem left_leave_inScope (h : v.printer.scopes = frame :: rest) :
    (left (inScope frame).block.leave v).printer.scopes = rest := by
  have hleave : (inScope frame).block.leave =
      Writing.closing (closeBlock "\x7d") (do let _ ← pop) := rfl
  have hscopes : (left (closeBlock "\x7d") v).printer.scopes = frame :: rest :=
    (KeepsScopes.closeBlock _ v).trans h
  rw [hleave, left_closing, left_bind, pop_of_cons hscopes]
  rfl

theorem leave_declaration :
    (declaration frame header).block.leave = (do let _ ← closeDeclaration) := rfl

theorem left_leave_of_closes (h : v.printer.scopes = frame :: rest) (hcloses : v.printer.ClosesBrace) :
    (left (declaration frame header).block.leave v).printer.scopes = rest := by
  obtain ⟨u, hclose⟩ := closeBlock_ok_iff.mpr hcloses
  have hscopes := KeepsScopes.closeBlock "\x7d" v
  rw [left_of_ok hclose, h] at hscopes
  have hrun : closeDeclaration v = .ok frame _ := (bind_of_ok hclose).trans (pop_of_cons hscopes)
  rw [leave_declaration, left_bind, hrun]
  rfl

theorem left_leave_of_not_closes (h : v.printer.scopes = frame :: rest)
    (hcloses : ¬ v.printer.ClosesBrace) :
    (left (declaration frame header).block.leave v).printer.scopes = frame :: rest := by
  cases hclose : closeBlock "\x7d" v with
  | ok _ u => exact absurd (closeBlock_ok_iff.mp ⟨u, hclose⟩) hcloses
  | error e u =>
    have hscopes := KeepsScopes.closeBlock "\x7d" v
    rw [left_of_error hclose, h] at hscopes
    have hrun : closeDeclaration v = .error e u := bind_eq_error_iff.mpr (.inl hclose)
    rw [leave_declaration, left_bind, hrun]
    exact hscopes

theorem left_leave_of_frames (h : v.printer.scopes = b.frames ++ rest)
    (hcloses : b.isDeclaration = true → v.printer.ClosesBrace) :
    (left b.block.leave v).printer.scopes = rest := by
  cases b with
  | bare => exact h
  | indented => exact (KeepsScopes.dedent v).trans h
  | enclosed opening ending => exact (KeepsScopes.closeBlock ending v).trans h
  | inScope frame => exact left_leave_inScope h
  | declaration frame header => exact left_leave_of_closes h (hcloses rfl)

theorem left_around_of_enter {α : Type} {w : Writing α} (henter : b.block.enter s = .ok () u) :
    left (b.block.around w) s = left b.block.leave (left w u) := by
  have haround : left (b.block.around w) s = left (Writing.closing w b.block.leave) u := by
    rw [Block.around, left_bind, henter]
  rw [haround, left_closing]

theorem scopes_of_enter_error {α : Type} {w : Writing α} {e : Fault} (henter : b.block.enter s = .error e u) :
    (left (b.block.around w) s).printer.scopes = s.printer.scopes := by
  have haround : b.block.around w s = .error e u := bind_eq_error_iff.mpr (.inl henter)
  rw [left_of_error haround]
  exact (extends_of_enter_error henter).scopes

end Bracket

theorem KeepsScopes.around {α : Type} {w : Writing α} (hw : KeepsScopes w) {b : Bracket}
    (hb : b.isDeclaration = false) : KeepsScopes (b.block.around w) := by
  intro s
  cases henter : b.block.enter s with
  | error e u => exact Bracket.scopes_of_enter_error henter
  | ok _ u =>
    have hbody : (left w u).printer.scopes = b.frames ++ s.printer.scopes := by
      rw [hw u, (Bracket.opened_of_enter henter).scopes]
    rw [Bracket.left_around_of_enter henter]
    exact Bracket.left_leave_of_frames hbody fun h => absurd (hb.symm.trans h) Bool.false_ne_true

/-- A block around steps that leave the open declarations as they are leaves them so as well, unless it
is a declaration and its brace cannot be printed behind the steps: then it stays open. -/
theorem scopes_around_iff {α : Type} (b : Bracket) (w : Writing α) (s : Session)
    (hw : ∀ u, b.block.enter s = .ok () u → (left w u).printer.scopes = u.printer.scopes) :
    ((left (b.block.around w) s).printer.scopes = s.printer.scopes ↔
      ∀ u, b.block.enter s = .ok () u → b.isDeclaration = true → (left w u).printer.ClosesBrace) ∧
    ((left (b.block.around w) s).printer.scopes = s.printer.scopes ∨
      (left (b.block.around w) s).printer.scopes = b.frames ++ s.printer.scopes) := by
  cases henter : b.block.enter s with
  | error e u =>
    have hscopes := Bracket.scopes_of_enter_error (w := w) henter
    refine ⟨⟨fun _ u' hu' => ?_, fun _ => hscopes⟩, .inl hscopes⟩
    cases hu'
  | ok _ u =>
    have hbody : (left w u).printer.scopes = b.frames ++ s.printer.scopes := by
      rw [hw u henter, (Bracket.opened_of_enter henter).scopes]
    rw [Bracket.left_around_of_enter henter]
    by_cases hcloses : b.isDeclaration = true → (left w u).printer.ClosesBrace
    · have hscopes := Bracket.left_leave_of_frames hbody hcloses
      refine ⟨⟨fun _ u' hu' => ?_, fun _ => hscopes⟩, .inl hscopes⟩
      obtain ⟨-, rfl⟩ := EStateM.Result.ok.inj hu'
      exact hcloses
    · obtain ⟨hdeclaration, hnot⟩ := Classical.not_imp.mp hcloses
      obtain ⟨frame, header, rfl⟩ := Bracket.exists_of_isDeclaration hdeclaration
      have hscopes : (left (Bracket.declaration frame header).block.leave (left w u)).printer.scopes =
          frame :: s.printer.scopes := Bracket.left_leave_of_not_closes hbody hnot
      refine ⟨⟨fun hsame => ?_, fun h => absurd (h u rfl) hcloses⟩, .inr hscopes⟩
      exact absurd (hscopes.symm.trans hsame) (List.cons_ne_self _ _)

theorem scopes_closed :
    (left ((Bracket.inScope ⟨"Pebble", "class", true⟩).block.around do
        dedent
        (Bracket.inScope ⟨"Grain", "class", true⟩).block.around dedent)
      { printer := { indent := .spaces 2 } }).printer.scopes = [] ∧
    (left ((Bracket.declaration ⟨"Pebble", "class", true⟩ {}).block.around do
        deepen
        dedent)
      { printer := { indent := .spaces 2 } }).printer.scopes = [] := by
  constructor
  · exact (scopes_around_iff _ _ _ fun _ _ =>
      (KeepsScopes.dedent.bind fun _ => KeepsScopes.dedent.around rfl) _).1.mpr fun _ _ h => nomatch h
  · refine (scopes_around_iff _ _ _ fun _ _ =>
      (KeepsScopes.deepen.bind fun _ => KeepsScopes.dedent) _).1.mpr fun u hu _ => ?_
    obtain ⟨-, rfl⟩ := EStateM.Result.ok.inj hu
    exact ⟨0, rfl, rfl⟩

theorem dedent_leaves_declaration_open :
    KeepsScopes dedent ∧
      (left ((Bracket.declaration ⟨"Pebble", "class", true⟩ {}).block.around dedent)
        { printer := { indent := .spaces 2 } }).printer.scopes = [⟨"Pebble", "class", true⟩] := by
  refine ⟨KeepsScopes.dedent, ?_⟩
  decide

end Writing

end RealmModels
