import Mathlib
import RealmModels.Proofs.Script.Extending

namespace RealmModels

def Printer.backTo (q p : Printer) : Printer := { q with level := p.level, scopes := p.scopes }

namespace Printer

theorem Keeps.backTo_eq {p q : Printer} (h : p.Keeps q) : q.backTo p = q := by
  rw [backTo, ← h.level, ← h.scopes]

theorem newline_push (p : Printer) (frame : Frame) : (p.push frame).newline = p.newline.push frame := by
  rw [newline_eq_put_blank, newline_eq_put_blank, put_push]

end Printer

namespace Writing

open Swift

namespace Bracket

def levels : Bracket → ℕ
  | bare => 0
  | _ => 1

def frames : Bracket → List Frame
  | inScope frame | declaration frame _ => [frame]
  | _ => []

theorem exists_block :
    (∀ frame, ∃ b : Bracket, b.levels = b.frames.length ∧ b.block = namespaceBlock frame) ∧
    (∀ name modifiers superclass protocols, ∃ b : Bracket, b.levels = b.frames.length ∧
      b.block = classBlock name modifiers superclass protocols) ∧
    (∀ name protocols description, ∃ b : Bracket, b.levels = b.frames.length ∧
      b.block = structBlock name protocols description) ∧
    (∀ name protocols, ∃ b : Bracket, b.levels = b.frames.length ∧
      b.block = protocolBlock name protocols) := by
  refine ⟨?_, fun _ _ _ _ => ⟨.declaration _ _, rfl, rfl⟩, fun _ _ _ => ⟨.declaration _ _, rfl, rfl⟩,
    fun _ _ => ⟨.declaration _ _, rfl, rfl⟩⟩
  intro frame
  cases frame with
  | none => exact ⟨.bare, rfl, rfl⟩
  | some f => exact ⟨.declaration _ _, rfl, rfl⟩

def ending : Bracket → String
  | bare | indented => ""
  | enclosed _ ending => ending
  | inScope _ | declaration _ _ => "\x7d"

def CanClose (b : Bracket) (p : Printer) : Prop := b.ending ≠ "" → p.indent.Fits p.level

def closingText (b : Bracket) (p : Printer) (output : String) : String :=
  if b.ending = "" then ""
  else (if output = "" then "" else "\n") ++ p.indent.shown p.level ++ b.ending

def closed (b : Bracket) (p q : Printer) : Printer :=
  if b.ending = "" then q.backTo p else (q.backTo p).put ⟨0, b.ending⟩

structure Opened (b : Bracket) (p q : Printer) : Prop where
  indent : q.indent = p.indent
  level : q.level = p.level + b.levels
  scopes : q.scopes = b.frames ++ p.scopes
  output : p.Begins q

theorem closed_of_empty {b : Bracket} (h : b.ending = "") (p q : Printer) :
    b.closed p q = q.backTo p := by
  rw [closed, if_pos h]

theorem closed_of_ne {b : Bracket} (h : b.ending ≠ "") (p q : Printer) :
    b.closed p q = (q.backTo p).put ⟨0, b.ending⟩ := by
  rw [closed, if_neg h]

theorem Opened.extend {b : Bracket} {p q r : Printer} (h : b.Opened p q) (h' : q.Extends r) :
    b.Opened p r :=
  ⟨h'.indent.trans h.indent, h'.level.trans h.level, h'.scopes.trans h.scopes,
    h.output.trans h'.output⟩

theorem Opened.depth {b : Bracket} {p q : Printer} (h : b.Opened p q) :
    q.depth = b.frames.length + p.depth := by
  rw [Printer.depth, h.scopes, List.length_append, Printer.depth]

theorem Opened.backTo {b : Bracket} {p q : Printer} (h : b.Opened p q) : p.Extends (q.backTo p) :=
  ⟨⟨h.indent, rfl, rfl⟩, h.output⟩

theorem extends_closed {b : Bracket} {p q : Printer} (h : b.Opened p q) : p.Extends (b.closed p q) := by
  rw [closed]
  split
  · exact h.backTo
  · exact h.backTo.trans (.put _ _)

theorem output_closed {b : Bracket} {p q : Printer} (h : q.indent = p.indent) :
    (b.closed p q).output = q.output ++ b.closingText p q.output := by
  rw [closed, closingText]
  split
  · exact String.append_empty.symm
  · next hending =>
    have hrender : Line.render q.indent p.level ⟨0, b.ending⟩ = p.indent.shown p.level ++ b.ending := by
      rw [Line.render, if_neg hending, h, Nat.add_zero]
    by_cases hempty : q.output = ""
    · rw [Printer.put_of_empty (show (q.backTo p).output = "" from hempty), hempty, if_pos rfl,
        String.empty_append, String.empty_append]
      exact hrender
    · rw [Printer.put_of_ne (show (q.backTo p).output ≠ "" from hempty), if_neg hempty]
      simp only [Printer.backTo, hrender, String.append_assoc]

variable {b : Bracket} {s t u : Session}

theorem opened_of_enter (h : b.block.enter s = .ok () u) : b.Opened s.printer u.printer := by
  cases b with
  | bare =>
    obtain ⟨-, rfl⟩ := EStateM.Result.ok.inj h
    exact ⟨rfl, rfl, rfl, .refl _⟩
  | indented =>
    obtain ⟨-, rfl⟩ := EStateM.Result.ok.inj h
    exact ⟨rfl, rfl, rfl, .refl _⟩
  | enclosed opening ending =>
    obtain ⟨-, rfl⟩ := EStateM.Result.ok.inj h
    exact ⟨rfl, rfl, rfl, opening, rfl⟩
  | inScope frame =>
    obtain ⟨-, rfl⟩ := EStateM.Result.ok.inj h
    exact ⟨rfl, rfl, rfl, " \x7b", rfl⟩
  | declaration frame header =>
    obtain ⟨-, -, rfl⟩ := (gives_openDeclaration frame header () u).mp h
    refine ⟨opened_indent frame header _, opened_level frame header _, opened_scopes frame header _, ?_⟩
    exact ((Printer.Extends.putAll _ _).trans (.put _ _)).output

theorem canClose_declaration {frame : Frame} {header : Header}
    (h : (declaration frame header).block.enter s = .ok () u) :
    (declaration frame header).CanClose s.printer := by
  obtain ⟨⟨-, hfits⟩, -, -⟩ := (gives_openDeclaration frame header () u).mp h
  exact fun _ => hfits

theorem extends_of_enter_error {e : Fault} (h : b.block.enter s = .error e u) :
    s.printer.Extends u.printer := by
  cases b with
  | bare | indented | enclosed _ _ | inScope _ => cases h
  | declaration frame header =>
    have htitle : Extending (printTitle frame header) :=
      Extending.newlineIfNeeded.seq ((Extending.comment _).seq ((Extending.line _).seq (.print _)))
    exact htitle.of_error (printTitle_of_error h)

theorem closeBlock_cases {p q : Printer} (hlevel : s.printer.level = p.level + 1)
    (hindent : s.printer.indent = p.indent) (hq : { s.printer with level := p.level } = q)
    {ending : String} (hending : ending ≠ "") :
    (p.indent.Fits p.level ∧ closeBlock ending s = .ok () { s with printer := q.put ⟨0, ending⟩ }) ∨
    (¬ p.indent.Fits p.level ∧
      ∃ e, closeBlock ending s = .error (.printer e) { s with printer := q.newline }) := by
  have hq' : q.indent = p.indent ∧ q.level = p.level := by
    rw [← hq]
    exact ⟨hindent, rfl⟩
  have hclose : closeBlock ending s = line ending { s with printer := q } := by
    rw [closeBlock_eq hlevel, hq]
  rw [hclose, ← hq'.1, ← hq'.2]
  by_cases hfits : q.indent.Fits q.level
  · exact .inl ⟨hfits, (gives_line hending).ok hfits⟩
  · exact .inr ⟨hfits, line_of_not_fits hending hfits⟩

def Leaves (b : Bracket) (p : Printer) (v : Session) : Prop :=
  (b.CanClose p ∧ b.block.leave v = .ok () { v with printer := b.closed p v.printer }) ∨
  (¬ b.CanClose p ∧ ∃ e, b.block.leave v =
    .error (.printer e) { v with printer := (v.printer.backTo p).newline })

section

variable {p : Printer} {v : Session} {frame : Frame}

theorem leaves_bare (h : bare.Opened p v.printer) : bare.Leaves p v := by
  have hback : v.printer.backTo p = v.printer := Printer.Keeps.backTo_eq ⟨h.indent, h.level, h.scopes⟩
  refine .inl ⟨fun hending => absurd rfl hending, ?_⟩
  rw [closed_of_empty rfl, hback]
  rfl

theorem lowered_eq {q : Printer} (h : q.scopes = p.scopes) :
    { q with level := p.level } = q.backTo p := by
  rw [Printer.backTo, ← h]

theorem leaves_indented (h : indented.Opened p v.printer) : indented.Leaves p v := by
  have hdedent := (gives_dedent (n := v.names) (e := v.events) h.level).ok trivial
  refine .inl ⟨fun hending => absurd rfl hending, ?_⟩
  rw [closed_of_empty rfl, ← lowered_eq h.scopes]
  exact hdedent

theorem leaves_enclosed {opening ending : String} (h : (enclosed opening ending).Opened p v.printer) :
    (enclosed opening ending).Leaves p v := by
  have hlowered := lowered_eq h.scopes
  by_cases hending : (enclosed opening ending).ending = ""
  · refine .inl ⟨fun hne => absurd hending hne, ?_⟩
    rw [closed_of_empty hending, ← hlowered]
    refine (closeBlock_eq h.level ending).trans ?_
    rw [show ending = "" from hending]
    rfl
  · rw [Leaves, closed_of_ne hending]
    rcases closeBlock_cases h.level h.indent hlowered hending with ⟨hfits, hclose⟩ | ⟨hfits, hclose⟩
    · exact .inl ⟨fun _ => hfits, hclose⟩
    · exact .inr ⟨fun hcan => hfits (hcan hending), hclose⟩

theorem brace_ne : "\x7d" ≠ "" := by decide

theorem closeBrace_cases (hlevel : v.printer.level = p.level + 1)
    (hindent : v.printer.indent = p.indent) (hscopes : v.printer.scopes = frame :: p.scopes) :
    (p.indent.Fits p.level ∧ closeBlock "\x7d" v =
      .ok () { v with printer := ((v.printer.backTo p).put ⟨0, "\x7d"⟩).push frame }) ∨
    (¬ p.indent.Fits p.level ∧ ∃ e, closeBlock "\x7d" v =
      .error (.printer e) { v with printer := (v.printer.backTo p).newline.push frame }) := by
  have hlowered : { v.printer with level := p.level } = (v.printer.backTo p).push frame := by
    rw [Printer.push, Printer.backTo, ← hscopes]
  have hcases := closeBlock_cases hlevel hindent hlowered brace_ne
  rwa [Printer.put_push, Printer.newline_push] at hcases

theorem pop_push (q : Printer) :
    (do let _ ← pop : Writing Unit) { v with printer := q.push frame } = .ok () { v with printer := q } :=
  bind_of_ok ((gives_pop frame).ok trivial)

theorem leaves_inScope (h : (inScope frame).Opened p v.printer) : (inScope frame).Leaves p v := by
  have hleave : (inScope frame).block.leave v =
      Writing.closing (closeBlock "\x7d") (do let _ ← pop) v := rfl
  have hending : (inScope frame).ending ≠ "" := brace_ne
  rw [Leaves, closed_of_ne hending, hleave]
  rcases closeBrace_cases h.level h.indent h.scopes with ⟨hfits, hclose⟩ | ⟨hfits, e, hclose⟩
  · exact .inl ⟨fun _ => hfits, closing_eq_ok_iff.mpr ⟨_, hclose, pop_push _⟩⟩
  · exact .inr ⟨fun hcan => hfits (hcan hending), e,
      closing_eq_error_iff.mpr (.inl ⟨_, hclose, pop_push _⟩)⟩

theorem leaves_declaration {header : Header} (hcan : (declaration frame header).CanClose p)
    (h : (declaration frame header).Opened p v.printer) : (declaration frame header).Leaves p v := by
  have hending : (declaration frame header).ending ≠ "" := brace_ne
  rcases closeBrace_cases h.level h.indent h.scopes with ⟨hfits, hclose⟩ | ⟨hfits, -⟩
  · refine .inl ⟨hcan, ?_⟩
    have hboth : closeDeclaration v =
        .ok frame { v with printer := (v.printer.backTo p).put ⟨0, "\x7d"⟩ } :=
      (bind_of_ok hclose).trans ((gives_pop frame).ok trivial)
    rw [closed_of_ne hending]
    exact bind_of_ok hboth
  · exact absurd (hcan hending) hfits

end

theorem leaves_of_enter {v : Session} (henter : b.block.enter s = .ok () u)
    (hbody : u.printer.Extends v.printer) : b.Leaves s.printer v := by
  have hopened := (opened_of_enter henter).extend hbody
  cases b with
  | bare => exact leaves_bare hopened
  | indented => exact leaves_indented hopened
  | enclosed opening ending => exact leaves_enclosed hopened
  | inScope frame => exact leaves_inScope hopened
  | declaration frame header => exact leaves_declaration (canClose_declaration henter) hopened

theorem around_of_enter {w : Writing Unit} (hw : Extending w) (henter : b.block.enter s = .ok () u) :
    (b.CanClose s.printer ∧ fault? (b.block.around w) s = fault? w u ∧
      (left (b.block.around w) s).printer = b.closed s.printer (left w u).printer) ∨
    (¬ b.CanClose s.printer ∧ (∃ e, fault? (b.block.around w) s = some (.printer e)) ∧
      (left (b.block.around w) s).printer = ((left w u).printer.backTo s.printer).newline) := by
  have haround : b.block.around w s = Writing.closing w b.block.leave u := bind_of_ok henter
  have hbody := hw u
  rw [fault?, left, haround]
  cases hrun : w u with
  | ok a v =>
    rw [left_of_ok hrun] at hbody ⊢
    rcases leaves_of_enter henter hbody with ⟨hcan, hleave⟩ | ⟨hcan, e, hleave⟩
    · exact .inl ⟨hcan, by simp [Writing.closing, fault?, hrun, hleave]⟩
    · exact .inr ⟨hcan, by simp [Writing.closing, hrun, hleave]⟩
  | error fault v =>
    rw [left_of_error hrun] at hbody ⊢
    rcases leaves_of_enter henter hbody with ⟨hcan, hleave⟩ | ⟨hcan, e, hleave⟩
    · exact .inl ⟨hcan, by simp [Writing.closing, fault?, hrun, hleave]⟩
    · exact .inr ⟨hcan, by simp [Writing.closing, hrun, hleave]⟩

theorem begins_around {w : Writing Unit} (hw : Extending w) (henter : b.block.enter s = .ok () u) :
    (left w u).printer.Begins (left (b.block.around w) s).printer := by
  have hopened := (opened_of_enter henter).extend (hw u)
  rcases around_of_enter hw henter with ⟨-, -, hleft⟩ | ⟨-, -, hleft⟩
  · rw [hleft]
    exact ⟨_, output_closed hopened.indent⟩
  · rw [hleft]
    exact (Printer.Extends.newline _).output

theorem extending_around {w : Writing Unit} (hw : Extending w) : Extending (b.block.around w) := by
  intro s
  cases henter : b.block.enter s with
  | error e u =>
    have haround : b.block.around w s = .error e u := bind_eq_error_iff.mpr (.inl henter)
    rw [left_of_error haround]
    exact extends_of_enter_error henter
  | ok _ u =>
    have hopened := (opened_of_enter henter).extend (hw u)
    rcases around_of_enter hw henter with ⟨-, -, hleft⟩ | ⟨-, -, hleft⟩
    · rw [hleft]
      exact extends_closed hopened
    · rw [hleft]
      exact hopened.backTo.trans (.newline _)

end Bracket

end Writing

end RealmModels
