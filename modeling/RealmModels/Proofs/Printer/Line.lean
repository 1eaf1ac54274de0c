import Mathlib
import RealmModels.Printer.Basic

namespace RealmModels

theorem eq_ok_iff {ε α : Type} (d : α) (x : Except ε α) (a : α) :
    x = .ok a ↔ x.isOk = true ∧ a = x.toOption.getD d := by
  cases x with
  | ok b => simp [Except.isOk, Except.toBool, Except.toOption, eq_comm]
  | error e => simp [Except.isOk, Except.toBool]

/-- A text on a line of its own, so many levels deeper than where it is printed; an empty text leaves
the line empty. -/
structure Line where
  depth : ℕ
  text : String
  deriving DecidableEq, Repr

namespace Indent

def shown (i : Indent) (level : ℕ) : String := (i.text level).toOption.getD ""

def Fits (i : Indent) (level : ℕ) : Prop := (i.text level).isOk = true

instance (i : Indent) (level : ℕ) : Decidable (i.Fits level) :=
  inferInstanceAs (Decidable (_ = true))

theorem text_eq_ok_iff (i : Indent) (level : ℕ) (s : String) :
    i.text level = .ok s ↔ i.Fits level ∧ s = i.shown level := eq_ok_iff "" (i.text level) s

end Indent

namespace Line

def blank : Line := ⟨0, ""⟩

def deeper (l : Line) : Line := { l with depth := l.depth + 1 }

def render (i : Indent) (level : ℕ) (l : Line) : String :=
  if l.text = "" then "" else i.shown (level + l.depth) ++ l.text

theorem map_text_deeper (ls : List Line) : (ls.map deeper).map text = ls.map text := by
  rw [List.map_map]
  rfl

def renderAll (i : Indent) (level : ℕ) (ls : List Line) : String :=
  String.join (ls.map fun l => "\n" ++ l.render i level)

theorem render_deeper (i : Indent) (level : ℕ) (l : Line) :
    l.deeper.render i level = l.render i (level + 1) := by
  simp only [render, deeper, Nat.add_comm l.depth 1, Nat.add_assoc]

theorem renderAll_deeper (i : Indent) (level : ℕ) (ls : List Line) :
    renderAll i level (ls.map deeper) = renderAll i (level + 1) ls := by
  simp only [renderAll, List.map_map, Function.comp_def, render_deeper]

theorem renderAll_nil (i : Indent) (level : ℕ) : renderAll i level [] = "" := rfl

theorem renderAll_cons (i : Indent) (level : ℕ) (l : Line) (ls : List Line) :
    renderAll i level (l :: ls) = "\n" ++ l.render i level ++ renderAll i level ls := by
  simp only [renderAll, List.map_cons, String.join_cons]

theorem renderAll_append (i : Indent) (level : ℕ) (ls ls' : List Line) :
    renderAll i level (ls ++ ls') = renderAll i level ls ++ renderAll i level ls' := by
  induction ls with
  | nil => simp only [List.nil_append, renderAll_nil, String.empty_append]
  | cons l ls ih => simp only [List.cons_append, renderAll_cons, ih, String.append_assoc]

end Line

namespace Printer

def put (p : Printer) (l : Line) : Printer := p.newline.print (l.render p.indent p.level)

def putAll (p : Printer) (ls : List Line) : Printer := ls.foldl put p

def HasRoom (p : Printer) (ls : List Line) : Prop :=
  ∀ l ∈ ls, l.text ≠ "" → p.indent.Fits (p.level + l.depth)

theorem newline_of_ne {p : Printer} (h : p.output ≠ "") :
    p.newline = { p with output := p.output ++ "\n", atBlockStart := false } := by
  simp only [newline, h, ↓reduceIte, print]

theorem newline_of_empty {p : Printer} (h : p.output = "") : p.newline = p := by
  simp only [newline, h, ↓reduceIte]

theorem put_of_ne {p : Printer} (h : p.output ≠ "") (l : Line) :
    p.put l = { p with
      output := p.output ++ "\n" ++ l.render p.indent p.level
      atBlockStart := false } := by
  simp only [put, newline_of_ne h, print]

theorem put_of_empty {p : Printer} (h : p.output = "") (l : Line) :
    p.put l = { p with output := l.render p.indent p.level } := by
  simp only [put, newline_of_empty h, print, h, String.empty_append]

theorem putAll_nil (p : Printer) : p.putAll [] = p := rfl

theorem putAll_cons (p : Printer) (l : Line) (ls : List Line) :
    p.putAll (l :: ls) = (p.put l).putAll ls := rfl

theorem putAll_append (p : Printer) (ls ls' : List Line) :
    p.putAll (ls ++ ls') = (p.putAll ls).putAll ls' := List.foldl_append

theorem putAll_of_ne {p : Printer} (h : p.output ≠ "") (ls : List Line) :
    p.putAll ls = { p with
      output := p.output ++ Line.renderAll p.indent p.level ls
      atBlockStart := p.atBlockStart && ls.isEmpty } := by
  induction ls generalizing p with
  | nil => simp only [putAll_nil, Line.renderAll_nil, String.append_empty, List.isEmpty_nil, Bool.and_true]
  | cons l ls ih =>
    have hne : p.output ++ "\n" ++ l.render p.indent p.level ≠ "" := by
      simp [String.append_eq_empty_iff, h]
    rw [putAll_cons, put_of_ne h, ih hne]
    simp only [Line.renderAll_cons, String.append_assoc, List.isEmpty_cons, Bool.and_false,
      Bool.false_and]

theorem print_put {p : Printer} {depth : ℕ} {text : String} (h : text ≠ "") (more : String) :
    (p.put ⟨depth, text⟩).print more = p.put ⟨depth, text ++ more⟩ := by
  have hmore : text ++ more ≠ "" := by simp [String.append_eq_empty_iff, h]
  simp only [put, print, Line.render, h, hmore, ↓reduceIte, String.append_assoc]

theorem put_output_ne_of_text (p : Printer) {l : Line} (h : l.text ≠ "") :
    (p.put l).output ≠ "" := by
  simp [put, print, Line.render, h, String.append_eq_empty_iff]

theorem putAll_output_ne {p : Printer} (h : p.output ≠ "") (ls : List Line) :
    (p.putAll ls).output ≠ "" := by
  simp [putAll_of_ne h, String.append_eq_empty_iff, h]

theorem newline_eq_put_blank (p : Printer) : p.newline = p.put .blank := by
  by_cases h : p.output = ""
  · simp only [newline_of_empty h, put_of_empty h, Line.render, Line.blank, ↓reduceIte, ← h]
  · simp only [newline_of_ne h, put_of_ne h, Line.render, Line.blank, ↓reduceIte,
      String.append_empty]

@[simp] theorem put_indent (p : Printer) (l : Line) : (p.put l).indent = p.indent := by
  by_cases h : p.output = ""
  · rw [put_of_empty h]
  · rw [put_of_ne h]

@[simp] theorem put_level (p : Printer) (l : Line) : (p.put l).level = p.level := by
  by_cases h : p.output = ""
  · rw [put_of_empty h]
  · rw [put_of_ne h]

@[simp] theorem put_scopes (p : Printer) (l : Line) : (p.put l).scopes = p.scopes := by
  by_cases h : p.output = ""
  · rw [put_of_empty h]
  · rw [put_of_ne h]

@[simp] theorem putAll_indent (p : Printer) (ls : List Line) : (p.putAll ls).indent = p.indent := by
  induction ls generalizing p with
  | nil => rfl
  | cons l ls ih => rw [putAll_cons, ih, put_indent]

@[simp] theorem putAll_level (p : Printer) (ls : List Line) : (p.putAll ls).level = p.level := by
  induction ls generalizing p with
  | nil => rfl
  | cons l ls ih => rw [putAll_cons, ih, put_level]

@[simp] theorem putAll_scopes (p : Printer) (ls : List Line) : (p.putAll ls).scopes = p.scopes := by
  induction ls generalizing p with
  | nil => rfl
  | cons l ls ih => rw [putAll_cons, ih, put_scopes]

theorem put_push (p : Printer) (frame : Frame) (l : Line) :
    (p.push frame).put l = (p.put l).push frame := by
  by_cases h : p.output = ""
  · rw [put_of_empty h, put_of_empty (show (p.push frame).output = "" from h)]
    rfl
  · rw [put_of_ne h, put_of_ne (show (p.push frame).output ≠ "" from h)]
    rfl

theorem putAll_push (p : Printer) (frame : Frame) (ls : List Line) :
    (p.push frame).putAll ls = (p.putAll ls).push frame := by
  induction ls generalizing p with
  | nil => rfl
  | cons l ls ih => rw [putAll_cons, putAll_cons, put_push, ih]

theorem hasRoom_nil (p : Printer) : p.HasRoom [] := fun _ h => absurd h List.not_mem_nil

theorem hasRoom_cons (p : Printer) (l : Line) (ls : List Line) :
    p.HasRoom (l :: ls) ↔ (l.text ≠ "" → p.indent.Fits (p.level + l.depth)) ∧ p.HasRoom ls :=
  List.forall_mem_cons

theorem hasRoom_append (p : Printer) (ls ls' : List Line) :
    p.HasRoom (ls ++ ls') ↔ p.HasRoom ls ∧ p.HasRoom ls' := by
  simp only [HasRoom, List.forall_mem_append]

theorem hasRoom_congr {p q : Printer} (hi : p.indent = q.indent) (hl : p.level = q.level)
    (ls : List Line) : p.HasRoom ls ↔ q.HasRoom ls := by
  simp only [HasRoom, hi, hl]

theorem hasRoom_deeper {p q : Printer} (hi : q.indent = p.indent) (hl : q.level = p.level + 1)
    (ls : List Line) : p.HasRoom (ls.map Line.deeper) ↔ q.HasRoom ls := by
  simp only [HasRoom, List.forall_mem_map, Line.deeper, hi, hl, Nat.add_assoc, Nat.add_comm 1]

theorem put_brace {p : Printer} (h : p.output ≠ "") (ls : List Line) :
    ({ p.deepen.putAll ls with level := p.level }).put ⟨0, "\x7d"⟩ =
      p.putAll (ls.map Line.deeper ++ [⟨0, "\x7d"⟩]) := by
  have hdeepen : p.deepen.output ≠ "" := h
  rw [putAll_append, putAll_of_ne hdeepen, putAll_of_ne h, putAll_cons, putAll_nil,
    put_of_ne (by simp [String.append_eq_empty_iff, deepen, h]),
    put_of_ne (by simp [String.append_eq_empty_iff, h]), Line.renderAll_deeper]
  simp only [deepen]

end Printer

end RealmModels
