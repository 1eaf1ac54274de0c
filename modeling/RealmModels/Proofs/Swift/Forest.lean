import Mathlib
import RealmModels.Proofs.Model.Totality
import RealmModels.Proofs.Printer.Layout

/-!
Declarations around lines and further declarations. What the printer makes of them by way of its level
and its mark for the start of a block is what a recursion over them lays out.
-/

namespace RealmModels.Swift

open GraphQL Writing

structure Heading where
  keyword : String
  name : String
  modifiers : List String := []
  inherited : List String := []
  description : Option String := none

inductive Forest where
  | empty
  | line (text : String) (h : text ≠ "") (rest : Forest)
  | declaration (heading : Heading) (items rest : Forest)

namespace Heading

def frame (h : Heading) : Frame := { name := h.name, keyword := h.keyword }

def header (h : Heading) : Header :=
  { modifiers := h.modifiers, inherited := h.inherited, description := .ofText? h.description }

def title (h : Heading) : String :=
  Text.joinWith " " (h.modifiers.filter (· != "") ++ [h.keyword, h.name]) ++
    match h.inherited.filter (· != "") with
    | [] => ""
    | parts => ": " ++ Text.joinWith ", " parts

def comment (h : Heading) : List String :=
  match h.description with
  | none => []
  | some text => documentation text

end Heading

namespace Forest

def print : Forest → Writing Unit
  | empty => pure ()
  | line text _ rest => do
    Writing.line text
    rest.print
  | declaration heading items rest => do
    (Swift.declaration heading.frame heading.header).around items.print
    rest.print

/-- The lines of a forest at some depth, the first of them perhaps with nothing before it in its
block. -/
def layout (depth : ℕ) (isFirst : Bool) : Forest → List Line
  | empty => []
  | line text _ rest => ⟨depth, text⟩ :: rest.layout depth false
  | declaration heading items rest =>
    (if isFirst then [] else [⟨depth, ""⟩]) ++ heading.comment.map (Line.mk depth) ++
      ⟨depth, heading.title ++ " \x7b"⟩ ::
        (items.layout (depth + 1) true ++ ⟨depth, "\x7d"⟩ :: rest.layout depth false)

theorem layout_succ (depth : ℕ) (isFirst : Bool) (f : Forest) :
    f.layout (depth + 1) isFirst = (f.layout depth isFirst).map Line.deeper := by
  induction f generalizing depth isFirst with
  | empty => rfl
  | line text h rest ih => simp only [layout, ih, List.map_cons, Line.deeper]
  | declaration heading items rest ihitems ihrest =>
    have hcomment : heading.comment.map (Line.mk (depth + 1)) =
        (heading.comment.map (Line.mk depth)).map Line.deeper := by
      rw [List.map_map]
      rfl
    cases isFirst <;>
      simp only [layout, ihitems, ihrest, hcomment, List.map_append, List.map_cons, List.map_nil,
        Line.deeper, ↓reduceIte, Bool.false_eq_true]

end Forest

end RealmModels.Swift

namespace RealmModels

namespace Text

theorem joinWith_append (sep t : String) {ts : List String} (us : List String) (h : ts ≠ []) :
    joinWith sep (ts ++ t :: us) = joinWith sep ts ++ sep ++ joinWith sep (t :: us) := by
  induction ts with
  | nil => exact absurd rfl h
  | cons a ts ih =>
    cases ts with
    | nil => rfl
    | cons b ts =>
      have hrest := ih (List.cons_ne_nil b ts)
      rw [List.cons_append, List.cons_append, joinWith, ← List.cons_append, hrest, joinWith]
      simp only [String.append_assoc]

end Text

namespace Swift

open Writing

theorem joinParts_eq_empty_iff (sep : String) (parts : List String) :
    joinParts sep parts = "" ↔ parts.filter (· != "") = [] := by
  rw [joinParts]
  constructor
  · intro h
    by_contra hne
    obtain ⟨a, as, has⟩ := List.exists_cons_of_ne_nil hne
    have ha : a ≠ "" := by
      have hmem : a ∈ parts.filter (· != "") := has ▸ List.mem_cons_self
      simpa using (List.mem_filter.mp hmem).2
    rw [has] at h
    cases as with
    | nil => exact ha h
    | cons b bs =>
      rw [Text.joinWith, String.append_eq_empty_iff, String.append_eq_empty_iff] at h
      exact ha h.1.1
  · intro h
    rw [h]
    rfl

namespace Heading

theorem declarationHeader_eq (h : Heading) : declarationHeader h.frame h.header = h.title := by
  have hmodifiers : wrap "" (joinParts " " h.modifiers) " " ++ h.keyword ++ " " ++ h.name =
      Text.joinWith " " (h.modifiers.filter (· != "") ++ [h.keyword, h.name]) := by
    have htwo : Text.joinWith " " [h.keyword, h.name] = h.keyword ++ " " ++ h.name := rfl
    by_cases hnone : h.modifiers.filter (· != "") = []
    · rw [wrap, if_pos ((joinParts_eq_empty_iff _ _).mpr hnone), hnone, String.empty_append]
      rfl
    · rw [wrap, if_neg (mt (joinParts_eq_empty_iff _ _).mp hnone), Text.joinWith_append _ _ _ hnone,
        htwo, String.empty_append, joinParts]
      simp only [String.append_assoc]
  have hinherited : wrap ": " (joinParts ", " h.inherited) "" =
      match h.inherited.filter (· != "") with
      | [] => ""
      | parts => ": " ++ Text.joinWith ", " parts := by
    cases hparts : h.inherited.filter (· != "") with
    | nil => rw [wrap, if_pos ((joinParts_eq_empty_iff _ _).mpr hparts)]
    | cons a as =>
      have hne : joinParts ", " h.inherited ≠ "" := by
        rw [ne_eq, joinParts_eq_empty_iff, hparts]
        exact List.cons_ne_nil a as
      rw [wrap, if_neg hne, String.append_empty, joinParts, hparts]
  have hheader : declarationHeader h.frame h.header =
      wrap "" (joinParts " " h.modifiers) " " ++ h.keyword ++ " " ++ h.name ++
        wrap ": " (joinParts ", " h.inherited) "" := rfl
  rw [hheader, hmodifiers, hinherited, title]

theorem isSome_words (h : Heading) : h.header.description.words?.isSome = true := by
  rw [header]
  cases h.description <;> rfl

theorem docLines_eq (h : Heading) :
    docLines h.header.description = h.comment.map (Line.mk 0) := by
  rw [header, docLines, comment]
  cases h.description <;> rfl

end Heading

end Swift

namespace Printer

def isAtStart (p : Printer) : Bool := p.atBlockStart || p.output == ""

def Marked (p : Printer) : Prop := p.output = "" → p.atBlockStart = false

theorem marked_of_ne {p : Printer} (h : p.output ≠ "") : p.Marked := fun hempty => absurd hempty h

theorem atBlockStart_putAll {p : Printer} (h : p.atBlockStart = false) (ls : List Line) :
    (p.putAll ls).atBlockStart = false := by
  induction ls generalizing p with
  | nil => exact h
  | cons l ls ih =>
    apply ih
    by_cases hempty : p.output = ""
    · rwa [put_of_empty hempty]
    · rw [put_of_ne hempty]

theorem marked_putAll {p : Printer} (hp : p.Marked) (ls : List Line) (h : ∃ l ∈ ls, l.text ≠ "") :
    (p.putAll ls).Marked ∧ (p.putAll ls).isAtStart = false := by
  obtain ⟨l, hl, htext⟩ := h
  obtain ⟨before, behind, rfl⟩ := List.append_of_mem hl
  have hne : (p.putAll (before ++ l :: behind)).output ≠ "" := by
    rw [putAll_append, putAll_cons]
    exact putAll_output_ne (put_output_ne_of_text _ htext) _
  have hstart : (p.putAll (before ++ l :: behind)).atBlockStart = false := by
    by_cases hempty : p.output = ""
    · exact atBlockStart_putAll (hp hempty) _
    · simp [putAll_of_ne hempty]
  refine ⟨marked_of_ne hne, ?_⟩
  simp [isAtStart, hne, hstart]

theorem putAll_separator {p : Printer} (hp : p.Marked) (ls : List Line) :
    p.putAll (Writing.separator p ++ ls) =
      p.putAll ((if p.isAtStart then [] else [⟨0, ""⟩]) ++ ls) := by
  by_cases hempty : p.output = ""
  · have hblank : p.put .blank = p := by rw [← newline_eq_put_blank, newline_of_empty hempty]
    have hstart : p.isAtStart = true := by simp [isAtStart, hempty]
    rw [hstart, Writing.separator, hp hempty, putAll_append]
    simp only [Bool.false_eq_true, ↓reduceIte, List.nil_append, putAll_cons, putAll_nil, hblank]
  · have hstart : p.isAtStart = p.atBlockStart := by simp [isAtStart, hempty]
    rw [hstart]
    rfl

end Printer

namespace Swift.Forest

open Writing

variable {p : Printer} {n : Naming.Scope} {e : List Log.Event}

theorem lines_of_declaration (hp : p.Marked) (heading : Heading) (items rest : Forest) :
    (p.putAll (leadLines p heading.header ++
        bracedLines (declarationHeader heading.frame heading.header) (items.layout 0 true))).putAll
      (rest.layout 0 false) =
    p.putAll ((declaration heading items rest).layout 0 p.isAtStart) := by
  rw [← Printer.putAll_append, leadLines, List.append_assoc, List.append_assoc,
    Printer.putAll_separator hp, heading.declarationHeader_eq, heading.docLines_eq, layout,
    layout_succ, bracedLines]
  simp only [List.cons_append, List.append_assoc, List.nil_append]

theorem hasRoom_declaration (heading : Heading) (items rest : Forest) :
    p.HasRoom ((declaration heading items rest).layout 0 p.isAtStart) ↔
      p.HasRoom (docLines heading.header.description) ∧ p.indent.Fits p.level ∧
      (opened heading.frame heading.header p).HasRoom (items.layout 0 true) ∧
      p.HasRoom (rest.layout 0 false) := by
  have hseparator : p.HasRoom (if p.isAtStart then [] else [⟨0, ""⟩]) := by
    split <;> simp [Printer.HasRoom]
  have hbraces := hasRoom_bracedLines (opened_indent heading.frame heading.header p)
    (opened_level _ _ p) (declarationHeader_ne heading.frame heading.header) (items.layout 0 true)
  rw [heading.declarationHeader_eq] at hbraces
  have hlayout : (declaration heading items rest).layout 0 p.isAtStart =
      (if p.isAtStart then [] else [⟨0, ""⟩]) ++ (docLines heading.header.description ++
        (bracedLines heading.title (items.layout 0 true) ++ rest.layout 0 false)) := by
    rw [layout, layout_succ, heading.docLines_eq, bracedLines]
    simp only [List.cons_append, List.append_assoc, List.nil_append]
  rw [hlayout, Printer.hasRoom_append, Printer.hasRoom_append, Printer.hasRoom_append, hbraces]
  tauto

theorem gives_print (f : Forest) (hp : p.Marked) :
    Gives f.print ⟨p, n, e⟩ (p.HasRoom (f.layout 0 p.isAtStart)) ()
      ⟨p.putAll (f.layout 0 p.isAtStart), n, e⟩ := by
  induction f generalizing p with
  | empty => exact (gives_pure () _).congr (by simp [layout, Printer.hasRoom_nil])
  | line text h rest ih =>
    obtain ⟨hmarked, hstart⟩ := Printer.marked_putAll hp [⟨0, text⟩]
      ⟨_, List.mem_singleton_self _, h⟩
    have hrest := ih (p := p.putAll [⟨0, text⟩]) hmarked
    rw [hstart, Printer.hasRoom_congr (q := p) (p.putAll_indent _) (p.putAll_level _)] at hrest
    refine ((gives_line h).seq hrest).congr ?_
    simp [layout, Printer.hasRoom_cons, h]
  | declaration heading items rest ihitems ihrest =>
    have hitems := ihitems (p := opened heading.frame heading.header p)
      (Printer.marked_of_ne (opened_output_ne _ _ p))
    have hopened : (opened heading.frame heading.header p).isAtStart = true := rfl
    rw [hopened] at hitems
    have hblock := gives_declaration heading.frame heading.header hitems
    let lines := leadLines p heading.header ++
      bracedLines (declarationHeader heading.frame heading.header) (items.layout 0 true)
    obtain ⟨hmarked, hstart⟩ := Printer.marked_putAll hp lines
      ⟨_, List.mem_append_right _ List.mem_cons_self, by simp [String.append_eq_empty_iff]⟩
    have hrest := ihrest (p := p.putAll lines) hmarked
    rw [hstart, Printer.hasRoom_congr (q := p) (p.putAll_indent _) (p.putAll_level _),
      lines_of_declaration hp] at hrest
    refine (hblock.seq hrest).congr ?_
    rw [hasRoom_declaration]
    have hwords := heading.isSome_words
    tauto

theorem steady_print (f : Forest) : Steady f.print := by
  induction f with
  | empty => exact .pure ()
  | line text h rest ih => exact (Steady.line text).bind fun _ _ _ _ => ih
  | declaration heading items rest ihitems ihrest =>
    exact (Steady.declaration rfl heading.isSome_words ihitems).bind fun _ _ _ _ => ihrest

theorem head_layout (depth : ℕ) (f : Forest) : ∀ l ∈ (f.layout depth true).head?, l.text ≠ "" := by
  cases f with
  | empty => simp [layout]
  | line text h rest => simpa [layout] using h
  | declaration heading items rest =>
    have hcomment : ∀ text ∈ heading.comment, text ≠ "" := by
      rw [Heading.comment]
      split
      · exact List.forall_mem_nil _
      · exact documentation_ne _
    rw [layout, if_pos rfl, List.nil_append]
    cases hlines : heading.comment with
    | nil => simp [String.append_eq_empty_iff]
    | cons text texts =>
      have htext : text ≠ "" := hcomment text (hlines ▸ List.mem_cons_self)
      simpa using htext

end Swift.Forest

def Line.written (unit : String) (l : Line) : String :=
  if l.text = "" then "" else String.join (List.replicate l.depth unit) ++ l.text

theorem Line.render_eq_written {i : Indent} {l : Line} (h : l.text ≠ "" → i.Fits l.depth) :
    l.render i 0 = l.written i.unit := by
  rw [render, written]
  split
  · rfl
  · next htext => rw [Nat.zero_add, Indent.shown_eq_join (h htext)]

theorem Printer.output_putAll_fresh (i : Indent) {ls : List Line}
    (h : ∀ l ∈ ls.head?, l.text ≠ "") : ((fresh i).putAll ls).output = Line.textOf i ls := by
  cases ls with
  | nil => rfl
  | cons l ls => rw [putAll_fresh i (h l rfl)]

namespace Swift

open Writing

theorem Forest.gives_print_fresh (settings : Settings) (room : Option ℕ) (f : Forest) :
    Gives f.print (settings.session room)
      (∀ l ∈ f.layout 0 true, l.text ≠ "" → (settings.indent room).Fits l.depth) ()
      ⟨(Printer.fresh (settings.indent room)).putAll (f.layout 0 true), .empty, []⟩ := by
  have hfresh : (Printer.fresh (settings.indent room)).Marked := fun _ => rfl
  refine (f.gives_print hfresh).congr ?_
  simp only [Printer.HasRoom, Printer.fresh, Nat.zero_add]
  rfl

/-- A generator that has printed nothing prints a forest as it is laid out, just if there can be white
space in front of its lines; nothing else stops it. -/
theorem forest_layout (settings : Settings) (room : Option ℕ) (f : Forest) :
    ((∃ t, f.print (settings.session room) = .ok () t) ↔
      ∀ l ∈ f.layout 0 true, l.text ≠ "" → (settings.indent room).Fits l.depth) ∧
    (∀ t, f.print (settings.session room) = .ok () t →
      t.printer.output =
        Text.unlines ((f.layout 0 true).map (Line.written settings.indent.unit))) ∧
    (settings.indent room ≠ .unusable →
      ∀ e t, f.print (settings.session room) = .error e t → e.isNoRoom = true) := by
  have hgives := f.gives_print_fresh settings room
  refine ⟨⟨?_, ?_⟩, ?_, ?_⟩
  · rintro ⟨t, hrun⟩
    exact ((hgives () t).mp hrun).1
  · intro hfits
    exact ⟨_, hgives.ok hfits⟩
  · intro t hrun
    obtain ⟨hfits, -, rfl⟩ := (hgives () t).mp hrun
    rw [Printer.output_putAll_fresh _ (f.head_layout 0), Line.textOf, ← settings.unit_indent room,
      List.map_congr_left fun l hl => Line.render_eq_written (hfits l hl)]
  · intro hindent e t hrun
    exact (f.steady_print.stops _ e t ⟨hindent, rfl⟩ hrun).2

def nestedForest : Forest :=
  .declaration { keyword := "enum", name := "API", modifiers := ["public"] }
    (.declaration
      { keyword := "class", name := "Pebble", inherited := ["", "Object", "Codable"],
        description := some " A stone\n\nfrom a brook" }
      (.line "let mass = RealmOptional<Int>()" (by decide) .empty)
      (.declaration { keyword := "class", name := "Brook" } .empty .empty))
    .empty

example : (nestedForest.layout 0 true).map (Line.written "  ") =
    ["public enum API \x7b", "  /// A stone", "  /// from a brook",
      "  class Pebble: Object, Codable \x7b", "    let mass = RealmOptional<Int>()", "  \x7d", "",
      "  class Brook \x7b", "  \x7d", "\x7d"] := by decide

theorem countless_forest_fails :
    ∃ t, nestedForest.print Model.countless.session = .error (.printer .indentBeyondCount) t :=
  ⟨_, rfl⟩

end Swift

end RealmModels
