import Mathlib
import RealmModels.Proofs.Printer.Indent
import RealmModels.Proofs.Script.Extending
import RealmModels.Proofs.Text.LineEnds

/-!
Documentation comments in the lines of the code. A line of code may end in a line feed, a carriage
return or both, and a comment ends with its line.
-/

namespace RealmModels

def lineStart (before : String) : String := if before = "" then "" else before ++ "\n"

/-- Behind `before` these lines have been added and nothing else, whatever characters end lines. -/
def AddsLines (before after : String) (ls : List String) : Prop :=
  if ls = [] then after = before
  else ∃ text, after = lineStart before ++ text ∧
    Text.physicalLines text.toList = ls.map String.toList

theorem addsLines_nil {before after : String} : AddsLines before after [] ↔ after = before := by
  rw [AddsLines, if_pos rfl]

theorem addsLines_append {ls : List String} (hls : ls ≠ []) (before text : String) :
    AddsLines before (lineStart before ++ text) ls ↔
      Text.physicalLines text.toList = ls.map String.toList := by
  rw [AddsLines, if_neg hls]
  constructor
  · rintro ⟨text', htext, hlines⟩
    rw [String.append_right_inj] at htext
    rwa [htext]
  · exact fun hlines => ⟨text, rfl, hlines⟩

namespace Printer

theorem newline_output (p : Printer) : p.newline.output = lineStart p.output := by
  rw [newline, lineStart]
  split
  · assumption
  · rfl

theorem output_putAll (p : Printer) {ls : List Line} (hls : ls ≠ []) (h : ∀ l ∈ ls, l.text ≠ "") :
    (p.putAll ls).output =
      lineStart p.output ++ Text.unlines (ls.map (Line.render p.indent p.level)) := by
  obtain ⟨l, ls, rfl⟩ := List.exists_cons_of_ne_nil hls
  have hrest : Line.renderAll p.indent p.level ls =
      String.join ((ls.map (Line.render p.indent p.level)).map ("\n" ++ ·)) := by
    rw [Line.renderAll, List.map_map]
    rfl
  have hne : (p.put l).output ≠ "" := put_output_ne_of_text _ (h l List.mem_cons_self)
  have hput : (p.put l).output = lineStart p.output ++ l.render p.indent p.level := by
    rw [put, print, newline_output]
  rw [putAll_cons, putAll_of_ne hne, List.map_cons, Text.unlines_cons, ← hrest, put_indent, put_level,
    hput, String.append_assoc]

end Printer

namespace Swift

open GraphQL Writing Text

variable {s : Session} {description : String}

def noteLines (description : String) : List String :=
  (inkedLines (physicalLines description.toList)).map fun l => "/// " ++ String.ofList l

theorem documentation_eq (description : String) :
    documentation description =
      (inkedLines (cutAt '\n' description.toList)).map fun l => "/// " ++ String.ofList l := rfl

theorem noteLines_eq_nil_iff : noteLines description = [] ↔ documentation description = [] := by
  rw [noteLines, documentation_eq, List.map_eq_nil_iff, List.map_eq_nil_iff]
  constructor
  · intro hnil
    have hle := length_inkedLines_le description.toList
    rw [hnil] at hle
    exact List.length_eq_zero_iff.mp (Nat.le_zero.mp hle)
  · intro hnil
    rw [inkedLines_physicalLines_eq_flatMap, hnil]
    rfl

theorem gives_noted (description : String) (s : Session) :
    Gives (comment (.text description)) s
      (documentation description = [] ∨ s.printer.indent.Fits s.printer.level) ()
      { s with printer := s.printer.putAll ((documentation description).map (Line.mk 0)) } := by
  refine (gives_comment (p := s.printer) (n := s.names) (e := s.events) (.text description)).congr ?_
  have hwords : shownWords (.text description) = description := rfl
  rw [docLines, hwords]
  constructor
  · rintro ⟨-, hroom⟩
    by_cases hnil : documentation description = []
    · exact .inl hnil
    · obtain ⟨t, ts, hdoc⟩ := List.exists_cons_of_ne_nil hnil
      have ht : t ≠ "" := documentation_ne description t (by rw [hdoc]; exact List.mem_cons_self)
      rw [hdoc] at hroom
      exact .inr (hroom ⟨0, t⟩ List.mem_cons_self ht)
  · rintro (hnil | hfits)
    · exact ⟨rfl, by rw [hnil]; exact Printer.hasRoom_nil _⟩
    · refine ⟨rfl, fun l hl _ => ?_⟩
      obtain ⟨t, -, rfl⟩ := List.mem_map.mp hl
      exact hfits

theorem left_comment_of_not_fits (hdoc : documentation description ≠ [])
    (hfits : ¬ s.printer.indent.Fits s.printer.level) :
    (left (comment (.text description)) s).printer = s.printer.newline := by
  obtain ⟨t, ts, hts⟩ := List.exists_cons_of_ne_nil hdoc
  have ht : t ≠ "" := documentation_ne description t (by rw [hts]; exact List.mem_cons_self)
  obtain ⟨e, hline⟩ := line_of_not_fits ht hfits
  have hcomment : comment (.text description) s = (documentation description).forM line s := rfl
  rw [hts] at hcomment
  rw [left_of_error (hcomment.trans (bind_eq_error_iff.mpr (.inl hline)))]

def noted (white : String) (l : List Char) : String := white ++ "/// " ++ String.ofList l

theorem lacks_noted {c : Char} {white : String} (hwhite : Lacks c white) (hc : Lacks c "/// ")
    {l : List Char} (hl : c ∉ l) : Lacks c (noted white l) :=
  (hwhite.append hc).append (by rwa [Lacks, String.toList_ofList])

theorem countP_noted {white : String} (h : ∀ c ∈ white.toList, isInk c = false) (ls : List (List Char)) :
    (ls.map fun l => (noted white l).toList).flatten.countP isInk =
      3 * ls.length + ls.flatten.countP isInk := by
  have hwhite : white.toList.countP isInk = 0 := List.countP_eq_zero.mpr fun c hc => by simp [h c hc]
  have hslashes : "/// ".toList.countP isInk = 3 := by decide
  induction ls with
  | nil => rfl
  | cons l ls ih =>
    simp only [noted, List.map_cons, List.flatten_cons, List.countP_append, String.toList_append,
      String.toList_ofList, hwhite, hslashes, List.length_cons] at ih ⊢
    omega

section

variable {white : String} {cs : List Char} (hwhite : ∀ c ∈ white.toList, c = '\t' ∨ c = ' ')
  (hne : inkedLines (cutAt '\n' cs) ≠ [])

include hwhite hne

theorem cutAt_noted :
    cutAt '\n' (unlines ((inkedLines (cutAt '\n' cs)).map (noted white))).toList =
      (inkedLines (cutAt '\n' cs)).map fun l => (noted white l).toList := by
  have hbreak : Lacks '\n' white := fun hmem => absurd (hwhite _ hmem) (by decide)
  rw [cutAt_unlines (by simpa using hne), List.map_map]
  · rfl
  · intro line hline
    obtain ⟨l, hl, rfl⟩ := List.mem_map.mp hline
    obtain ⟨-, m, hm, rfl⟩ := exists_of_mem_inkedLines hl
    exact lacks_noted hbreak (by decide) fun hmem =>
      not_mem_of_mem_cutAt hm (mem_of_mem_stripEnds hmem)

theorem physicalLines_noted (h : ∀ l ∈ inkedLines (cutAt '\n' cs), '\r' ∉ l) :
    physicalLines (unlines ((inkedLines (cutAt '\n' cs)).map (noted white))).toList =
      (inkedLines (physicalLines cs)).map fun l => (noted white l).toList := by
  have hreturn : Lacks '\r' white := fun hmem => absurd (hwhite _ hmem) (by decide)
  have htext : Lacks '\r' (unlines ((inkedLines (cutAt '\n' cs)).map (noted white))) := by
    refine Lacks.joinWith (by decide) fun line hline => ?_
    obtain ⟨l, hl, rfl⟩ := List.mem_map.mp hline
    exact lacks_noted hreturn (by decide) (h l hl)
  rw [inkedLines_physicalLines_of_not_mem h, ← cutAt_noted hwhite hne, physicalLines,
    unifyLineEnds_of_not_mem htext]

theorem not_mem_of_physicalLines_noted
    (h : physicalLines (unlines ((inkedLines (cutAt '\n' cs)).map (noted white))).toList =
      (inkedLines (physicalLines cs)).map fun l => (noted white l).toList) :
    ∀ l ∈ inkedLines (cutAt '\n' cs), '\r' ∉ l := by
  intro l hl hreturn
  have hblank : ∀ c ∈ white.toList, isInk c = false := by
    intro c hc
    rcases hwhite c hc with rfl | rfl <;> rfl
  have hbreak : isBlank '\n' = true := rfl
  have hcount := congrArg (fun ls => ls.flatten.countP isInk) h
  simp only [countP_physicalLines] at hcount
  rw [← countP_cutAt hbreak, cutAt_noted hwhite hne, countP_noted hblank,
    countP_noted hblank, countP_inkedLines, countP_inkedLines, countP_physicalLines,
    countP_cutAt hbreak] at hcount
  have hlt := length_inkedLines_lt hl hreturn
  omega

end

theorem adds_putAll_iff (hne : noteLines description ≠ []) (p : Printer) :
    AddsLines p.output (p.putAll ((documentation description).map (Line.mk 0))).output
        ((noteLines description).map (p.indent.shown p.level ++ ·)) ↔
      ∀ l ∈ inkedLines (cutAt '\n' description.toList), '\r' ∉ l := by
  have hdoc : documentation description ≠ [] := mt noteLines_eq_nil_iff.mpr hne
  have hinked : inkedLines (cutAt '\n' description.toList) ≠ [] := mt List.map_eq_nil_iff.mpr hdoc
  have hshown : ((documentation description).map (Line.mk 0)).map (Line.render p.indent p.level) =
      (inkedLines (cutAt '\n' description.toList)).map (noted (p.indent.shown p.level)) := by
    rw [documentation_eq, List.map_map, List.map_map]
    apply List.map_congr_left
    intro l _
    simp [Line.render, noted, String.append_assoc]
  have htold : ((noteLines description).map (p.indent.shown p.level ++ ·)).map String.toList =
      (inkedLines (physicalLines description.toList)).map
        fun l => (noted (p.indent.shown p.level) l).toList := by
    rw [noteLines, List.map_map, List.map_map]
    apply List.map_congr_left
    intro l _
    simp [noted]
  rw [Printer.output_putAll p (by simpa using hdoc), hshown, addsLines_append (by simpa using hne), htold]
  · exact ⟨not_mem_of_physicalLines_noted (fun c hc => Indent.mem_shown hc) hinked,
      physicalLines_noted (fun c hc => Indent.mem_shown hc) hinked⟩
  · intro l hl
    obtain ⟨t, ht, rfl⟩ := List.mem_map.mp hl
    exact documentation_ne description t ht

theorem not_adds_newline (hne : noteLines description ≠ []) (p : Printer) :
    ¬ AddsLines p.output p.newline.output ((noteLines description).map (p.indent.shown p.level ++ ·)) := by
  have hstart : p.newline.output = lineStart p.output ++ "" := by
    rw [Printer.newline_output, String.append_empty]
  rw [hstart, addsLines_append (by simpa using hne)]
  obtain ⟨l, ls, hls⟩ := List.exists_cons_of_ne_nil hne
  have hl : l ≠ "" := by
    have hmem : l ∈ noteLines description := by
      rw [hls]
      exact List.mem_cons_self
    obtain ⟨cs, -, rfl⟩ := List.mem_map.mp hmem
    simp [String.append_eq_empty_iff]
  intro hlines
  rw [hls] at hlines
  have hfirst : [] = (p.indent.shown p.level ++ l).toList := (List.cons.inj hlines).1
  rw [String.toList_append] at hfirst
  exact hl (String.toList_eq_nil_iff.mp (List.append_eq_nil_iff.mp hfirst.symm).2)

/-- A comment leaves the level and the open declarations as they were, and it is printed if there is
room for its lines. What it adds are the lines of the note, each behind the white space of the level
and three slashes, unless a carriage return stands inside of a line: the characters behind it are then
no comment. -/
theorem comment_adds_iff (description : String) (s : Session) :
    s.printer.Keeps (left (comment (.text description)) s).printer ∧
    ((∃ t, comment (.text description) s = .ok () t) ↔
      noteLines description = [] ∨ s.printer.indent.Fits s.printer.level) ∧
    (AddsLines s.printer.output (left (comment (.text description)) s).printer.output
        ((noteLines description).map (s.printer.indent.shown s.printer.level ++ ·)) ↔
      (noteLines description = [] ∨ s.printer.indent.Fits s.printer.level) ∧
        ∀ l ∈ cutAt '\n' description.toList, '\r' ∉ trim l) := by
  have hgives := gives_noted description s
  refine ⟨(Extending.comment _ s).toKeeps, ?_, ?_⟩
  · rw [noteLines_eq_nil_iff, hgives.exists_ok_iff]
  · rw [← forall_mem_inkedLines]
    by_cases hnil : noteLines description = []
    · have hdoc := noteLines_eq_nil_iff.mp hnil
      have hinked : inkedLines (cutAt '\n' description.toList) = [] := List.map_eq_nil_iff.mp hdoc
      rw [left_of_ok (hgives.ok (.inl hdoc)), hdoc, hinked, hnil]
      simp [addsLines_nil, Printer.putAll_nil]
    · have hdoc := mt noteLines_eq_nil_iff.mpr hnil
      by_cases hfits : s.printer.indent.Fits s.printer.level
      · rw [left_of_ok (hgives.ok (.inr hfits)), adds_putAll_iff hnil]
        simp [hfits]
      · rw [left_comment_of_not_fits hdoc hfits]
        simp [hnil, hfits, not_adds_newline hnil]

example : noteLines " A stone\r\n \r\n from a brook\r" = ["/// A stone", "/// from a brook"] ∧
    documentation " A stone\r\n \r\n from a brook\r" = ["/// A stone", "/// from a brook"] := by decide

/-- What is behind a carriage return in a description stands in the code as a member of the class. -/
theorem return_ends_comment :
    let p : Printer := { indent := .spaces 2, output := "class User \x7b", level := 1 }
    let q := (left (comment (.text "The name\rvar leaked = 0")) { printer := p }).printer
    (physicalLines q.output.toList).map String.ofList =
        ["class User \x7b", "  /// The name", "var leaked = 0"] ∧
      noteLines "The name\rvar leaked = 0" = ["/// The name", "/// var leaked = 0"] ∧
      ¬ AddsLines p.output q.output (["/// The name", "/// var leaked = 0"].map ("  " ++ ·)) := by
  intro p q
  have hnote : noteLines "The name\rvar leaked = 0" = ["/// The name", "/// var leaked = 0"] := by decide
  have hdoc : documentation "The name\rvar leaked = 0" = ["/// The name\rvar leaked = 0"] := by decide
  have hfits : p.indent.Fits p.level := by decide
  have hq : q = p.putAll ((documentation "The name\rvar leaked = 0").map (Line.mk 0)) :=
    congrArg Session.printer (left_of_ok ((gives_noted _ _).ok (.inr hfits)))
  refine ⟨?_, hnote, ?_⟩
  · have htext : lineStart "class User \x7b" ++
        unlines [Line.render (.spaces 2) 1 ⟨0, "/// The name\rvar leaked = 0"⟩] =
          "class User \x7b\n  /// The name\rvar leaked = 0" := by decide
    have houtput : q.output = "class User \x7b\n  /// The name\rvar leaked = 0" := by
      rw [hq, hdoc]
      exact (Printer.output_putAll p (List.cons_ne_nil _ _) (by decide)).trans htext
    rw [houtput]
    decide
  · rw [← hnote, hq]
    exact mt (adds_putAll_iff (by rw [hnote]; exact List.cons_ne_nil _ _) p).mp (by decide)

end Swift

end RealmModels
