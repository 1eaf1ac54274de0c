import Mathlib
import RealmModels.Proofs.Template.Engine

/-!
A text that is rendered without a name is escaped, and under most names it is not. Where both print the
same segments the results agree just if no value among them has a character to be escaped.
-/

namespace RealmModels.Template

section

variable {c : Char} {cs : List Char}

def referenced : List Char := ['&', '<', '>', '"', '\'']

theorem escapedChar_of_not_mem (h : c ∉ referenced) : escapedChar c = [c] := by
  unfold escapedChar
  split
  case h_6 => rfl
  all_goals exact absurd (by decide) h

theorem one_lt_length_escapedChar (h : c ∈ referenced) : 1 < (escapedChar c).length := by
  simp only [referenced, List.mem_cons, List.not_mem_nil, or_false] at h
  rcases h with rfl | rfl | rfl | rfl | rfl <;> decide

theorem one_le_length_escapedChar (c : Char) : 1 ≤ (escapedChar c).length := by
  by_cases h : c ∈ referenced
  · exact (one_lt_length_escapedChar h).le
  · rw [escapedChar_of_not_mem h, List.length_singleton]

theorem length_le_length_escaped (cs : List Char) : cs.length ≤ (cs.flatMap escapedChar).length := by
  induction cs with
  | nil => exact Nat.le_refl 0
  | cons c cs ih =>
    have hc := one_le_length_escapedChar c
    rw [List.flatMap_cons, List.length_append, List.length_cons]
    omega

theorem flatMap_escapedChar_eq_self_iff : cs.flatMap escapedChar = cs ↔ ∀ c ∈ cs, c ∉ referenced := by
  induction cs with
  | nil => simp
  | cons c cs ih =>
    rw [List.flatMap_cons, List.forall_mem_cons]
    by_cases h : c ∈ referenced
    · refine iff_of_false (fun heq => ?_) fun hcs => hcs.1 h
      have hlength := congrArg List.length heq
      have hc := one_lt_length_escapedChar h
      have hcs := length_le_length_escaped cs
      rw [List.length_append, List.length_cons] at hlength
      omega
    · rw [escapedChar_of_not_mem h, List.singleton_append, List.cons_inj_right, ih, and_iff_right h]

theorem escapedText_eq_self_iff (s : String) : escapedText s = s ↔ ∀ c ∈ s.toList, c ∉ referenced := by
  rw [← flatMap_escapedChar_eq_self_iff, ← String.toList_inj, escapedText, String.toList_ofList]

end

namespace Segment

def IsInert : Segment → Prop
  | own _ => True
  | value s isMarkup => isMarkup = true ∨ ∀ c ∈ s.toList, c ∉ referenced

variable {seg : Segment} {escapes : Bool} {printed : List Segment}

@[simp] theorem shownAll_cons (escapes : Bool) (seg : Segment) (printed : List Segment) :
    shownAll escapes (seg :: printed) = seg.shown escapes ++ shownAll escapes printed := String.join_cons

theorem shown_eq_iff (seg : Segment) : seg.shown true = seg.shown false ↔ seg.IsInert := by
  cases seg with
  | own s => exact iff_of_true rfl trivial
  | value s isMarkup =>
    cases isMarkup with
    | true => exact iff_of_true rfl (.inl rfl)
    | false => exact (escapedText_eq_self_iff s).trans (by simp [IsInert])

theorem length_shown_le (seg : Segment) :
    (seg.shown false).toList.length ≤ (seg.shown true).toList.length := by
  cases seg with
  | own s => exact Nat.le_refl _
  | value s isMarkup =>
    cases isMarkup with
    | true => exact Nat.le_refl _
    | false =>
      change s.toList.length ≤ (escapedText s).toList.length
      rw [escapedText, String.toList_ofList]
      exact length_le_length_escaped s.toList

theorem length_shownAll_le (printed : List Segment) :
    (shownAll false printed).toList.length ≤ (shownAll true printed).toList.length := by
  induction printed with
  | nil => exact Nat.le_refl _
  | cons seg printed ih =>
    have hseg := length_shown_le seg
    rw [shownAll_cons, shownAll_cons, String.toList_append, String.toList_append, List.length_append,
      List.length_append]
    omega

/-- Escaping never shortens a segment, so that segments that are longer escaped cannot make up for one
another. -/
theorem shownAll_eq_iff : shownAll true printed = shownAll false printed ↔ ∀ seg ∈ printed, seg.IsInert := by
  induction printed with
  | nil => exact iff_of_true rfl (List.forall_mem_nil _)
  | cons seg printed ih =>
    rw [List.forall_mem_cons, ← shown_eq_iff seg, ← ih, shownAll_cons, shownAll_cons]
    refine ⟨fun h => ?_, fun h => by rw [h.1, h.2]⟩
    have hlist := congrArg String.toList h
    rw [String.toList_append, String.toList_append] at hlist
    have hlength := congrArg List.length hlist
    rw [List.length_append, List.length_append] at hlength
    have hseg := length_shown_le seg
    have hrest := length_shownAll_le printed
    have hsegs := List.append_inj hlist (by omega)
    exact ⟨String.toList_inj.mp hsegs.1, String.toList_inj.mp hsegs.2⟩

end Segment

/-- What a text prints in a context depends neither on the name it has, nor on other templates, nor on
whether it is escaped. -/
def Language.IsSteady (L : Language) (text : String) (context : Json) : Prop :=
  ∀ σ τ : Setting, (L.printed σ text context).toOption = (L.printed τ text context).toOption

namespace Engine

variable {L : Language} {engine : Engine} {name text : String} {context : Json}

theorem toOption_mapError {ε ε' α : Type} (f : ε → ε') (r : Except ε α) :
    (r.mapError f).toOption = r.toOption := by
  cases r <;> rfl

theorem toOption_map {ε α β : Type} (f : α → β) (r : Except ε α) :
    (r.map f).toOption = r.toOption.map f := by
  cases r <;> rfl

theorem find?_add (engine : Engine) (name text : String) :
    (engine.add name text).find? name = some (.text text) := by
  have hlast : Json.last? name [(name, text)] = some text := by simp [Json.last?]
  change (engine.addAll [(name, text)]).find? name = _
  exact find?_addAll_of_last? hlast

theorem renderText_eq_map (h : L.check text = .ok ()) :
    (engine.renderText L text context).toOption =
      (L.printed ⟨engine, none, true⟩ text context).toOption.map (Segment.shownAll true) := by
  rw [renderText, h, toOption_mapError, Language.render, toOption_map]

theorem render_add_eq_map (h : L.check text = .ok ()) :
    ((engine.add name text).render L name context).toOption =
      (L.printed ⟨engine.add name text, some name, escapes name⟩ text context).toOption.map
        (Segment.shownAll (escapes name)) := by
  rw [render_of_find? (find?_add engine name text), renderAs, h]
  exact (toOption_mapError _ _).trans (toOption_map _ _)

/-- A text that is no template fails both ways. Any other shows without a name what it prints there,
escaped, and under a name what it prints under that name, escaped just if this is a name of markup. If
it prints the same in both places, both ways fail together; and they agree under a name that is none of
markup just if no value that is printed has a character that is written as a reference. -/
theorem renderText_agrees_iff (L : Language) (engine : Engine) (text name : String) (context : Json) :
    (∀ flaw, L.check text = .error flaw →
      engine.renderText L text context = .error .textFailed ∧
      (engine.add name text).render L name context = .error (.failed name)) ∧
    (L.check text = .ok () →
      (engine.renderText L text context).toOption =
        (L.printed ⟨engine, none, true⟩ text context).toOption.map (Segment.shownAll true) ∧
      ((engine.add name text).render L name context).toOption =
        (L.printed ⟨engine.add name text, some name, escapes name⟩ text context).toOption.map
          (Segment.shownAll (escapes name)) ∧
      (L.IsSteady text context →
        ((engine.renderText L text context).toOption =
            ((engine.add name text).render L name context).toOption ↔
          escapes name = true ∨
          ∀ printed, (L.printed ⟨engine, none, true⟩ text context).toOption = some printed →
            ∀ seg ∈ printed, seg.IsInert))) := by
  refine ⟨fun flaw hflaw => ?_, fun hcheck => ⟨renderText_eq_map hcheck, render_add_eq_map hcheck, ?_⟩⟩
  · rw [renderText, render_of_find? (find?_add engine name text), renderAs, hflaw]
    exact ⟨rfl, rfl⟩
  · intro hsteady
    rw [renderText_eq_map hcheck, render_add_eq_map hcheck,
      hsteady ⟨engine.add name text, some name, escapes name⟩ ⟨engine, none, true⟩]
    cases hprinted : (L.printed ⟨engine, none, true⟩ text context).toOption with
    | none => simp
    | some printed =>
      cases escapes name with
      | true => simp
      | false => simpa using Segment.shownAll_eq_iff

def typeTemplate : String := "\x7b\x7b type \x7d\x7d"

def listType : Json := .obj [("type", .str "List<Int>")]

def printedVariable? : List Node → Option String
  | [.print [.var name]] => some name
  | _ => none

theorem eq_of_printedVariable? {ns : List Node} {name : String} (h : printedVariable? ns = some name) :
    ns = [.print [.var name]] := by
  unfold printedVariable? at h
  split at h
  · rw [Option.some.inj h]
  · cases h

theorem parse_typeTemplate : parse typeTemplate = .ok [.print [.var "type"]] := by
  have hread : (parse typeTemplate).toOption.bind printedVariable? = some "type" := by decide +kernel
  cases hparse : parse typeTemplate with
  | error flaw =>
    rw [hparse] at hread
    cases hread
  | ok ns =>
    rw [hparse] at hread
    rw [eq_of_printedVariable? hread]

theorem check_typeTemplate : standard.check typeTemplate = .ok () := by
  rw [standard]
  simp only [parse_typeTemplate]
  rfl

theorem printed_typeTemplate (σ : Setting) :
    standard.printed σ typeTemplate listType = .ok [.value "List<Int>" false] := by
  have hstart : Memory.start? listType =
      some ⟨#[[], [("type", .text "List<Int>" false)]], [], none⟩ := by rfl
  rw [standard]
  simp only [parse_typeTemplate]
  rw [Named.printed, hstart]
  -- the variable is looked up without a use of other templates
  generalize σ.engine.library = library
  dsimp only
  generalize Rendering.run library maxDepth = enter
  rfl

theorem typeTemplate_differs :
    standard.IsSteady typeTemplate listType ∧
    ((memory []).renderText standard typeTemplate listType).toOption =
      (((memory []).add "type.html" typeTemplate).render standard "type.html" listType).toOption ∧
    ((memory []).renderText standard typeTemplate listType).toOption ≠
      (((memory []).add "type.j2" typeTemplate).render standard "type.j2" listType).toOption := by
  have hsteady : standard.IsSteady typeTemplate listType := fun σ τ => by
    rw [printed_typeTemplate σ, printed_typeTemplate τ]
  have hagree (name : String) := ((renderText_agrees_iff standard (memory []) typeTemplate name listType).2
    check_typeTemplate).2.2 hsteady
  refine ⟨hsteady, (hagree "type.html").mpr (.inl (by decide)), mt (hagree "type.j2").mp ?_⟩
  rintro (hescapes | hinert)
  · exact absurd hescapes (by decide)
  · have hprinted := congrArg Except.toOption (printed_typeTemplate ⟨memory [], none, true⟩)
    rcases hinert _ hprinted _ (List.mem_singleton_self _) with hmarkup | hplain
    · cases hmarkup
    · exact hplain '<' (by decide) (by decide)

theorem typeTemplate_texts :
    ((memory []).renderText standard typeTemplate listType).toOption = some "List&lt;Int&gt;" ∧
    (((memory []).add "type.j2" typeTemplate).render standard "type.j2" listType).toOption =
      some "List<Int>" := by
  decide +kernel

end Engine

end RealmModels.Template
