import RealmModels.Proofs.Json.Members
import RealmModels.Template.Standard

/-!
What adding templates does to an engine. Under each name it holds what was added last. An engine on a
folder turns to memory with the first template that is added, and finds nothing of its folder then.
-/

namespace RealmModels.Template

/-- What a text prints does not depend on the templates that it could use. -/
def Language.IsAlone (L : Language) (text : String) : Prop :=
  ∀ engine other name escapes context,
    L.printed ⟨engine, name, escapes⟩ text context = L.printed ⟨other, name, escapes⟩ text context

namespace Engine

variable {L : Language} {engine : Engine} {additions : List (String × String)} {name text : String}

def addAll (engine : Engine) (additions : List (String × String)) : Engine :=
  additions.foldl (fun e t => e.add t.1 t.2) engine

def kept : Engine → List (String × String)
  | memory templates => templates
  | folder _ _ => []

def renderAs (engine : Engine) (L : Language) (name text : String) (context : Json) :
    Except TemplateError String :=
  match L.check text with
  | .error _ => .error (.failed name)
  | .ok _ =>
    (L.render ⟨engine, some name, escapes name⟩ text context).mapError fun trouble =>
      match trouble with
      | .missing => .notFound name
      | .failed => .failed name

theorem add_eq (engine : Engine) (name text : String) :
    engine.add name text = memory (Json.put name text engine.kept) := by
  cases engine <;> rfl

theorem addAll_memory (templates additions : List (String × String)) :
    (memory templates).addAll additions = memory (Json.putAll templates additions) := by
  induction additions generalizing templates with
  | nil => rfl
  | cons t additions ih => exact ih (Json.put t.1 t.2 templates)

theorem addAll_of_ne_nil (engine : Engine) (h : additions ≠ []) :
    engine.addAll additions = memory (Json.putAll engine.kept additions) := by
  obtain ⟨t, additions, rfl⟩ := List.exists_cons_of_ne_nil h
  have hadd : engine.addAll (t :: additions) = (engine.add t.1 t.2).addAll additions := rfl
  rw [hadd, add_eq, addAll_memory]
  rfl

theorem find?_addAll (engine : Engine) (h : additions ≠ []) (name : String) :
    (engine.addAll additions).find? name =
      ((Json.last? name additions).or (Json.lookup name engine.kept)).map .text := by
  rw [addAll_of_ne_nil engine h, find?, Json.lookup_putAll]

theorem find?_addAll_of_last? (h : Json.last? name additions = some text) :
    (engine.addAll additions).find? name = some (.text text) := by
  have hne : additions ≠ [] := by
    rintro rfl
    cases h
  rw [find?_addAll engine hne, h]
  rfl

theorem find?_addAll_of_new (hne : additions ≠ []) (hname : name ∉ Json.keys additions)
    (hkept : name ∉ Json.keys engine.kept) : (engine.addAll additions).find? name = none := by
  rw [find?_addAll engine hne, Json.last?_eq_none_iff.mpr hname, Json.lookup_eq_none_iff.mpr hkept]
  rfl

theorem find?_addAll_of_kept (hname : name ∉ Json.keys additions)
    (hkept : name ∈ Json.keys engine.kept) :
    (engine.addAll additions).find? name = engine.find? name := by
  cases engine with
  | memory templates =>
    rw [addAll_memory, find?, Json.lookup_putAll, Json.last?_eq_none_iff.mpr hname, Option.none_or]
    rfl
  | folder d place => exact absurd hkept List.not_mem_nil

theorem find?_of_lookup_kept (h : Json.lookup name engine.kept = some text) :
    engine.find? name = some (.text text) := by
  cases engine with
  | memory templates => rw [find?, show Json.lookup name templates = some text from h]; rfl
  | folder d place => cases h

theorem template?_of_find? (h : engine.find? name = some (.text text)) :
    engine.template? L name = some ((L.check text).map fun _ => text) := by
  rw [template?, h]
  rfl

theorem contains_of_find? (h : engine.find? name = some (.text text)) :
    engine.contains L name = (L.check text).map fun _ => true := by
  rw [contains, template?_of_find? h]
  cases L.check text <;> rfl

theorem render_of_find? (h : engine.find? name = some (.text text)) (context : Json) :
    engine.render L name context = engine.renderAs L name text context := by
  rw [render, template?_of_find? h, renderAs]
  cases L.check text <;> rfl

theorem template?_eq_none_iff : engine.template? L name = none ↔ engine.find? name = none := by
  rw [template?, Option.map_eq_none_iff]

theorem contains_eq_false_iff : engine.contains L name = .ok false ↔ engine.find? name = none := by
  rw [← @template?_eq_none_iff L, contains]
  split <;> simp [*]

theorem render_of_find?_eq_none (h : engine.find? name = none) (context : Json) :
    engine.render L name context = .error (.notFound name) := by
  rw [render, template?_eq_none_iff.mpr h]

theorem contains_congr {other : Engine} (h : engine.find? name = other.find? name) :
    engine.contains L name = other.contains L name := by
  rw [contains, contains, template?, template?, h]

theorem renderAs_of_isAlone (h : L.IsAlone text) (engine other : Engine) (name : String)
    (context : Json) : engine.renderAs L name text context = other.renderAs L name text context := by
  rw [renderAs, renderAs, Language.render, Language.render, h engine other]

/-- What was added last under a name is found and rendered. A name that was never added is found as
before the first addition just if there was no such template or it was added even earlier; it is
rendered as before just if it was not found then, or if it was added earlier and uses no other. -/
theorem addAll_leaves_others_iff (L : Language) (engine : Engine) (additions : List (String × String))
    (name : String) :
    (∀ text, Json.last? name additions = some text →
      (engine.addAll additions).contains L name = (L.check text).map (fun _ => true) ∧
      ∀ context, (engine.addAll additions).render L name context =
        (engine.addAll additions).renderAs L name text context) ∧
    (name ∉ Json.keys additions →
      ((engine.addAll additions).contains L name = engine.contains L name ↔
        additions = [] ∨ engine.find? name = none ∨ name ∈ Json.keys engine.kept) ∧
      (name ∉ Json.keys engine.kept → ∀ context,
        (engine.addAll additions).render L name context = engine.render L name context ↔
          additions = [] ∨ engine.render L name context = .error (.notFound name)) ∧
      ∀ text, Json.lookup name engine.kept = some text →
        (engine.addAll additions).find? name = some (.text text) ∧
        (L.IsAlone text → ∀ context,
          (engine.addAll additions).render L name context = engine.render L name context)) := by
  refine ⟨fun text htext => ?_, fun hname => ⟨?_, fun hkept context => ?_, fun text htext => ?_⟩⟩
  · have hfound : (engine.addAll additions).find? name = some (.text text) :=
      find?_addAll_of_last? htext
    exact ⟨contains_of_find? hfound, render_of_find? hfound⟩
  · by_cases hne : additions = []
    · subst hne
      exact iff_of_true rfl (.inl rfl)
    · by_cases hkept : name ∈ Json.keys engine.kept
      · exact iff_of_true (contains_congr (find?_addAll_of_kept hname hkept)) (.inr (.inr hkept))
      · rw [contains_eq_false_iff.mpr (find?_addAll_of_new hne hname hkept), eq_comm,
          contains_eq_false_iff, or_iff_right hne, or_iff_left hkept]
  · by_cases hne : additions = []
    · subst hne
      exact iff_of_true rfl (.inl rfl)
    · rw [render_of_find?_eq_none (find?_addAll_of_new hne hname hkept), eq_comm, or_iff_right hne]
  · have hbefore := find?_of_lookup_kept htext
    have hafter : (engine.addAll additions).find? name = some (.text text) := by
      rw [find?_addAll_of_kept hname (List.mem_map_of_mem (Json.mem_of_lookup htext)), hbefore]
    refine ⟨hafter, fun halone context => ?_⟩
    rw [render_of_find? hbefore, render_of_find? hafter]
    exact renderAs_of_isAlone halone _ _ name context

def headers : Engine := folder ⟨[(["tpl", "header.j2"], .text "// Models")], []⟩ ⟨"", ["tpl"]⟩

theorem headers_find? : headers.find? "header.j2" = some (.text "// Models") := by
  have hnul : ("tpl/header.j2" : String).contains '\x00' = false := by simp
  have hplace : (Disk.mk [(["tpl", "header.j2"], .text "// Models")] []).locate
      ⟨"", ["tpl", "header.j2"]⟩ = .ok ["tpl", "header.j2"] := by
    rw [Disk.locate]
    change (if ("tpl/header.j2" : String).contains '\x00' = true then _ else _) = _
    rw [hnul]
    rfl
  change (Disk.content _ ⟨"", ["tpl", "header.j2"]⟩).toOption = _
  rw [Disk.content, hplace]
  rfl

theorem headers_render : headers.render standard "header.j2" (.obj []) = .ok "// Models" := by
  rw [render_of_find? headers_find?]
  rfl

theorem parse_comment : parse "// Models" = .ok [.text "// Models"] := by rfl

theorem printed_comment (σ : Setting) (context : Json) :
    standard.printed σ "// Models" context =
      if (Memory.start? context).isSome then .ok [.own "// Models"] else .error .failed := by
  rw [standard]
  simp only [parse_comment]
  rw [Named.printed]
  cases Memory.start? context with
  | none => rfl
  | some start =>
    -- the text of a node is printed without a use of other templates
    generalize σ.engine.library = library
    dsimp only
    generalize Rendering.run library maxDepth = enter
    rfl

theorem isAlone_comment : standard.IsAlone "// Models" := by
  intro engine other name escapes context
  rw [printed_comment, printed_comment]

def keptHeaders : Engine := memory [("header.j2", "// Models")]

theorem headers_changed :
    (headers.addAll [("footer.j2", "// End")]).contains standard "footer.j2" = .ok true ∧
    (headers.addAll [("footer.j2", "// End")]).contains standard "header.j2" ≠
      headers.contains standard "header.j2" ∧
    (headers.addAll [("footer.j2", "// End")]).render standard "header.j2" (.obj []) ≠
      headers.render standard "header.j2" (.obj []) ∧
    (keptHeaders.addAll [("footer.j2", "// End")]).render standard "header.j2" (.obj []) =
      keptHeaders.render standard "header.j2" (.obj []) := by
  have hfooter := (addAll_leaves_others_iff standard headers [("footer.j2", "// End")] "footer.j2").1
  obtain ⟨hcontains, hrender, -⟩ :=
    (addAll_leaves_others_iff standard headers [("footer.j2", "// End")] "header.j2").2 (by decide)
  obtain ⟨-, -, hkept⟩ :=
    (addAll_leaves_others_iff standard keptHeaders [("footer.j2", "// End")] "header.j2").2 (by decide)
  refine ⟨(hfooter "// End" (by decide)).1, mt hcontains.mp ?_,
    mt (hrender (by decide) (.obj [])).mp ?_, (hkept "// Models" (by rfl)).2 isAlone_comment (.obj [])⟩
  · rw [headers_find?]
    decide
  · rw [headers_render]
    simp

/-- With the first template that is added the folder is lost. -/
theorem headers_lost :
    headers.contains standard "header.j2" = .ok true ∧
    headers.render standard "header.j2" (.obj []) = .ok "// Models" ∧
    (headers.add "footer.j2" "// End").contains standard "header.j2" = .ok false ∧
    (headers.add "footer.j2" "// End").render standard "header.j2" (.obj []) =
      .error (.notFound "header.j2") := by
  have hlost : (headers.add "footer.j2" "// End").find? "header.j2" = none := by rfl
  exact ⟨contains_of_find? headers_find?, headers_render, contains_eq_false_iff.mpr hlost,
    render_of_find?_eq_none hlost _⟩

end Engine

end RealmModels.Template
