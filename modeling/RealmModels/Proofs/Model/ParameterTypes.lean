import Mathlib
import RealmModels.Proofs.Model.Memberwise

namespace RealmModels.Model

open GraphQL Swift Writing

/-- A property that holds this is filled from values of the type, a mark behind it left out. -/
def Holding.Takes (held : Holding) (type : String) : Prop :=
  match held with
  | list item => unmarked type = "[" ++ item ++ "]"
  | box taken | value taken => unmarked type = taken

instance (held : Holding) (type : String) : Decidable (held.Takes type) := by
  cases held <;> exact inferInstanceAs (Decidable (_ = _))

theorem takes_heldAs_iff {t : TypeRef} {root type : String}
    (h : unmarked type = bracketed t.listDepth root) :
    (heldAs t.classified root).Takes type ↔ t.listDepth ≤ 1 := by
  have hlist : t.classified.isList = decide (t.listDepth ≠ 0) := t.hasList_eq
  rw [heldAs, hlist]
  cases hdepth : t.listDepth with
  | zero =>
    rw [hdepth] at h
    have hvalue : unmarked type = root := h
    cases isBoxed t.classified <;> simp [Holding.Takes, hvalue]
  | succ k =>
    -- the property has one list for all `k + 1`, so that `k` pairs of brackets are left over
    rw [hdepth] at h
    have hdepths : bracketed k root = root ↔ k = 0 := by
      constructor
      · exact bracketed_injective
      · rintro rfl
        rfl
    simp [Holding.Takes, h, bracketed, hdepths]

/-- The type of each parameter fits what the property that is declared for its field holds, unless the
field is of lists of lists. -/
theorem parameter_type_fits_iff {style : Style} (hon : style.initializers = true) (name : String)
    {fs : List Field} (hnames : ∀ f ∈ fs, isName f.type.leaf.name = true) (s : Session) :
    (ClassFits style s.printer fs → ∃ t, declareClass style name (some fs) s = .ok () t) ∧
    ∀ t, declareClass style name (some fs) s = .ok () t →
      ∃ (names : List String) (members : List (Parameter × String)),
        PrintsMembers style name fs s t names members ∧
        List.Forall₂ (fun d m => m.1.label = d.1.2 ∧ ∃ held, holding? d.1.2 d.2 = some held ∧
            (held.Takes m.1.type ↔ d.1.1.type.listDepth ≤ 1))
          (declaredLines style (fs.zip names)) members := by
  refine ⟨fun h => h.declareClass name, fun t hrun => ?_⟩
  refine ⟨_, _, printsMembers hon hrun, ?_⟩
  rw [zip_namedFields]
  apply forall₂_members fun x hx => isInName_namedFields hx
  intro x hx hstored
  have hroot := names_namedFields hrun hx
  have hname := hnames _ (mem_of_mem_namedFields hx)
  refine ⟨rfl, heldAs x.1.type.classified (style.typeNaming.rootName x.1.type), ?_, ?_⟩
  · exact holding?_declarationFor hroot hstored
  · apply takes_heldAs_iff
    exact (TypeNaming.mark_fullName hroot hname).2

def grid : List Field :=
  [⟨"rows", .list (.named ⟨"Int", .scalar⟩), [], .absent, .absent⟩,
    ⟨"cells", .list (.list (.named ⟨"Int", .scalar⟩)), [], .absent, .absent⟩]

theorem classFits_grid : ClassFits { initializers := true } Settings.default.session.printer grid :=
  ⟨by decide, by decide, rfl⟩

theorem grid_parameter_types :
    ∃ (t : Session) (names : List String) (members : List (Parameter × String)),
      declareClass { initializers := true } "Grid" (some grid) Settings.default.session = .ok () t ∧
      PrintsMembers { initializers := true } "Grid" grid Settings.default.session t names members ∧
      members.length = 2 ∧
      List.Forall₂ (fun d m => m.1.label = d.1.2 ∧ ∃ held, holding? d.1.2 d.2 = some held ∧
          (held.Takes m.1.type ↔ d.1.1.type.listDepth ≤ 1))
        (declaredLines { initializers := true } (grid.zip names)) members := by
  let style : Style := { initializers := true }
  have hon : style.initializers = true := rfl
  have hnames : ∀ f ∈ grid, isName f.type.leaf.name = true := by decide
  obtain ⟨hwritten, hmembers⟩ := parameter_type_fits_iff hon "Grid" hnames Settings.default.session
  obtain ⟨t, hrun⟩ := hwritten classFits_grid
  obtain ⟨names, members, hprints, htypes⟩ := hmembers t hrun
  have hdeclared : (declaredLines style (namedFields grid)).length = 2 := by decide
  refine ⟨t, names, members, hrun, hprints, ?_, htypes⟩
  rw [← htypes.length_eq, zip_of_answers hprints.named, hdeclared]

theorem grid_cells_misfit :
    ∃ (t : Session) (ls : List Line),
      declareClass { initializers := true } "Grid" (some grid) Settings.default.session = .ok () t ∧
      t.printer = Settings.default.session.printer.putAll ls ∧
      (∃ l ∈ ls, holding? "cells" l.text = some (.list "Int")) ∧
      (∃ l ∈ ls, l.text = "public init(rows: [Int]? = nil, cells: [[Int]]? = nil) \x7b") ∧
      ¬ (Holding.list "Int").Takes "[[Int]]?" := by
  obtain ⟨t, hrun⟩ := classFits_grid.declareClass "Grid"
  obtain ⟨-, -, rfl⟩ := (gives_declareClass _ _ _ () t).mp hrun
  refine ⟨_, classLines { initializers := true } "Grid" grid, hrun, rfl, ?_, ?_, ?_⟩
  · decide
  · decide
  · decide

end RealmModels.Model
