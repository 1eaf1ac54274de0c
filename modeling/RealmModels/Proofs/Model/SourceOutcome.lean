import Mathlib
import RealmModels.Model.Source
import RealmModels.Proofs.GraphQL.Models
import RealmModels.Proofs.Model.ClassOutcome
import RealmModels.Proofs.Text.OneLine

namespace RealmModels

namespace Line

def textOf (i : Indent) (ls : List Line) : String := Text.unlines (ls.map (render i 0))

theorem textOf_cons (i : Indent) (l : Line) (ls : List Line) :
    textOf i (l :: ls) = l.render i 0 ++ renderAll i 0 ls := by
  rw [textOf, List.map_cons, Text.unlines_cons, List.map_map]
  rfl

theorem textOf_append (i : Indent) (l : Line) (ls ls' : List Line) :
    textOf i (l :: ls ++ ls') = textOf i (l :: ls) ++ renderAll i 0 ls' := by
  rw [List.cons_append, textOf_cons, textOf_cons, renderAll_append, String.append_assoc]

theorem renderAll_eq_unlines (i : Indent) (level : ℕ) {ls : List Line} (h : ls ≠ []) :
    renderAll i level ls = "\n" ++ Text.unlines (ls.map (render i level)) := by
  obtain ⟨l, ls, rfl⟩ := List.exists_cons_of_ne_nil h
  rw [renderAll_cons, List.map_cons, Text.unlines_cons, List.map_map, String.append_assoc]
  rfl

end Line

namespace Printer

def fresh (i : Indent) : Printer := { indent := i }

theorem putAll_fresh (i : Indent) {l : Line} (hl : l.text ≠ "") (ls : List Line) :
    (fresh i).putAll (l :: ls) = { indent := i, output := Line.textOf i (l :: ls) } := by
  have hempty : (fresh i).output = "" := rfl
  have hne : ((fresh i).put l).output ≠ "" := put_output_ne_of_text _ hl
  rw [putAll_cons, putAll_of_ne hne, put_of_empty hempty, Line.textOf_cons]
  rfl

end Printer

namespace Model

open GraphQL Swift Writing

variable {p : Printer} {n : Naming.Scope} {e : List Log.Event} {style : Style}

def headLines : List Line := headerLines.map (Line.mk 0)

def classesLines (style : Style) : Bool → List ObjectType → List Line
  | _, [] => []
  | isFirst, m :: ms =>
    (if isFirst then [] else [.blank]) ++ classLines style m.name m.fields ++
      classesLines style false ms

def namespaceHeader (frame : Frame) : Header :=
  { modifiers := ["public"], description := .text (frame.name ++ " namespace") }

def modelLines (style : Style) (ms : List ObjectType) : List Line :=
  match style.scope with
  | none => classesLines style false ms
  | some frame =>
    .blank :: docLines (namespaceHeader frame).description ++
      bracedLines (declarationHeader frame (namespaceHeader frame)) (classesLines style true ms)

def sourceLines (style : Style) (s : Schema) : List Line :=
  headLines ++ if s.models.isEmpty then [] else modelLines style s.models

def typeEvents (scopes : List Frame) (t : TypeDef) : List Log.Event :=
  match t.model? with
  | some m => classEvents scopes m.name m.fields
  | none => [.skipped t.name]

def sourceEvents (style : Style) (s : Schema) : List Log.Event :=
  if s.models.isEmpty then [] else s.types.flatMap (typeEvents style.scope.toList)

def namesAfter (n : Naming.Scope) (ts : List TypeDef) : Naming.Scope :=
  (ts.filterMap TypeDef.model?).foldl (fun _ m => (nameFields m.fields .empty).2) n

theorem gives_header : Gives header ⟨p, n, e⟩ (p.HasRoom headLines) () ⟨p.putAll headLines, n, e⟩ := by
  have heach := gives_printEach (p := p) (n := n) (e := e)
    (f := fun l => if l = "" then newline else line l) (k := fun l => [⟨0, l⟩]) headerLines
    fun l _ q => by
      by_cases hl : l = ""
      · subst hl
        exact gives_newline.congr (by simp [Printer.HasRoom])
      · rw [if_neg hl]
        exact (gives_line hl).congr (by simp [Printer.HasRoom, hl])
  rwa [← List.map_eq_flatMap] at heach

theorem hasRoom_separator : p.HasRoom (separator p) := by
  rw [separator]
  split <;> simp [Printer.HasRoom, Line.blank]

theorem classLines_ne_nil (name : String) (fs : List Field) : classLines style name fs ≠ [] :=
  List.cons_ne_nil _ _

theorem classesLines_cons (p : Printer) (m : ObjectType) (ms : List ObjectType) :
    classesLines style p.atBlockStart (m :: ms) =
      (separator p ++ classLines style m.name m.fields) ++ classesLines style false ms := rfl

theorem atBlockStart_class (hp : p.output ≠ "") (name : String) (fs : List Field) :
    (p.putAll (separator p ++ classLines style name fs)).atBlockStart = false := by
  rw [Printer.putAll_of_ne hp]
  simp [classLines_ne_nil]

theorem gives_types (style : Style) (hp : p.output ≠ "") (ts : List TypeDef) :
    Gives (ts.forM (declareIfModel style)) ⟨p, n, e⟩
      (p.HasRoom (classesLines style p.atBlockStart (ts.filterMap TypeDef.model?)) ∧
        ∀ m ∈ ts.filterMap TypeDef.model?, CanDeclare style p.scopes (namedFields m.fields)) ()
      ⟨p.putAll (classesLines style p.atBlockStart (ts.filterMap TypeDef.model?)), namesAfter n ts,
        e ++ ts.flatMap (typeEvents p.scopes)⟩ := by
  -- the printer may be at the start of its block only before the first class
  induction ts generalizing p n e with
  | nil =>
    rw [List.flatMap_nil, List.append_nil]
    exact (gives_pure () _).congr (by simp [classesLines, Printer.hasRoom_nil])
  | cons t ts ih =>
    rw [List.flatMap_cons, ← List.append_assoc, List.filterMap_cons]
    cases ht : t.model? with
    | none =>
      have hskip : Gives (declareIfModel style t) ⟨p, n, e⟩ True ()
          ⟨p, n, e ++ typeEvents p.scopes t⟩ := by
        rw [declareIfModel, typeEvents, ht]
        exact gives_report _ _
      have hnames : namesAfter n (t :: ts) = namesAfter n ts := by
        rw [namesAfter, List.filterMap_cons, ht, namesAfter]
      rw [hnames]
      exact hskip.then (ih hp)
    | some m =>
      have hclass : Gives (declareIfModel style t) ⟨p, n, e⟩
          (p.HasRoom (classLines style m.name m.fields) ∧
            CanDeclare style p.scopes (namedFields m.fields)) ()
          ⟨p.putAll (separator p ++ classLines style m.name m.fields), (nameFields m.fields .empty).2,
            e ++ typeEvents p.scopes t⟩ := by
        rw [declareIfModel, typeEvents, ht]
        exact gives_declareClass style m.name m.fields
      have hnames : namesAfter n (t :: ts) = namesAfter (nameFields m.fields .empty).2 ts := by
        rw [namesAfter, List.filterMap_cons, ht, namesAfter, List.foldl_cons]
      have hrest := ih (p := p.putAll (separator p ++ classLines style m.name m.fields))
        (n := (nameFields m.fields .empty).2) (e := e ++ typeEvents p.scopes t)
        (Printer.putAll_output_ne hp _)
      rw [atBlockStart_class hp, Printer.putAll_scopes,
        Printer.hasRoom_congr (q := p) (p.putAll_indent _) (p.putAll_level _)] at hrest
      rw [hnames, classesLines_cons, Printer.putAll_append, Printer.hasRoom_append,
        Printer.hasRoom_append]
      refine (hclass.seq hrest).congr ?_
      have hseparator : p.HasRoom (separator p) := hasRoom_separator
      rw [List.forall_mem_cons]
      tauto

theorem gives_models (style : Style) (s : Schema) (hp : p.output ≠ "") (hstart : p.atBlockStart = false)
    (hscopes : p.scopes = []) :
    Gives (α := Unit) ((namespaceBlock style.scope).around (s.types.forM (declareIfModel style)))
      ⟨p, n, e⟩
      (p.HasRoom (modelLines style s.models) ∧
        ∀ m ∈ s.models, CanDeclare style style.scope.toList (namedFields m.fields)) ()
      ⟨p.putAll (modelLines style s.models), namesAfter n s.types,
        e ++ s.types.flatMap (typeEvents style.scope.toList)⟩ := by
  cases hscope : style.scope with
  | none =>
    have htypes := gives_types (n := n) (e := e) style hp s.types
    rw [hstart, hscopes] at htypes
    have hlines : modelLines style s.models = classesLines style false s.models := by
      rw [modelLines, hscope]
    rw [hlines]
    exact (Gives.around (gives_pure () _) htypes (gives_pure () _)).congr (by simp [Schema.models])
  | some frame =>
    have htypes := gives_types (n := n) (e := e) style
      (opened_output_ne frame (namespaceHeader frame) p) s.types
    have hopened : (opened frame (namespaceHeader frame) p).atBlockStart = true := rfl
    rw [hopened, opened_scopes, hscopes] at htypes
    have hlines : modelLines style s.models = leadLines p (namespaceHeader frame) ++
        bracedLines (declarationHeader frame (namespaceHeader frame))
          (classesLines style true s.models) := by
      rw [modelLines, hscope, leadLines, separator, hstart]
      rfl
    have hblock : namespaceBlock (some frame) = declaration frame (namespaceHeader frame) := rfl
    have hwords : (namespaceHeader frame).description.words?.isSome = true := rfl
    have hseparator : p.HasRoom (separator p) := hasRoom_separator
    rw [hlines, hblock]
    refine (gives_declaration frame _ htypes).congr ?_
    rw [leadLines, Printer.hasRoom_append, Printer.hasRoom_append,
      hasRoom_bracedLines (opened_indent _ _ p) (opened_level _ _ p) (declarationHeader_ne _ _)]
    change _ ∧ _ ∧ _ ∧ (opened frame (namespaceHeader frame) p).HasRoom
      (classesLines style true s.models) ∧
      (∀ m ∈ s.models, CanDeclare style [frame] (namedFields m.fields)) ↔ _
    tauto

theorem gives_reset : Gives (onPrinter Printer.reset) ⟨p, n, e⟩ True () ⟨.fresh p.indent, n, e⟩ :=
  gives_onPrinter _ _

theorem gives_printed :
    Gives (do return (← get).printer.output) ⟨p, n, e⟩ True p.output ⟨p, n, e⟩ := gives_of_ok rfl

theorem putAll_headLines (i : Indent) :
    (Printer.fresh i).putAll headLines = { indent := i, output := Line.textOf i headLines } :=
  Printer.putAll_fresh i (by decide) _

theorem output_headLines_ne (i : Indent) : ((Printer.fresh i).putAll headLines).output ≠ "" := by
  have hlines : headLines = ⟨0, notice⟩ :: headLines.tail := rfl
  rw [hlines, Printer.putAll_cons]
  exact Printer.putAll_output_ne (Printer.put_output_ne_of_text _ (by decide)) _

theorem putAll_sourceLines (i : Indent) (s : Schema) :
    (Printer.fresh i).putAll (sourceLines style s) =
      { indent := i, output := Line.textOf i (sourceLines style s) } :=
  Printer.putAll_fresh i (l := ⟨0, notice⟩) (by decide) _

theorem gives_source (s : Schema) :
    Gives (source style s) ⟨p, n, e⟩
      ((Printer.fresh p.indent).HasRoom (sourceLines style s) ∧
        ∀ m ∈ s.models, CanDeclare style style.scope.toList (namedFields m.fields))
      (Line.textOf p.indent (sourceLines style s))
      ⟨(Printer.fresh p.indent).putAll (sourceLines style s), namesAfter n s.types,
        e ++ sourceEvents style s⟩ := by
  have hhead := putAll_headLines p.indent
  have hheader := gives_header (p := .fresh p.indent) (n := n) (e := e)
  have htext : ((Printer.fresh p.indent).putAll (sourceLines style s)).output =
      Line.textOf p.indent (sourceLines style s) := by rw [putAll_sourceLines]
  have hne := output_headLines_ne p.indent
  have hmodels := gives_models (n := n) (e := e) style s hne (by rw [hhead])
    (by rw [hhead])
  rw [Printer.hasRoom_congr (q := .fresh p.indent) (Printer.putAll_indent _ _)
    (Printer.putAll_level _ _)] at hmodels
  rw [← htext, sourceLines, sourceEvents, Printer.putAll_append, Printer.hasRoom_append, source]
  generalize (Printer.fresh p.indent).putAll headLines = q at hheader hmodels ⊢
  cases hs : s.models with
  | nil =>
    have hnames : namesAfter n s.types = n := by
      rw [namesAfter, show s.types.filterMap TypeDef.model? = [] from hs, List.foldl_nil]
    simp only [List.isEmpty_nil, ↓reduceIte, Printer.putAll_nil, List.append_nil, hnames]
    refine (gives_reset.then (hheader.seq gives_printed)).congr ?_
    simp [Printer.hasRoom_nil]
  | cons m ms =>
    rw [hs] at hmodels
    simp only [List.isEmpty_cons, Bool.false_eq_true, ↓reduceIte]
    refine (gives_reset.then (hheader.seq (hmodels.seq gives_printed))).congr ?_
    rw [and_true, and_assoc]

theorem declareType_of_model (style : Style) {t : TypeDef} {m : ObjectType} (h : t.model? = some m) :
    declareType style t = declareClass style m.name (some m.fields) := by
  obtain ⟨hname, hfields⟩ := TypeDef.fields?_of_model? h
  rw [declareType, hname, hfields]

theorem gives_singleType {t : TypeDef} {m : ObjectType} (ht : t.model? = some m) :
    Gives (singleType style t) ⟨p, n, e⟩
      ((Printer.fresh p.indent).HasRoom (classLines style m.name m.fields) ∧
        CanDeclare style [] (namedFields m.fields))
      (Line.textOf p.indent (classLines style m.name m.fields))
      ⟨(Printer.fresh p.indent).putAll (classLines style m.name m.fields),
        (nameFields m.fields .empty).2, e ++ classEvents [] m.name m.fields⟩ := by
  have hdeclare := declareType_of_model style ht
  have hclass := gives_declareClass (p := .fresh p.indent) (n := n) (e := e) style m.name m.fields
  have hlines : (Printer.fresh p.indent).putAll
      (separator (.fresh p.indent) ++ classLines style m.name m.fields) =
      (Printer.fresh p.indent).putAll (classLines style m.name m.fields) := by
    rw [Printer.putAll_append]
    rfl
  have htext : ((Printer.fresh p.indent).putAll (classLines style m.name m.fields)).output =
      Line.textOf p.indent (classLines style m.name m.fields) := by
    rw [classLines, bracedLines, Printer.putAll_fresh _ (append_ne (classHeader_ne _))]
  rw [hlines] at hclass
  rw [← htext, singleType, hdeclare]
  exact (gives_reset.then (hclass.seq gives_printed)).congr (and_true _).to_iff

end Model

end RealmModels
