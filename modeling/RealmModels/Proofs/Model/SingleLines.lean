import Mathlib
import RealmModels.Proofs.Model.Inventory
import RealmModels.Proofs.Swift.FullName
import RealmModels.Proofs.Text.OneLine

namespace RealmModels.Model

open GraphQL Swift Writing
open Text (OneLine)

def AllOneLine (ls : List Line) : Prop := ∀ l ∈ ls, OneLine l.text

namespace AllOneLine

variable {ls ls' : List Line}

theorem append (h : AllOneLine ls) (h' : AllOneLine ls') : AllOneLine (ls ++ ls') :=
  List.forall_mem_append.mpr ⟨h, h'⟩

theorem blank (h : AllOneLine ls) : AllOneLine (.blank :: ls) :=
  List.forall_mem_cons.mpr ⟨by decide, h⟩

theorem block {header : String} (hheader : OneLine header) (h : AllOneLine ls) :
    AllOneLine (bracedLines header ls) :=
  forall_bracedLines (P := OneLine) (by decide) (hheader.append (by decide)) h

end AllOneLine

theorem oneLine_of_isName {name : String} (h : isName name = true) : OneLine name := by
  intro hmem
  exact absurd (isNameContinue_of_isName h _ hmem) (by decide)

theorem oneLine_namedFields {fs : List Field} {x : Field × String} (h : x ∈ namedFields fs) :
    OneLine x.2 := by
  have hspelled := (distinct_nameFields fs).spelled _ (mem_given_nameFields h)
  intro hmem
  have hunquoted : '\n' ∈ (unquoted x.2).toList := by
    rw [unquoted, String.toList_ofList]
    exact List.mem_filter.mpr ⟨hmem, by decide⟩
  exact absurd (hspelled _ hunquoted) (by decide)

theorem oneLine_rootName {n : TypeNaming} {t : TypeRef} (h : n.Names t)
    (hname : isName t.leaf.name = true) (hstarts : ∀ start ∈ n.customPrefix, OneLine start) :
    OneLine (n.rootName t) := by
  have htype : t.classified.typeName = t.leaf.name := rfl
  rcases TypeNaming.root_cases (TypeNaming.rootOf_eq h) with hbuiltin | ⟨start, hstart, hroot⟩
  · have hnames : ∀ type ∈ ["Bool", "Int", "Float", "String"], OneLine type := by decide
    exact hnames _ hbuiltin
  · rw [hroot, htype]
    apply OneLine.append _ (oneLine_of_isName hname)
    rcases hstart with rfl | hstart
    · decide
    · exact hstarts start hstart

theorem oneLine_bracketed {type : String} (h : OneLine type) (k : ℕ) : OneLine (bracketed k type) := by
  induction k with
  | zero => exact h
  | succ k ih => exact (OneLine.append (by decide) ih).append (by decide)

theorem oneLine_optionalMark {type : String} (h : OneLine type) (isOptional : Bool) :
    OneLine (optionalMark isOptional type) := by
  cases isOptional with
  | true => exact h.append (by decide)
  | false => exact h

theorem oneLine_literal (text : String) : OneLine (literal text) := by
  have hchar : ∀ c, '\n' ∉ escapedChar c := by
    intro c
    rw [escapedChar]
    split
    · decide
    · split
      · decide
      · next hc => simpa using Ne.symm hc
  have htext : OneLine (escapedText text) := by
    rw [OneLine, escapedText, String.toList_ofList, List.mem_flatMap]
    rintro ⟨c, -, hc⟩
    exact hchar c hc
  exact (OneLine.append (by decide) htext).append (by decide)

theorem oneLine_documentation {text l : String} (h : l ∈ documentation text) : OneLine l := by
  obtain ⟨cs, hcs, rfl⟩ := List.mem_map.mp h
  obtain ⟨piece, hpiece, rfl⟩ := List.mem_map.mp (List.mem_of_mem_filter hcs)
  apply OneLine.append (by decide)
  rw [OneLine, String.toList_ofList]
  intro hmem
  exact Text.not_mem_of_mem_cutAt hpiece (Text.mem_of_mem_stripEnds hmem)

theorem allOneLine_docLines (note : Note) : AllOneLine (docLines note) := by
  intro l hl
  obtain ⟨text, htext, rfl⟩ := List.mem_map.mp hl
  exact oneLine_documentation htext

theorem allOneLine_markLines (style : Style) (f : Field) : AllOneLine (markLines style f) := by
  apply AllOneLine.append (allOneLine_docLines _)
  rw [attributeLines]
  split
  · refine List.forall_mem_singleton.mpr ?_
    exact (OneLine.append (by decide) (oneLine_literal _)).append (by decide)
  · exact List.forall_mem_nil _

structure OneLineField (style : Style) (x : Field × String) : Prop where
  names : style.typeNaming.Names x.1.type
  name : OneLine x.2
  leaf : OneLine x.1.type.leaf.name
  root : OneLine (style.typeNaming.rootName x.1.type)

theorem oneLine_scalarLine {name scalar : String} (hname : OneLine name) (hscalar : OneLine scalar)
    (kind : ScalarKind) (isOptional : Bool) : OneLine (scalarLine kind isOptional name scalar) := by
  have hlet : OneLine ("let " ++ name) := OneLine.append (by decide) hname
  have hvar : OneLine ("dynamic var " ++ name) := OneLine.append (by decide) hname
  cases kind with
  | custom => exact OneLine.append (by decide) hscalar
  | boolean | int | float =>
    cases isOptional with
    | true => exact ((hlet.append (by decide)).append (by decide)).append (by decide)
    | false => exact hvar.append (by decide)
  | string | id => cases isOptional <;> exact hvar.append (by decide)

theorem oneLine_propertyLine? {c : Classified} {name type declared : String} (hname : OneLine name)
    (htype : OneLine type) (hscalar : OneLine c.typeName)
    (h : propertyLine? c name type = some declared) : OneLine declared := by
  have hvar : OneLine ("dynamic var " ++ name) := OneLine.append (by decide) hname
  rw [propertyLine?] at h
  split at h
  · obtain rfl := Option.some.inj h
    have hlet : OneLine ("let " ++ name) := OneLine.append (by decide) hname
    exact ((hlet.append (by decide)).append htype).append (by decide)
  · split at h
    · obtain rfl := Option.some.inj h
      exact ((hvar.append (by decide)).append htype).append (by decide)
    · obtain rfl := Option.some.inj h
      exact hvar.append (by decide)
    · obtain rfl := Option.some.inj h
      exact oneLine_scalarLine hname hscalar _ _
    · cases h

theorem allOneLine_keyLines {name : String} (h : OneLine name) : AllOneLine (keyLines name) := by
  have hname : OneLine (withoutBackticks name) := by
    apply h.of_subset
    intro c hc
    rw [withoutBackticks, String.toList_ofList] at hc
    exact Text.mem_of_mem_stripEnds hc
  refine AllOneLine.block (by decide) (List.forall_mem_singleton.mpr ?_)
  exact (OneLine.append (by decide) hname).append (by decide)

variable {style : Style} {x : Field × String}

theorem allOneLine_fieldLines (h : OneLineField style x) :
    AllOneLine (fieldLines style x.1 x.2) := by
  apply AllOneLine.append (allOneLine_markLines style x.1)
  rw [propertyLines]
  split
  · exact List.forall_mem_nil _
  · next declared hline =>
    refine List.forall_mem_cons.mpr ⟨?_, ?_⟩
    · exact oneLine_propertyLine? h.name h.root h.leaf hline
    · split
      · exact allOneLine_keyLines h.name
      · exact List.forall_mem_nil _

theorem oneLine_shownParameter (h : OneLineField style x) :
    OneLine (shownParameter style.typeNaming (propertyOf style x.1 x.2)) := by
  have htype : OneLine (style.typeNaming.fullName true x.1.type) := by
    rw [TypeNaming.fullName_eq h.names]
    exact oneLine_optionalMark (oneLine_bracketed h.root _) _
  have hdefault (isOptional : Bool) : OneLine (if isOptional then " = nil" else "") := by
    cases isOptional <;> decide
  rw [shownParameter]
  exact ((h.name.append (by decide)).append htype).append (hdefault _)

theorem oneLine_assignment (h : OneLineField style x) :
    OneLine (assignment x.1.type.classified (propertyOf style x.1 x.2)) := by
  have hself : OneLine ("self." ++ x.2) := OneLine.append (by decide) h.name
  rw [assignment]
  split
  · apply OneLine.append _ (by decide)
    apply OneLine.append (hself.append (by decide))
    split
    · exact h.name.append (by decide)
    · exact h.name
  · split
    · exact (hself.append (by decide)).append h.name
    · exact (hself.append (by decide)).append h.name

theorem allOneLine_initializerLines {xs : List (Field × String)} (h : ∀ x ∈ xs, OneLineField style x) :
    AllOneLine (initializerLines style xs) := by
  have hproperty : ∀ q ∈ storedProperties (xs.map fun x => propertyOf style x.1 x.2),
      ∃ x ∈ xs, q = propertyOf style x.1 x.2 := by
    intro q hq
    obtain ⟨x, hx, rfl⟩ := List.mem_map.mp (List.mem_of_mem_filter hq)
    exact ⟨x, hx, rfl⟩
  apply AllOneLine.append
  · have hparameters : OneLine (Text.joinWith ", " ((storedProperties (xs.map fun x =>
        propertyOf style x.1 x.2)).map (shownParameter style.typeNaming))) := by
      apply OneLine.joinWith (by decide)
      intro text htext
      obtain ⟨q, hq, rfl⟩ := List.mem_map.mp htext
      obtain ⟨x, hx, rfl⟩ := hproperty q hq
      exact oneLine_shownParameter (h x hx)
    refine AllOneLine.blank (AllOneLine.block ?_ (AllOneLine.append ?_ ?_))
    · exact (OneLine.append (by decide) hparameters).append (by decide)
    · intro l hl
      obtain ⟨q, hq, rfl⟩ := List.mem_map.mp hl
      obtain ⟨x, hx, rfl⟩ := hproperty q hq
      exact oneLine_assignment (h x hx)
    · exact List.forall_mem_singleton.mpr (by decide)
  · have hrequired : ∀ l ∈ requiredLines, OneLine l.text := by decide
    exact hrequired

theorem allOneLine_classLines {name : String} {fs : List Field} (hname : OneLine name)
    (h : ∀ x ∈ namedFields fs, OneLineField style x) : AllOneLine (classLines style name fs) := by
  have hheader : OneLine (classHeader name) :=
    (OneLine.append (by decide) hname).append (by decide)
  refine AllOneLine.block hheader (AllOneLine.append ?_ ?_)
  · intro l hl
    obtain ⟨x, hx, hlx⟩ := List.mem_flatMap.mp hl
    exact allOneLine_fieldLines (h x hx) l hlx
  · split
    · exact allOneLine_initializerLines h
    · exact List.forall_mem_nil _

theorem allOneLine_classesLines {ms : List ObjectType} (hms : ∀ m ∈ ms, OneLine m.name ∧
    ∀ x ∈ namedFields m.fields, OneLineField style x) (isFirst : Bool) :
    AllOneLine (classesLines style isFirst ms) := by
  induction ms generalizing isFirst with
  | nil => exact List.forall_mem_nil _
  | cons m ms ih =>
    obtain ⟨⟨hname, hfields⟩, hrest⟩ := List.forall_mem_cons.mp hms
    refine AllOneLine.append (AllOneLine.append ?_ ?_) (ih hrest false)
    · split
      · exact List.forall_mem_nil _
      · exact List.forall_mem_singleton.mpr (by decide)
    · exact allOneLine_classLines hname hfields

theorem allOneLine_modelClasses {s : Schema} (hspelled : s.Spelled)
    (hstarts : ∀ start ∈ style.typeNaming.customPrefix, OneLine start)
    (hnames : ∀ m ∈ s.models, ∀ x ∈ namedFields m.fields, style.typeNaming.Names x.1.type)
    (isFirst : Bool) : AllOneLine (classesLines style isFirst s.models) := by
  apply allOneLine_classesLines
  intro m hm
  refine ⟨oneLine_of_isName (hspelled.models m hm), ?_⟩
  intro x hx
  have hname := hspelled.leaves m hm x.1 (mem_of_mem_namedFields hx)
  constructor
  · exact hnames m hm x hx
  · exact oneLine_namedFields hx
  · exact oneLine_of_isName hname
  · exact oneLine_rootName (hnames m hm x hx) hname hstarts

theorem allOneLine_sourceLines {s : Schema} (hspelled : s.Spelled)
    (hframe : ∀ frame ∈ style.scope, OneLine frame.keyword ∧ OneLine frame.name)
    (hstarts : ∀ start ∈ style.typeNaming.customPrefix, OneLine start)
    (hnames : ∀ m ∈ s.models, ∀ x ∈ namedFields m.fields, style.typeNaming.Names x.1.type) :
    AllOneLine (sourceLines style s) := by
  have hclasses := allOneLine_modelClasses hspelled hstarts hnames
  have hhead : AllOneLine headLines := List.forall_mem_map.mpr (by decide)
  apply hhead.append
  split
  · exact List.forall_mem_nil _
  · rw [modelLines]
    split
    · exact hclasses false
    · next frame hscope =>
      obtain ⟨hkeyword, hname⟩ := hframe frame hscope
      have hheader : OneLine (declarationHeader frame (namespaceHeader frame)) := by
        have hpublic : OneLine (wrap "" (joinParts " " ["public"]) " ") := by decide
        have hnothing : OneLine (wrap ": " (joinParts ", " []) "") := by decide
        exact (((hpublic.append hkeyword).append (by decide)).append hname).append hnothing
      exact AllOneLine.append (AllOneLine.blank (allOneLine_docLines _))
        (AllOneLine.block hheader (hclasses true))

end RealmModels.Model
