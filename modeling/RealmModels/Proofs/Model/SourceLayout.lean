import Mathlib
import RealmModels.Proofs.Model.SingleLines
import RealmModels.Proofs.Printer.Layout
import RealmModels.Proofs.Swift.Identifier

namespace RealmModels.Model

open GraphQL Swift Writing
open Text (firstIs lastIs firstIs_append lastIs_append lastIs_iff)

def headingStarts : List String :=
  ["public ", "public init(", "public final class ", "required public ",
    "override public static func primaryKey() -> String?"]

theorem isHeading_of_opens {header : String} (h : Opens headingStarts header) :
    IsHeading (header ++ " \x7b") := by
  constructor
  · have hfirst : ∀ start ∈ headingStarts, firstIs Text.isInk start = true := by decide
    obtain ⟨start, hstart, rest, rfl⟩ := h
    exact firstIs_append (firstIs_append (hfirst start hstart) rest) _
  · have hbrace : header ++ " \x7b" = header ++ " " ++ "\x7b" := by
      rw [String.append_assoc]
      rfl
    have hcomment : after? "///" (header ++ " \x7b") = none := (h.append _).after? (by decide)
    rw [Text.opensBlock, hcomment, hbrace, before?_append]
    rfl

theorem endsPlain_of_isNameChar {c : Char} (h : Naming.isNameChar c = true) : endsPlain c = true :=
  Naming.of_ascii (P := fun c => endsPlain c = true) (by decide) h

theorem endsPlain_of_isName {name : String} (h : isName name = true) : lastIs endsPlain name = true := by
  obtain ⟨c, hc, hname⟩ := exists_last_of_isName h
  exact lastIs_iff.mpr ⟨c, hc, endsPlain_of_isNameChar (isNameChar_of_isNameContinue hname)⟩

theorem endsPlain_namedFields {fs : List Field} {x : Field × String} (h : x ∈ namedFields fs) :
    lastIs endsPlain x.2 = true := by
  have hspelled := (distinct_nameFields fs).spelled _ (mem_given_nameFields h)
  have hne : x.2.toList ≠ [] := by simpa using namedFields_ne h
  refine lastIs_iff.mpr ⟨_, List.getLast?_eq_some_getLast hne, ?_⟩
  have hmem := List.getLast_mem hne
  generalize x.2.toList.getLast hne = c at hmem
  by_cases hquote : c = '`'
  · subst hquote
    decide
  · apply endsPlain_of_isNameChar
    apply hspelled
    rw [unquoted, String.toList_ofList]
    exact List.mem_filter.mpr ⟨hmem, decide_eq_true hquote⟩

theorem laid_docLines (note : Note) : Laid (docLines note) := by
  apply Laid.plains
  intro l hl
  obtain ⟨text, htext, rfl⟩ := List.mem_map.mp hl
  obtain ⟨cs, hcs, rfl⟩ := List.mem_map.mp htext
  obtain ⟨hmem, hne⟩ := List.mem_filter.mp hcs
  obtain ⟨piece, -, rfl⟩ := List.mem_map.mp hmem
  exact ⟨rfl, IsPlain.comment (Text.lastIs_trim (by simpa using hne))⟩

theorem laid_markLines (style : Style) (f : Field) : Laid (markLines style f) := by
  apply (laid_docLines _).append
  rw [attributeLines]
  split
  · apply Laid.single
    apply IsPlain.of_ends
    · exact firstIs_append (firstIs_append (by decide) _) _
    · exact lastIs_append _ (by decide)
  · exact .nil

theorem isPlain_scalarLine {scalar : String} (hscalar : lastIs endsPlain scalar = true)
    (kind : ScalarKind) (isOptional : Bool) (name : String) :
    IsPlain (scalarLine kind isOptional name scalar) := by
  have hvar {value : String} (h : lastIs endsPlain value = true) :
      IsPlain ("dynamic var " ++ name ++ value) :=
    .of_ends (firstIs_append (firstIs_append (by decide) _) _) (lastIs_append _ h)
  have hboxed (type : String) : IsPlain (boxed name type) := by
    apply IsPlain.of_ends
    · exact firstIs_append (firstIs_append (firstIs_append (firstIs_append (by decide) _) _) _) _
    · exact lastIs_append _ (by decide)
  cases kind with
  | custom => exact .of_ends (firstIs_append (by decide) _) (lastIs_append _ hscalar)
  | boolean | int | float =>
    cases isOptional with
    | true => exact hboxed _
    | false => exact hvar (by decide)
  | string | id => cases isOptional <;> exact hvar (by decide)

theorem isPlain_propertyLine? {c : Classified} {name type declared : String}
    (hscalar : lastIs endsPlain c.typeName = true) (h : propertyLine? c name type = some declared) :
    IsPlain declared := by
  rw [propertyLine?] at h
  split at h
  · obtain rfl := Option.some.inj h
    apply IsPlain.of_ends
    · exact firstIs_append (firstIs_append (firstIs_append (firstIs_append (by decide) _) _) _) _
    · exact lastIs_append _ (by decide)
  · split at h
    · obtain rfl := Option.some.inj h
      apply IsPlain.of_ends
      · exact firstIs_append (firstIs_append (firstIs_append (firstIs_append (by decide) _) _) _) _
      · exact lastIs_append _ (by decide)
    · obtain rfl := Option.some.inj h
      apply IsPlain.of_ends
      · exact firstIs_append (firstIs_append (by decide) _) _
      · exact lastIs_append _ (by decide)
    · obtain rfl := Option.some.inj h
      exact isPlain_scalarLine hscalar _ _ _
    · cases h

theorem laid_keyLines (name : String) : Laid (keyLines name) := by
  apply Laid.braces
  · exact isHeading_of_opens (Opens.self (by decide))
  · apply Laid.single
    apply IsPlain.of_ends
    · exact firstIs_append (firstIs_append (by decide) _) _
    · exact lastIs_append _ (by decide)

theorem laid_fieldLines (style : Style) {f : Field} (h : isName f.type.leaf.name = true) (name : String) :
    Laid (fieldLines style f name) := by
  apply (laid_markLines style f).append
  rw [propertyLines]
  split
  · exact .nil
  · next declared hline =>
    apply Laid.line (isPlain_propertyLine? (endsPlain_of_isName h) hline)
    split
    · exact laid_keyLines name
    · exact .nil

theorem isPlain_assignment {p : Property} (h : lastIs endsPlain p.name = true) (c : Classified) :
    IsPlain (assignment c p) := by
  have hself : firstIs startsPlain ("self." ++ p.name) = true := firstIs_append (by decide) _
  rw [assignment]
  split
  · exact .of_ends (firstIs_append (firstIs_append (firstIs_append hself _) _) _)
      (lastIs_append _ (by decide))
  · split
    · exact .of_ends (firstIs_append (firstIs_append hself _) _) (lastIs_append _ h)
    · exact .of_ends (firstIs_append (firstIs_append hself _) _) (lastIs_append _ h)

theorem laid_memberwiseLines (n : TypeNaming) {ps : List Property}
    (h : ∀ p ∈ ps, lastIs endsPlain p.name = true) : Laid (memberwiseLines n ps) := by
  apply Laid.blank_braces
  · have hopens : Opens headingStarts "public init(" := Opens.self (by decide)
    exact isHeading_of_opens ((hopens.append _).append _)
  · apply Laid.append
    · apply Laid.plains
      intro l hl
      obtain ⟨p, hp, rfl⟩ := List.mem_map.mp hl
      exact ⟨rfl, isPlain_assignment (h p (List.mem_of_mem_filter hp)) _⟩
    · exact .single (.of_ends (by decide) (by decide))

theorem laid_requiredLines : Laid requiredLines := by
  apply Laid.flatMap
  intro x _
  apply Laid.blank_braces
  · exact isHeading_of_opens (Opens.of_mem (by decide) _)
  · apply Laid.single
    apply IsPlain.of_ends
    · exact firstIs_append (firstIs_append (by decide) _) _
    · exact lastIs_append _ (by decide)

theorem laid_bodyLines (style : Style) {fs : List Field}
    (h : ∀ f ∈ fs, isName f.type.leaf.name = true) : Laid (bodyLines style (namedFields fs)) := by
  apply Laid.append
  · apply Laid.flatMap
    intro x hx
    exact laid_fieldLines style (h x.1 (mem_of_mem_namedFields hx)) x.2
  · split
    · apply Laid.append _ laid_requiredLines
      apply laid_memberwiseLines
      intro p hp
      obtain ⟨x, hx, rfl⟩ := List.mem_map.mp hp
      exact endsPlain_namedFields hx
    · exact .nil

theorem laid_classLines (style : Style) (name : String) {fs : List Field}
    (h : ∀ f ∈ fs, isName f.type.leaf.name = true) : Laid (classLines style name fs) := by
  have hheading : Opens headingStarts (classHeader name) := by
    apply Opens.append
    exact Opens.of_mem (by decide) _
  exact Laid.braces (isHeading_of_opens hheading) (laid_bodyLines style h)

theorem laid_classesLines (style : Style) (isFirst : Bool) {ms : List ObjectType}
    (h : ∀ m ∈ ms, ∀ f ∈ m.fields, isName f.type.leaf.name = true) :
    Laid (classesLines style isFirst ms) := by
  induction ms generalizing isFirst with
  | nil => exact .nil
  | cons m ms ih =>
    obtain ⟨hm, hms⟩ := List.forall_mem_cons.mp h
    have hclass := laid_classLines style m.name hm
    rw [classesLines]
    apply Laid.append _ (ih false hms)
    cases isFirst with
    | true => exact hclass
    | false =>
      apply Laid.blank _ hclass
      exact fun hempty => classHeader_ne m.name (String.append_eq_empty_iff.mp hempty).1

theorem laid_headLines : Laid headLines := by
  have himport (name : String) (h : lastIs endsPlain name = true) : IsPlain ("import " ++ name) :=
    .of_ends (firstIs_append (by decide) _) (lastIs_append _ h)
  have hnotice : IsPlain notice := .of_ends (by decide) (by decide)
  apply Laid.line hnotice
  apply Laid.blank
  · decide
  · exact .line (himport "Apollo" (by decide))
      (.line (himport "Realm" (by decide)) (.single (himport "RealmSwift" (by decide))))

theorem laid_modelLines (style : Style) {ms : List ObjectType}
    (h : ∀ m ∈ ms, ∀ f ∈ m.fields, isName f.type.leaf.name = true) : Laid (modelLines style ms) := by
  rw [modelLines]
  split
  · exact laid_classesLines style false h
  · next frame _ =>
    have hheading : Opens headingStarts (declarationHeader frame (namespaceHeader frame)) := by
      have hpublic : wrap "" (joinParts " " ["public"]) " " = "public " := by decide
      have hopens : Opens headingStarts ("public " ++ frame.keyword) := Opens.of_mem (by decide) _
      unfold declarationHeader namespaceHeader
      dsimp only
      rewrite [hpublic]
      exact ((hopens.append _).append _).append _
    have hblock := Laid.braces (isHeading_of_opens hheading) (laid_classesLines style true h)
    have hlines := (laid_docLines (namespaceHeader frame).description).append hblock
    cases hdoc : docLines (namespaceHeader frame).description with
    | nil =>
      apply Laid.blank _ hblock
      exact Text.ne_of_firstIs (isHeading_of_opens hheading).first
    | cons l ls =>
      rw [hdoc] at hlines
      apply Laid.blank _ hlines
      have hl : l ∈ docLines (namespaceHeader frame).description := hdoc ▸ List.mem_cons_self
      obtain ⟨text, htext, rfl⟩ := List.mem_map.mp hl
      exact documentation_ne _ text htext

theorem laid_sourceLines (style : Style) {s : Schema} (hspelled : s.Spelled) :
    Laid (sourceLines style s) := by
  apply laid_headLines.append
  split
  · exact .nil
  · exact laid_modelLines style hspelled.leaves

end RealmModels.Model
