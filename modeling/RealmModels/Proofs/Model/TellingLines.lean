import Mathlib
import RealmModels.Proofs.Model.Openings
import RealmModels.Proofs.Model.SourceOutcome

namespace RealmModels.Model

open GraphQL Swift Writing

def tellingStarts : List String :=
  ["let ", "dynamic var ", "UNCAUGHT SCALAR ", "public final class "]

def isInName (c : Char) : Bool := c ≠ ' ' && c ≠ ':'

def declaredName? (text : String) : Option String :=
  ((after? "let " text).or (after? "dynamic var " text)).map fun rest =>
    String.ofList (rest.toList.takeWhile isInName)

def uncaughtScalar? (text : String) : Option String := after? "UNCAUGHT SCALAR " text

def openedClass? (text : String) : Option String := after? "public final class " text

def IsQuiet (text : String) : Prop := ∀ start ∈ tellingStarts, after? start text = none

instance (text : String) : Decidable (IsQuiet text) := inferInstanceAs (Decidable (∀ _ ∈ _, _))

def AllQuiet (ls : List Line) : Prop := ∀ l ∈ ls, IsQuiet l.text

theorem declaredName?_of_apart {start : String} (hlet : Apart "let " start)
    (hvar : Apart "dynamic var " start) (rest : String) : declaredName? (start ++ rest) = none := by
  rw [declaredName?, after?_of_apart hlet, after?_of_apart hvar]
  rfl

theorem isQuiet_append {start : String} (h : ∀ w ∈ tellingStarts, Apart w start) (rest : String) :
    IsQuiet (start ++ rest) := fun w hw => after?_of_apart (h w hw) rest

namespace IsQuiet

variable {text : String}

theorem of_opens {starts : List String} (h : Opens starts text)
    (hapart : ∀ w ∈ tellingStarts, ∀ start ∈ starts, Apart w start) : IsQuiet text :=
  fun w hw => h.after? (hapart w hw)

theorem declaredName? (h : IsQuiet text) : declaredName? text = none := by
  rw [Model.declaredName?, h _ (by decide), h _ (by decide)]
  rfl

theorem uncaughtScalar? (h : IsQuiet text) : uncaughtScalar? text = none := h _ (by decide)

theorem openedClass? (h : IsQuiet text) : openedClass? text = none := h _ (by decide)

end IsQuiet

theorem AllQuiet.blank {ls : List Line} (h : AllQuiet ls) : AllQuiet (.blank :: ls) :=
  List.forall_mem_cons.mpr ⟨by decide, h⟩

theorem allQuiet_docLines (note : Note) : AllQuiet (docLines note) := fun _ hl =>
  .of_opens (opens_docLines hl) (by decide)

theorem allQuiet_markLines (style : Style) (f : Field) : AllQuiet (markLines style f) := fun _ hl =>
  .of_opens (opens_markLines hl) (by decide)

theorem allQuiet_keyLines (name : String) : AllQuiet (keyLines name) := fun _ hl =>
  .of_opens (opens_keyLines hl) (by decide)

theorem allQuiet_initializerLines (style : Style) (xs : List (Field × String)) :
    AllQuiet (initializerLines style xs) := by
  intro l hl
  rcases opensInitializer_initializerLines style xs l hl with hempty | hopens
  · rw [hempty]
    decide
  · exact .of_opens hopens (by decide)

theorem allQuiet_headLines : AllQuiet headLines := by
  intro l hl
  obtain ⟨text, htext, rfl⟩ := List.mem_map.mp hl
  rcases List.mem_append.mp htext with htext | htext
  · simp only [List.mem_cons, List.not_mem_nil, or_false] at htext
    rcases htext with rfl | rfl
    · exact (by decide : IsQuiet notice)
    · exact (by decide : IsQuiet "")
  · obtain ⟨name, -, rfl⟩ := List.mem_map.mp htext
    exact isQuiet_append (by decide) _

theorem isInName_of_spelled {name : String} (h : Naming.IsName (unquoted name).toList) :
    ∀ c ∈ name.toList, isInName c = true := by
  intro c hc
  by_cases hquote : c = '`'
  · subst hquote
    decide
  · have hmem : c ∈ (unquoted name).toList := by
      rw [unquoted, String.toList_ofList]
      exact List.mem_filter.mpr ⟨hc, decide_eq_true hquote⟩
    have hname := h c hmem
    simp only [isInName, Bool.and_eq_true, decide_eq_true_eq]
    constructor
    · rintro rfl
      exact absurd hname (by decide)
    · rintro rfl
      exact absurd hname (by decide)

def IsDeclaration (name text : String) : Prop :=
  ∃ rest : String, rest.toList.head?.map isInName = some false ∧
    (text = "let " ++ name ++ rest ∨ text = "dynamic var " ++ name ++ rest)

namespace IsDeclaration

variable {name text : String}

theorem append (h : IsDeclaration name text) (more : String) : IsDeclaration name (text ++ more) := by
  obtain ⟨rest, hrest, htext⟩ := h
  refine ⟨rest ++ more, ?_, ?_⟩
  · rw [String.toList_append]
    cases hl : rest.toList with
    | nil => simp [hl] at hrest
    | cons c cs => simpa [hl] using hrest
  · rcases htext with rfl | rfl
    · exact .inl (String.append_assoc ..)
    · exact .inr (String.append_assoc ..)

theorem declaredName? (h : IsDeclaration name text) (hname : ∀ c ∈ name.toList, isInName c = true) :
    declaredName? text = some name := by
  obtain ⟨rest, hrest, htext⟩ := h
  have hend : rest.toList.takeWhile isInName = [] := by
    cases hl : rest.toList with
    | nil => rfl
    | cons c cs => simpa [hl] using hrest
  have htake : String.ofList ((name ++ rest).toList.takeWhile isInName) = name := by
    rw [String.toList_append, List.takeWhile_append_of_pos hname, hend, List.append_nil,
      String.ofList_toList]
  have hlet : after? "let " ("dynamic var " ++ (name ++ rest)) = none :=
    after?_of_apart (by decide) _
  rcases htext with rfl | rfl
  · rw [Model.declaredName?, String.append_assoc, after?_append, Option.some_or, Option.map_some,
      htake]
  · rw [Model.declaredName?, String.append_assoc, hlet, after?_append, Option.none_or,
      Option.map_some, htake]

theorem uncaughtScalar? (h : IsDeclaration name text) : uncaughtScalar? text = none := by
  obtain ⟨rest, -, rfl | rfl⟩ := h
  · rw [String.append_assoc]
    exact after?_of_apart (by decide) _
  · rw [String.append_assoc]
    exact after?_of_apart (by decide) _

theorem openedClass? (h : IsDeclaration name text) : openedClass? text = none := by
  obtain ⟨rest, -, rfl | rfl⟩ := h
  · rw [String.append_assoc]
    exact after?_of_apart (by decide) _
  · rw [String.append_assoc]
    exact after?_of_apart (by decide) _

end IsDeclaration

theorem isDeclaration_boxed (name type : String) : IsDeclaration name (boxed name type) :=
  IsDeclaration.append (.append ⟨" = RealmOptional<", by decide, .inl rfl⟩ type) ">()"

theorem isDeclaration_scalarLine {kind : ScalarKind} (hkind : kind ≠ .custom) (isOptional : Bool)
    (name scalar : String) : IsDeclaration name (scalarLine kind isOptional name scalar) := by
  cases kind with
  | custom => exact absurd rfl hkind
  | boolean | int | float =>
    cases isOptional with
    | true => exact isDeclaration_boxed name _
    | false => exact ⟨_, by decide, .inr rfl⟩
  | string | id => cases isOptional <;> exact ⟨_, by decide, .inr rfl⟩

theorem isDeclaration_of_isStored {c : Classified} (name type : String) (h : isStored c = true) :
    ∃ declared, propertyLine? c name type = some declared ∧ IsDeclaration name declared := by
  obtain ⟨typeName, shape, isOptional, isList⟩ := c
  cases isList with
  | true => exact ⟨_, rfl, .append (.append ⟨" = List<", by decide, .inl rfl⟩ type) ">()"⟩
  | false =>
    cases shape with
    | object => exact ⟨_, rfl, .append (.append ⟨": ", by decide, .inr rfl⟩ type) "?"⟩
    | enum => exact ⟨_, rfl, ": String? = nil", by decide, .inr rfl⟩
    | abstract => exact absurd h Bool.false_ne_true
    | scalar kind =>
      have hkind : kind ≠ .custom := by
        rintro rfl
        exact absurd h Bool.false_ne_true
      exact ⟨_, rfl, isDeclaration_scalarLine hkind isOptional name typeName⟩

theorem propertyLine?_of_not_isStored {c : Classified} (name type : String)
    (h : isStored c = false) :
    propertyLine? c name type =
      if c.isUncaught then some ("UNCAUGHT SCALAR " ++ c.typeName) else none := by
  obtain ⟨typeName, shape, isOptional, isList⟩ := c
  cases isList with
  | true => exact absurd h.symm Bool.false_ne_true
  | false =>
    cases shape with
    | abstract => rfl
    | scalar kind =>
      cases kind with
      | custom => cases isOptional <;> rfl
      | _ => exact absurd h.symm Bool.false_ne_true
    | _ => exact absurd h.symm Bool.false_ne_true

end RealmModels.Model
