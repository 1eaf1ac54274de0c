import Mathlib
import RealmModels.Proofs.Model.ClassLines
import RealmModels.Proofs.Printer.Scan

namespace RealmModels.Model

open GraphQL Swift Writing

def markStarts : List String := ["/// ", "@available(*, deprecated, message: "]

def keyStarts : List String :=
  ["override public static func primaryKey() -> String?", "return \"", "\x7d"]

def propertyStarts : List String := ["let ", "dynamic var ", "UNCAUGHT SCALAR "] ++ keyStarts

theorem opens_docLines {note : Note} {l : Line} (h : l ∈ docLines note) : Opens markStarts l.text := by
  obtain ⟨text, htext, rfl⟩ := List.mem_map.mp h
  obtain ⟨cs, -, rfl⟩ := List.mem_map.mp htext
  exact Opens.of_mem (by decide) _

theorem opens_markLines {style : Style} {f : Field} {l : Line} (h : l ∈ markLines style f) :
    Opens markStarts l.text := by
  rcases List.mem_append.mp h with h | h
  · exact opens_docLines h
  · rw [attributeLines] at h
    split at h
    · obtain rfl := List.mem_singleton.mp h
      apply Opens.append
      exact Opens.of_mem (by decide) _
    · exact absurd h List.not_mem_nil

theorem opens_keyLines {name : String} {l : Line} (h : l ∈ keyLines name) : Opens keyStarts l.text := by
  rcases List.mem_cons.mp h with rfl | h
  · exact Opens.of_mem (by decide) _
  · rcases List.mem_cons.mp h with rfl | h
    · apply Opens.append
      exact Opens.of_mem (by decide) _
    · obtain rfl := List.mem_singleton.mp h
      exact Opens.self (by decide)

theorem opens_scalarLine (kind : ScalarKind) (isOptional : Bool) (name scalar : String) :
    Opens propertyStarts (scalarLine kind isOptional name scalar) := by
  have hvar : Opens propertyStarts ("dynamic var " ++ name) := Opens.of_mem (by decide) _
  have hboxed (type : String) : Opens propertyStarts (boxed name type) := by
    apply Opens.append
    apply Opens.append
    apply Opens.append
    exact Opens.of_mem (by decide) _
  cases kind with
  | custom => exact Opens.of_mem (by decide) _
  | boolean | int | float =>
    cases isOptional with
    | true => exact hboxed _
    | false => exact hvar.append _
  | string | id => cases isOptional <;> exact hvar.append _

theorem opens_propertyLine? {c : Classified} {name type declared : String}
    (h : propertyLine? c name type = some declared) : Opens propertyStarts declared := by
  have hlet : Opens propertyStarts ("let " ++ name) := Opens.of_mem (by decide) _
  have hvar : Opens propertyStarts ("dynamic var " ++ name) := Opens.of_mem (by decide) _
  rw [propertyLine?] at h
  split at h
  · obtain rfl := Option.some.inj h
    exact ((hlet.append _).append _).append _
  · split at h
    · obtain rfl := Option.some.inj h
      exact ((hvar.append _).append _).append _
    · obtain rfl := Option.some.inj h
      exact hvar.append _
    · obtain rfl := Option.some.inj h
      exact opens_scalarLine _ _ _ _
    · cases h

theorem opens_propertyLines {n : TypeNaming} {t : TypeRef} {name : String} {l : Line}
    (h : l ∈ propertyLines n t name) : Opens propertyStarts l.text := by
  rw [propertyLines] at h
  split at h
  · exact absurd h List.not_mem_nil
  · next declared hline =>
    rcases List.mem_cons.mp h with rfl | h
    · exact opens_propertyLine? hline
    · split at h
      · exact (opens_keyLines h).mono (List.subset_append_right _ _)
      · exact absurd h List.not_mem_nil

theorem opens_assignment (c : Classified) (q : Property) : Opens ["self."] (assignment c q) := by
  have hname : Opens ["self."] ("self." ++ q.name) := Opens.of_mem (by decide) _
  simp only [assignment]
  split
  · exact ((hname.append _).append _).append _
  · split
    · exact (hname.append _).append _
    · exact (hname.append _).append _

def initializerStarts : List String :=
  ["public init(", "self.", "super.init()", "required public ", "fatalError(\"", "\x7d"]

def OpensInitializer (text : String) : Prop := text = "" ∨ Opens initializerStarts text

theorem opensInitializer_memberwiseLines (n : TypeNaming) (ps : List Property) :
    ∀ l ∈ memberwiseLines n ps, OpensInitializer l.text := by
  refine List.forall_mem_cons.mpr ⟨.inl rfl, forall_bracedLines (.inr (.self (by decide))) ?_ ?_⟩
  · have hinit : Opens initializerStarts "public init(" := .self (by decide)
    exact .inr (((hinit.append _).append _).append _)
  · refine List.forall_mem_append.mpr ⟨List.forall_mem_map.mpr fun q _ => ?_, ?_⟩
    · exact .inr ((opens_assignment _ q).mono (by decide))
    · exact List.forall_mem_singleton.mpr (.inr (.self (by decide)))

theorem opensInitializer_requiredLines : ∀ l ∈ requiredLines, OpensInitializer l.text := by
  intro l hl
  obtain ⟨x, -, hx⟩ := List.mem_flatMap.mp hl
  refine List.forall_mem_cons.mpr ⟨.inl rfl, forall_bracedLines (.inr (.self (by decide))) ?_ ?_⟩ l hx
  · exact .inr ((Opens.of_mem (by decide) _).append _)
  · exact List.forall_mem_singleton.mpr (.inr ((Opens.of_mem (by decide) _).append _))

theorem opensInitializer_initializerLines (style : Style) (xs : List (Field × String)) :
    ∀ l ∈ initializerLines style xs, OpensInitializer l.text :=
  List.forall_mem_append.mpr
    ⟨opensInitializer_memberwiseLines _ _, opensInitializer_requiredLines⟩

end RealmModels.Model
