import Mathlib
import RealmModels.Model.Class
import RealmModels.Proofs.Swift.Names
import RealmModels.Proofs.Swift.Property

namespace RealmModels.Model

open GraphQL Swift Writing

def nameFields : List Field → Naming.Scope → List (Field × String) × Naming.Scope
  | [], n => ([], n)
  | f :: fs, n =>
    let (name, m) := give .camel f.name n
    ((f, name) :: (nameFields fs m).1, (nameFields fs m).2)

def namedFields (fs : List Field) : List (Field × String) := (nameFields fs .empty).1

def shownDescription (style : Style) (f : Field) : Note :=
  if style.comments then f.description else .absent

def attributeLines (style : Style) (f : Field) : List Line :=
  if style.deprecations ∧ f.deprecationReason ≠ .absent then
    [⟨0, deprecation (shownWords f.deprecationReason)⟩]
  else []

def markLines (style : Style) (f : Field) : List Line :=
  docLines (shownDescription style f) ++ attributeLines style f

def fieldLines (style : Style) (f : Field) (name : String) : List Line :=
  markLines style f ++ propertyLines style.typeNaming f.type name

def propertyOf (style : Style) (f : Field) (name : String) : Property :=
  { name := name, typeName := some (style.typeNaming.rootName f.type), type := f.type,
    description := shownDescription style f }

def storedProperties (ps : List Property) : List Property :=
  ps.filter fun p => isStored p.type.classified

def shownParameter (n : TypeNaming) (p : Property) : String :=
  p.name ++ ": " ++ n.fullName true p.type ++ (if isNullable p then " = nil" else "")

def assignmentLines (ps : List Property) : List Line :=
  ps.map (fun p => ⟨0, assignment p.type.classified p⟩) ++ [⟨0, "super.init()"⟩]

def memberwiseLines (n : TypeNaming) (ps : List Property) : List Line :=
  .blank :: bracedLines
    ("public init(" ++ Text.joinWith ", " ((storedProperties ps).map (shownParameter n)) ++ ")")
    (assignmentLines (storedProperties ps))

def requiredInitializerLines (signature selector : String) : List Line :=
  .blank :: bracedLines ("required public " ++ signature)
    [⟨0, "fatalError(\"" ++ selector ++ " has not been implemented\")"⟩]

def requiredLines : List Line :=
  requiredInitializers.flatMap fun x => requiredInitializerLines x.1 x.2

def initializerLines (style : Style) (xs : List (Field × String)) : List Line :=
  memberwiseLines style.typeNaming (xs.map fun x => propertyOf style x.1 x.2) ++ requiredLines

def bodyLines (style : Style) (xs : List (Field × String)) : List Line :=
  xs.flatMap (fun x => fieldLines style x.1 x.2) ++
    if style.initializers then initializerLines style xs else []

def classHeader (name : String) : String := "public final class " ++ name ++ ": Object"

def classLines (style : Style) (name : String) (fs : List Field) : List Line :=
  bracedLines (classHeader name) (bodyLines style (namedFields fs))

def IsRenamed (f : Field) (name : String) : Prop :=
  name ≠ escapeIdentifier (Naming.base .camel f.name)

instance (f : Field) (name : String) : Decidable (IsRenamed f name) :=
  inferInstanceAs (Decidable (_ ≠ _))

def isUncaughtAlone (t : TypeRef) : Bool := t.classified.isUncaught && !t.hasList

def renamingEvents (scopes : List Frame) (f : Field) (name : String) : List Log.Event :=
  if IsRenamed f name then
    [.renamed (scopes.foldl (fun inner frame => frame.name ++ "." ++ inner) f.name) name
      (Naming.base .camel f.name)]
  else []

def uncaughtEvents (f : Field) : List Log.Event :=
  if isUncaughtAlone f.type then [.uncaught f.type.leaf.name f.name] else []

def fieldEvents (scopes : List Frame) (f : Field) (name : String) : List Log.Event :=
  renamingEvents scopes f name ++ uncaughtEvents f

def classEvents (scopes : List Frame) (name : String) (fs : List Field) : List Log.Event :=
  .generating name :: (namedFields fs).flatMap fun x =>
    fieldEvents ({ name := name, keyword := "class" } :: scopes) x.1 x.2

structure Declarable (style : Style) (f : Field) : Prop where
  type : style.typeNaming.Names f.type
  description : (shownDescription style f).words?.isSome = true
  reason : style.deprecations = true → f.deprecationReason.words?.isSome = true

instance (style : Style) (f : Field) : Decidable (Declarable style f) :=
  decidable_of_iff
    (style.typeNaming.Names f.type ∧ (shownDescription style f).words?.isSome = true ∧
      (style.deprecations = true → f.deprecationReason.words?.isSome = true))
    ⟨fun ⟨htype, hdescription, hreason⟩ => ⟨htype, hdescription, hreason⟩,
      fun h => ⟨h.type, h.description, h.reason⟩⟩

def CanDeclare (style : Style) (scopes : List Frame) (xs : List (Field × String)) : Prop :=
  ∀ x ∈ xs, Declarable style x.1 ∧ (IsRenamed x.1 x.2 → scopes.all (·.isText) = true)

theorem nameFields_fst (fs : List Field) (n : Naming.Scope) :
    (nameFields fs n).1.map Prod.fst = fs := by
  induction fs generalizing n with
  | nil => rfl
  | cons f fs ih => simp only [nameFields, List.map_cons, ih]

theorem mem_of_mem_namedFields {fs : List Field} {x : Field × String} (h : x ∈ namedFields fs) :
    x.1 ∈ fs := by
  have hmem : x.1 ∈ (namedFields fs).map Prod.fst := List.mem_map_of_mem h
  rwa [namedFields, nameFields_fst] at hmem

theorem length_namedFields (fs : List Field) : (namedFields fs).length = fs.length := by
  rw [← congrArg List.length (nameFields_fst fs .empty), List.length_map]
  rfl

theorem classHeader_eq (name : String) :
    declarationHeader { name := name, keyword := "class" }
      { modifiers := ["public", "final"], inherited := ["", "Object"] } = classHeader name := by
  have hmodifiers : wrap "" (joinParts " " ["public", "final"]) " " = "public final " := by decide
  have hinherited : wrap ": " (joinParts ", " ["", "Object"]) "" = ": Object" := by decide
  have hstart : "public final " ++ "class" ++ " " = "public final class " := by decide
  unfold declarationHeader classHeader
  dsimp only
  rw [hmodifiers, hinherited, hstart]

theorem classHeader_ne (name : String) : classHeader name ≠ "" := append_ne (append_ne (by decide))

end RealmModels.Model
