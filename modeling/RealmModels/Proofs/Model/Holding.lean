import Mathlib
import RealmModels.Proofs.Model.ClassLines
import RealmModels.Proofs.Printer.Scan

namespace RealmModels.Model

open GraphQL Swift Writing

inductive Holding where
  | list (item : String)
  | box (type : String)
  | value (type : String)
  deriving DecidableEq, Repr

def impliedTypes : List (String × String) :=
  [(": String? = nil", "String"), (" = \"\"", "String"), (" = false", "Bool"), (" = 0", "Int"),
    (": Float = 0.0", "Float")]

def valueType? (rest : String) : Option String :=
  (between? ": " "?" rest).or (impliedTypes.lookup rest)

def holding? (name text : String) : Option Holding :=
  ((between? ("let " ++ name ++ " = List<") ">()" text).map .list).or
    (((between? ("let " ++ name ++ " = RealmOptional<") ">()" text).map .box).or
      (((after? ("dynamic var " ++ name) text).bind valueType?).map .value))

theorem holding?_list (name item : String) :
    holding? name ("let " ++ name ++ " = List<" ++ item ++ ">()") = some (.list item) := by
  rw [holding?, between?_append]
  rfl

theorem holding?_boxed (name type : String) : holding? name (boxed name type) = some (.box type) := by
  have hapart : Apart ("let " ++ name ++ " = List<") ("let " ++ name ++ " = RealmOptional<") :=
    Apart.behind (by decide) _
  have hboxed : boxed name type = "let " ++ name ++ " = RealmOptional<" ++ (type ++ ">()") :=
    String.append_assoc
  have hlist : between? ("let " ++ name ++ " = List<") ">()" (boxed name type) = none := by
    rw [hboxed]
    exact between?_of_apart hapart _ _
  rw [holding?, hlist, boxed, between?_append]
  rfl

theorem holding?_var (name rest : String) :
    holding? name ("dynamic var " ++ name ++ rest) = (valueType? rest).map .value := by
  have hlet (opening : String) :
      between? ("let " ++ name ++ opening) ">()" ("dynamic var " ++ name ++ rest) = none := by
    apply between?_of_apart
    rw [String.append_assoc]
    exact Apart.append (by decide) _ _
  rw [holding?, hlet, hlet, after?_append]
  rfl

theorem holding?_object (name type : String) :
    holding? name ("dynamic var " ++ name ++ ": " ++ type ++ "?") = some (.value type) := by
  have hline : "dynamic var " ++ name ++ ": " ++ type ++ "?" =
      "dynamic var " ++ name ++ (": " ++ type ++ "?") := by simp only [String.append_assoc]
  rw [hline, holding?_var, valueType?, between?_append]
  rfl

def heldAs (c : Classified) (root : String) : Holding :=
  if c.isList then .list root else if isBoxed c then .box root else .value root

theorem holding?_scalarLine {kind : ScalarKind} {root : String} (hroot : builtinName? kind = some root)
    (c : Classified) (hlist : c.isList = false) (hshape : c.shape = .scalar kind) (name : String) :
    holding? name (scalarLine kind c.isOptional name c.typeName) = some (heldAs c root) := by
  rw [heldAs, hlist, isBoxed, hshape]
  cases kind with
  | custom => cases hroot
  | boolean | int | float =>
    cases hroot
    cases c.isOptional with
    | true => exact holding?_boxed name _
    | false => exact holding?_var name _
  | string | id =>
    cases hroot
    cases c.isOptional <;> exact holding?_var name _

theorem exists_holding {n : TypeNaming} {c : Classified} {root : String} (hroot : n.root c = .ok root)
    (hstored : isStored c = true) (name : String) :
    ∃ declared, propertyLine? c name root = some declared ∧
      holding? name declared = some (heldAs c root) := by
  cases hlist : c.isList with
  | true =>
    refine ⟨_, by rw [propertyLine?, hlist]; rfl, ?_⟩
    rw [heldAs, hlist]
    exact holding?_list name root
  | false =>
    rw [isStored, hlist] at hstored
    simp only [propertyLine?, hlist]
    cases hshape : c.shape with
    | object =>
      refine ⟨_, rfl, ?_⟩
      rw [heldAs, hlist, isBoxed, hshape, Bool.and_false]
      exact holding?_object name root
    | enum =>
      obtain rfl : "String" = root := by simpa [TypeNaming.root, hshape] using hroot
      refine ⟨_, rfl, ?_⟩
      rw [heldAs, hlist, isBoxed, hshape, Bool.and_false]
      exact holding?_var name _
    | abstract => simp [hshape] at hstored
    | scalar kind =>
      refine ⟨_, rfl, ?_⟩
      have hbuiltin : builtinName? kind = some root := by
        cases hkind : builtinName? kind with
        | some found => simpa [TypeNaming.root, hshape, hkind] using hroot
        | none =>
          obtain rfl : kind = .custom := by cases kind <;> simp_all [builtinName?]
          simp [Classified.isUncaught, hshape] at hstored
      exact holding?_scalarLine hbuiltin c hlist hshape name

inductive Assigned where
  | items (source : String)
  | box (source : String)
  | value (source : String)
  deriving DecidableEq, Repr

def assigned? (name text : String) : Option Assigned :=
  ((between? ("self." ++ name ++ ".append(objectsIn: ") ")" text).map .items).or
    (((after? ("self." ++ name ++ ".value = ") text).map .box).or
      ((after? ("self." ++ name ++ " = ") text).map .value))

def Holding.assigned (name : String) (mayBeMissing : Bool) : Holding → Assigned
  | list _ => .items (if mayBeMissing then name ++ " ?? []" else name)
  | box _ => .box name
  | value _ => .value name

theorem assigned?_items (name source : String) :
    assigned? name ("self." ++ name ++ ".append(objectsIn: " ++ source ++ ")") =
      some (.items source) := by
  rw [assigned?, between?_append]
  rfl

theorem between?_items_of_apart {name other : String} (h : Apart ".append(objectsIn: " other)
    (rest : String) :
    between? ("self." ++ name ++ ".append(objectsIn: ") ")" ("self." ++ name ++ other ++ rest) =
      none :=
  between?_of_apart (h.behind _) _ _

theorem assigned?_box (name source : String) :
    assigned? name ("self." ++ name ++ ".value = " ++ source) = some (.box source) := by
  rw [assigned?, between?_items_of_apart (by decide), after?_append]
  rfl

theorem assigned?_value (name source : String) :
    assigned? name ("self." ++ name ++ " = " ++ source) = some (.value source) := by
  have hbox : Apart ("self." ++ name ++ ".value = ") ("self." ++ name ++ " = ") :=
    Apart.behind (by decide) _
  rw [assigned?, between?_items_of_apart (by decide), after?_of_apart hbox, after?_append]
  rfl

theorem assigned?_assignment (c : Classified) (root : String) (q : Property) :
    assigned? q.name (assignment c q) = some ((heldAs c root).assigned q.name (isNullable q)) := by
  rw [assignment, heldAs]
  cases c.isList with
  | true => exact assigned?_items q.name _
  | false =>
    cases isBoxed c with
    | true => exact assigned?_box q.name _
    | false => exact assigned?_value q.name _

end RealmModels.Model
