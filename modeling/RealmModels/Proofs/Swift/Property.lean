import Mathlib
import RealmModels.Proofs.Swift.TypeName
import RealmModels.Proofs.Writing.Printing
import RealmModels.Swift.Property

namespace RealmModels.Swift

open GraphQL Writing

variable {p : Printer} {n : Naming.Scope} {e : List Log.Event}

def keyLines (name : String) : List Line :=
  bracedLines "override public static func primaryKey() -> String?"
    [⟨0, "return \"" ++ withoutBackticks name ++ "\""⟩]

def propertyLines (naming : TypeNaming) (t : TypeRef) (name : String) : List Line :=
  match propertyLine? t.classified name (naming.rootName t) with
  | none => []
  | some declared => ⟨0, declared⟩ :: if isPrimaryKey t.classified then keyLines name else []

theorem gives_classified (t : TypeRef) (s : Session) :
    Gives (classified t) s t.IsOutput t.classified s := by
  by_cases h : t.IsOutput
  · simp only [classified, classify_of_isOutput h]
    exact (gives_pure _ _).congr (by simp only [h])
  · simp only [classified, classify_of_not_isOutput h]
    exact (gives_throw _ _ _ _).congr (by simp only [h])

theorem gives_primaryKey (name : String) :
    Gives (primaryKey (some name)) ⟨p, n, e⟩ (p.HasRoom (keyLines name)) ()
      ⟨p.putAll (keyLines name), n, e⟩ := by
  let q := (p.put ⟨0, "override public static func primaryKey() -> String?" ++ " \x7b"⟩).deepen
  have hne : "return \"" ++ withoutBackticks name ++ "\"" ≠ "" := fun h =>
    absurd (String.append_eq_empty_iff.mp h).2 (by decide)
  have hbody : Gives (line ("return \"" ++ withoutBackticks name ++ "\"")) ⟨q, n, e⟩
      (q.indent.Fits q.level) () ⟨q.putAll [⟨0, "return \"" ++ withoutBackticks name ++ "\""⟩], n, e⟩ :=
    gives_line hne
  refine (gives_block (by decide) hbody).congr ?_
  rw [keyLines, hasRoom_block (by decide), Printer.hasRoom_cons]
  simp [q, hne, Printer.hasRoom_nil]

theorem append_ne {a b : String} (h : a ≠ "") : a ++ b ≠ "" :=
  fun hab => h (String.append_eq_empty_iff.mp hab).1

theorem boxed_ne (name type : String) : boxed name type ≠ "" :=
  append_ne (append_ne (append_ne (append_ne (by decide))))

theorem optionalText_ne (name : String) : optionalText name ≠ "" := append_ne (append_ne (by decide))

theorem scalarLine_ne (kind : ScalarKind) (isOptional : Bool) (name scalar : String) :
    scalarLine kind isOptional name scalar ≠ "" := by
  have hvar (rest : String) : "dynamic var " ++ name ++ rest ≠ "" :=
    append_ne (append_ne (by decide))
  cases kind with
  | custom => cases isOptional <;> exact append_ne (by decide)
  | string | id =>
    cases isOptional with
    | true => exact optionalText_ne name
    | false => exact hvar _
  | _ =>
    cases isOptional with
    | true => exact boxed_ne name _
    | false => exact hvar _

theorem propertyLine?_ne (c : Classified) (name type declared : String)
    (h : propertyLine? c name type = some declared) : declared ≠ "" := by
  simp only [propertyLine?] at h
  split at h
  · obtain rfl := Option.some.inj h
    exact append_ne (append_ne (append_ne (append_ne (by decide))))
  · split at h
    · obtain rfl := Option.some.inj h
      exact append_ne (append_ne (append_ne (append_ne (by decide))))
    · obtain rfl := Option.some.inj h
      exact optionalText_ne name
    · obtain rfl := Option.some.inj h
      exact scalarLine_ne _ _ _ _
    · cases h

theorem gives_orRoot (naming : TypeNaming) (t : TypeRef) (s : Session) (h : naming.Names t) :
    Gives (naming.orRoot t.classified (some (naming.rootName t))) s True (naming.rootName t) s := by
  have hroot : naming.root t.classified = .ok (naming.rootName t) := by
    have := (naming.rootOf_eq_ok_iff t _).mpr ⟨h, rfl⟩
    rwa [TypeNaming.rootOf, classify_of_isOutput h.1] at this
  by_cases hempty : naming.rootName t = ""
  · rw [hempty] at hroot ⊢
    simp only [TypeNaming.orRoot, hroot]
    exact gives_pure _ _
  · simp only [TypeNaming.orRoot]
    exact gives_pure _ _

theorem gives_printProperty (naming : TypeNaming) (t : TypeRef) (name : String)
    (h : naming.Names t) :
    Gives (printProperty naming t.classified name (some (naming.rootName t))) ⟨p, n, e⟩
      (p.HasRoom (propertyLines naming t name)) ()
      ⟨p.putAll (propertyLines naming t name), n, e⟩ := by
  refine (gives_orRoot naming t ⟨p, n, e⟩ h).use ?_
  cases hline : propertyLine? t.classified name (naming.rootName t) with
  | none =>
    simp only [propertyLines, hline]
    exact (gives_pure () _).congr (by simp [Printer.HasRoom])
  | some declared =>
    have hne : declared ≠ "" := propertyLine?_ne _ _ _ _ hline
    have hdeclared := gives_line (p := p) (n := n) (e := e) hne
    simp only [propertyLines, hline, Printer.hasRoom_cons, Printer.putAll_cons, ne_eq, hne,
      not_false_eq_true, forall_const, Nat.add_zero]
    split
    · have hkey := gives_primaryKey (p := p.put ⟨0, declared⟩) (n := n) (e := e) name
      rw [Printer.hasRoom_congr (q := p) (p.put_indent _) (p.put_level _)] at hkey
      exact hdeclared.seq hkey
    · refine (hdeclared.seq (gives_pure () _)).congr ?_
      simp [Printer.hasRoom_nil]

end RealmModels.Swift
