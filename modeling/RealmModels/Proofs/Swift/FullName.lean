import Mathlib
import RealmModels.GraphQL.Token
import RealmModels.Proofs.Printer.Scan
import RealmModels.Proofs.Swift.TypeName

namespace RealmModels.GraphQL

def TypeRef.listDepth : TypeRef → ℕ
  | named _ => 0
  | list item => item.listDepth + 1
  | nonNull inner => inner.listDepth

theorem TypeRef.hasList_eq (t : TypeRef) : t.hasList = decide (t.listDepth ≠ 0) := by
  induction t with
  | named type => rfl
  | list item ih => simp [hasList, listDepth]
  | nonNull inner ih => exact ih

theorem isNameContinue_of_isName {s : String} (h : isName s = true) :
    ∀ c ∈ s.toList, isNameContinue c = true := by
  rw [isName] at h
  cases hs : s.toList with
  | nil => exact List.forall_mem_nil _
  | cons c cs =>
    obtain ⟨hc, hcs⟩ : isNameStart c = true ∧ ∀ d ∈ cs, isNameContinue d = true := by
      simpa [hs] using h
    exact List.forall_mem_cons.mpr ⟨by rw [isNameContinue, hc, Bool.true_or], hcs⟩

theorem exists_last_of_isName {s : String} (h : isName s = true) :
    ∃ c, s.toList.getLast? = some c ∧ isNameContinue c = true := by
  have hne : s.toList ≠ [] := by
    intro hs
    simp [isName, hs] at h
  exact ⟨_, List.getLast?_eq_some_getLast hne, isNameContinue_of_isName h _ (List.getLast_mem hne)⟩

end RealmModels.GraphQL

namespace RealmModels.Swift

open GraphQL

def bracketed : ℕ → String → String
  | 0, type => type
  | k + 1, type => "[" ++ bracketed k type ++ "]"

theorem toList_bracketed (k : ℕ) (type : String) :
    (bracketed k type).toList = List.replicate k '[' ++ type.toList ++ List.replicate k ']' := by
  induction k with
  | zero => simp [bracketed]
  | succ k ih =>
    rw [bracketed, String.toList_append, String.toList_append, ih, List.replicate_succ,
      List.replicate_succ' (a := ']')]
    simp

theorem length_bracketed (k : ℕ) (type : String) :
    (bracketed k type).length = type.length + 2 * k := by
  induction k with
  | zero => rfl
  | succ k ih =>
    have hopen : "[".length = 1 := rfl
    have hclose : "]".length = 1 := rfl
    rw [bracketed, String.length_append, String.length_append, ih, hopen, hclose]
    omega

theorem bracketed_injective {k : ℕ} {type : String} (h : bracketed k type = type) : k = 0 := by
  have hlength := congrArg String.length h
  rw [length_bracketed] at hlength
  omega

def unmarked (type : String) : String := (before? "?" type).getD type

theorem before?_mark_of_last {type : String} {c : Char} (h : type.toList.getLast? = some c)
    (hc : c ≠ '?') : before? "?" type = none := by
  rw [Option.eq_none_iff_forall_ne_some]
  intro front hfront
  obtain rfl := (before?_eq_some_iff _ _ _).mp hfront
  rw [String.toList_append, List.getLast?_append] at h
  exact hc (Option.some.inj h).symm

theorem before?_mark_bracketed {k : ℕ} {type : String} (h : before? "?" type = none) :
    before? "?" (bracketed k type) = none := by
  cases k with
  | zero => exact h
  | succ k =>
    apply before?_mark_of_last (c := ']')
    · rw [bracketed, String.toList_append, List.getLast?_append]
      rfl
    · decide

theorem before?_optionalMark {type : String} (h : before? "?" type = none) (isOptional : Bool) :
    (before? "?" (optionalMark isOptional type)).isSome = isOptional ∧
      unmarked (optionalMark isOptional type) = type := by
  cases isOptional with
  | true => simp [optionalMark, unmarked, before?_append]
  | false => simp [optionalMark, unmarked, h]

namespace TypeNaming

variable {n : TypeNaming} {t : TypeRef}

theorem rootOf_eq (h : n.Names t) : n.root t.classified = .ok (n.rootName t) := by
  have hroot := (n.rootOf_eq_ok_iff t _).mpr ⟨h, rfl⟩
  rwa [rootOf, classify_of_isOutput h.1] at hroot

theorem rootOf_leaf (n : TypeNaming) (t : TypeRef) : n.rootOf (.named t.leaf) = n.rootOf t := by
  by_cases h : t.IsOutput
  · have hleaf : (TypeRef.named t.leaf).IsOutput := h
    rw [rootOf, rootOf, classify_of_isOutput h, classify_of_isOutput hleaf]
    rfl
  · have hleaf : ¬ (TypeRef.named t.leaf).IsOutput := h
    rw [rootOf, rootOf, classify_of_not_isOutput h, classify_of_not_isOutput hleaf]
    rfl

theorem full_eq (n : TypeNaming) (isOptional : Bool) (t : TypeRef) :
    n.full isOptional t = (n.rootOf t).map fun root =>
      optionalMark (isOptional && !t.isNonNull) (bracketed t.listDepth root) := by
  induction t generalizing isOptional with
  | named type =>
    have hmark : (isOptional && !(TypeRef.named type).isNonNull) = isOptional := Bool.and_true _
    rw [full, hmark]
    cases n.rootOf (.named type) <;> rfl
  | list item ih =>
    have hmark : (isOptional && !(TypeRef.list item).isNonNull) = isOptional := Bool.and_true _
    have hroot : n.rootOf (.list item) = n.rootOf item := by
      rw [← rootOf_leaf, ← n.rootOf_leaf item, TypeRef.leaf]
    rw [full, ih, hroot, hmark, Bool.false_and]
    cases n.rootOf item <;> rfl
  | nonNull inner ih =>
    have hmark : (isOptional && !(TypeRef.nonNull inner).isNonNull) = false := Bool.and_false _
    have hroot : n.rootOf (.nonNull inner) = n.rootOf inner := by
      rw [← rootOf_leaf, ← n.rootOf_leaf inner, TypeRef.leaf]
    rw [full, ih, hroot, hmark, Bool.false_and]
    rfl

theorem fullName_eq (h : n.Names t) (isOptional : Bool) :
    n.fullName isOptional t =
      optionalMark (isOptional && !t.isNonNull) (bracketed t.listDepth (n.rootName t)) := by
  rw [fullName, full_eq, (n.rootOf_eq_ok_iff t _).mpr ⟨h, rfl⟩]
  rfl

theorem root_cases {c : Classified} {root : String} (h : n.root c = .ok root) :
    root ∈ ["Bool", "Int", "Float", "String"] ∨
      ∃ start, (start = "" ∨ n.customPrefix = some start) ∧ root = start ++ c.typeName := by
  rw [TypeNaming.root] at h
  cases hshape : c.shape with
  | object | abstract =>
    rw [hshape] at h
    refine .inr ⟨"", .inl rfl, ?_⟩
    rw [← Except.ok.inj h, String.empty_append]
  | enum =>
    rw [hshape] at h
    simp [← Except.ok.inj h]
  | scalar kind =>
    rw [hshape] at h
    cases kind with
    | custom =>
      simp only [builtinName?] at h
      split at h
      · cases hstart : n.customPrefix with
        | none => simp [hstart] at h
        | some start =>
          rw [hstart] at h
          exact .inr ⟨start, .inr rfl, (Except.ok.inj h).symm⟩
      · simp [← Except.ok.inj h]
    | _ => simp [← Except.ok.inj h]

theorem before?_mark_rootName (h : n.Names t) (hname : isName t.leaf.name = true) :
    before? "?" (n.rootName t) = none := by
  have htype : t.classified.typeName = t.leaf.name := rfl
  rcases root_cases (rootOf_eq h) with hbuiltin | ⟨start, -, hroot⟩
  · have hunmarked : ∀ type ∈ ["Bool", "Int", "Float", "String"], before? "?" type = none := by
      decide
    exact hunmarked _ hbuiltin
  · obtain ⟨c, hlast, hc⟩ := exists_last_of_isName hname
    have hmark : c ≠ '?' := by
      rintro rfl
      exact absurd hc (by decide)
    rw [hroot, htype]
    apply before?_mark_of_last _ hmark
    rw [String.toList_append, List.getLast?_append, hlast]
    rfl

theorem mark_fullName (h : n.Names t) (hname : isName t.leaf.name = true) :
    (before? "?" (n.fullName true t)).isSome = !t.isNonNull ∧
      unmarked (n.fullName true t) = bracketed t.listDepth (n.rootName t) := by
  rw [fullName_eq h]
  apply before?_optionalMark
  apply before?_mark_bracketed
  exact before?_mark_rootName h hname

theorem mark_not_mem_name {s : String} (h : isName s = true) : '?' ∉ s.toList :=
  fun hmem => absurd (isNameContinue_of_isName h '?' hmem) (by decide)

theorem mark_mem_root_iff {c : Classified} (hname : isName c.typeName = true) {start root : String}
    (hstart : n.customPrefix = some start) (hroot : n.root c = .ok root) :
    '?' ∈ root.toList ↔
      c.shape = .scalar .custom ∧ n.passthrough = true ∧ '?' ∈ start.toList := by
  have hclean := mark_not_mem_name hname
  rw [TypeNaming.root] at hroot
  cases hshape : c.shape with
  | object | abstract =>
    rw [hshape] at hroot
    simp [← Except.ok.inj hroot, hclean]
  | enum =>
    rw [hshape] at hroot
    simp [← Except.ok.inj hroot]
  | scalar kind =>
    rw [hshape] at hroot
    cases kind with
    | custom =>
      simp only [builtinName?, hstart] at hroot
      by_cases hpass : n.passthrough = true
      · rw [if_pos hpass] at hroot
        simp [← Except.ok.inj hroot, hclean, hpass]
      · rw [if_neg hpass] at hroot
        simp [← Except.ok.inj hroot, hpass]
    | _ => simp [← Except.ok.inj hroot]

/-- The full type of an output type is its root in the brackets of all its lists, and ends in a
question mark just if it is optional and its outermost layer is no non-null mark. The root is that of
the named type alone, and the only question marks inside are those that a prefix has brought into it. -/
theorem full_is_bracketed_root (n : TypeNaming) {t : TypeRef} (h : t.IsOutput)
    (hname : isName t.leaf.name = true) {start : String} (hstart : n.customPrefix = some start)
    (isOptional : Bool) :
    ∃ root type, n.rootOf (.named t.leaf) = .ok root ∧ n.rootOf t = .ok root ∧
      n.full isOptional t = .ok type ∧
      type.toList = List.replicate t.listDepth '[' ++ root.toList ++ List.replicate t.listDepth ']' ++
        (if isOptional && !t.isNonNull then ['?'] else []) ∧
      ((∃ front, type = front ++ "?") ↔ isOptional = true ∧ t.isNonNull = false) ∧
      ('?' ∈ root.toList ↔
        t.leaf.shape? = some (.scalar .custom) ∧ n.passthrough = true ∧ '?' ∈ start.toList) := by
  have hnames : n.Names t := ⟨h, fun _ _ => by rw [hstart]; rfl⟩
  have hroot : n.rootOf t = .ok (n.rootName t) := (n.rootOf_eq_ok_iff t _).mpr ⟨hnames, rfl⟩
  let type := optionalMark (isOptional && !t.isNonNull) (bracketed t.listDepth (n.rootName t))
  have hfull : n.full isOptional t = .ok type := by
    rw [full_eq, hroot]
    rfl
  have hunmarked := before?_mark_bracketed (k := t.listDepth) (before?_mark_rootName hnames hname)
  refine ⟨n.rootName t, type, (n.rootOf_leaf t).trans hroot, hroot, hfull, ?_, ?_, ?_⟩
  · rw [← toList_bracketed]
    cases hmark : isOptional && !t.isNonNull <;> simp [type, optionalMark, hmark]
  · have hmark := (before?_optionalMark hunmarked (isOptional && !t.isNonNull)).1
    simp only [← before?_eq_some_iff, ← Option.isSome_iff_exists]
    rw [hmark, Bool.and_eq_true, Bool.not_eq_true']
  · have hshape : t.classified.shape = .scalar .custom ↔ t.leaf.shape? = some (.scalar .custom) := by
      cases hs : t.leaf.shape? <;> simp [TypeRef.classified, hs]
    rw [mark_mem_root_iff hname hstart (rootOf_eq hnames), hshape]

def marking : TypeNaming := { passthrough := true, customPrefix := some "?" }

def datesByWeek : TypeRef := .nonNull (.list (.list (.named ⟨"Date", .scalar⟩)))

theorem datesByWeek_bracketed :
    datesByWeek.IsOutput ∧ isName datesByWeek.leaf.name = true ∧ marking.customPrefix = some "?" ∧
    ∃ root type, marking.rootOf datesByWeek = .ok root ∧ marking.full true datesByWeek = .ok type ∧
      type.toList = ['[', '['] ++ root.toList ++ [']', ']'] ∧ (¬∃ front, type = front ++ "?") ∧
      '?' ∈ root.toList := by
  have houtput : datesByWeek.IsOutput := by decide
  have hname : isName datesByWeek.leaf.name = true := by decide
  obtain ⟨root, type, -, hroot, hfull, htext, hmark, hinside⟩ :=
    full_is_bracketed_root marking houtput hname rfl true
  refine ⟨houtput, hname, rfl, root, type, hroot, hfull, ?_, ?_, hinside.mpr ⟨rfl, rfl, by decide⟩⟩
  · rw [htext]
    exact List.append_nil _
  · rw [hmark]
    exact fun h => absurd h.2 (by decide)

theorem mark_inside_brackets :
    ∃ inside, marking.full true (.list (.named ⟨"Date", .scalar⟩)) = .ok ("[" ++ inside ++ "]?") ∧
      '?' ∈ inside.toList := ⟨"?Date", rfl, by decide⟩

end TypeNaming

end RealmModels.Swift
