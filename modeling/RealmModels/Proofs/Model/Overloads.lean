import Mathlib
import RealmModels.Proofs.Model.Memberwise

/-!
The initializers of a class are the memberwise one and those that are required. They are overloads of
one name, so that their parameters have to tell them apart.
-/

namespace RealmModels.Model

open GraphQL Swift Writing

def initializer? (text : String) : Option String :=
  (between? "public init(" ") \x7b" text).or (between? "required public init(" ") \x7b" text)

theorem initializer?_of_opens {starts : List String} {text : String} (h : Opens starts text)
    (hpublic : ∀ start ∈ starts, Apart "public init(" start)
    (hrequired : ∀ start ∈ starts, Apart "required public init(" start) :
    initializer? text = none := by
  rw [initializer?, between?, between?, h.after? hpublic, h.after? hrequired]
  rfl

theorem initializer?_heading (ps : List Parameter) :
    initializer? ("public " ++ heading ps ++ " \x7b") = some (parameterText ps) := by
  have hopen : "public " ++ "init(" = "public init(" := by decide
  have hclose : ")" ++ " \x7b" = ") \x7b" := by decide
  have hline : "public " ++ heading ps ++ " \x7b" = "public init(" ++ parameterText ps ++ ") \x7b" := by
    rewrite [heading, ← hopen, ← hclose]
    simp only [String.append_assoc]
  rw [initializer?, hline, between?_append]
  rfl

def requiredParameters : List (List Parameter) :=
  [[⟨"value", "Any", false⟩, ⟨"schema", "RLMSchema", false⟩], [],
    [⟨"realm", "RLMRealm", false⟩, ⟨"schema", "RLMObjectSchema", false⟩]]

def initializers (ps : List Parameter) : List (List Parameter) := ps :: requiredParameters

theorem scan_initializer?_requiredLines :
    Line.scan initializer? requiredLines = requiredParameters.map parameterText := by decide

theorem scan_initializer?_memberLines (style : Style) (name : String) (xs : List (Field × String))
    {members : List (Parameter × String)} (h : ∀ m ∈ members, Opens ["self."] m.2) :
    Line.scan initializer? (memberLines style name xs members) =
      (initializers (members.map Prod.fst)).map parameterText := by
  have hclass : initializer? (classHeader name ++ " \x7b") = none := by
    have hopens : Opens ["public final class "] (classHeader name ++ " \x7b") := by
      rewrite [classHeader_brace]
      exact Opens.of_mem (by decide) _
    exact initializer?_of_opens hopens (by decide) (by decide)
  have hfields : Line.scan initializer? (xs.flatMap fun x => fieldLines style x.1 x.2) = [] := by
    apply Line.scan_eq_nil
    intro l hl
    -- a mark or what stands for the property, and neither begins like an initializer
    obtain ⟨x, -, hx⟩ := List.mem_flatMap.mp hl
    rcases List.mem_append.mp hx with hx | hx
    · exact initializer?_of_opens (opens_markLines hx) (by decide) (by decide)
    · exact initializer?_of_opens (opens_propertyLines hx) (by decide) (by decide)
  have hbody : Line.scan initializer?
      ((members.map fun m => (⟨0, m.2⟩ : Line)) ++ [⟨0, "super.init()"⟩]) = [] := by
    apply Line.scan_eq_nil
    refine List.forall_mem_append.mpr ⟨?_, by decide⟩
    intro l hl
    obtain ⟨m, hm, rfl⟩ := List.mem_map.mp hl
    exact initializer?_of_opens (h m hm) (by decide) (by decide)
  have hbrace : initializer? "\x7d" = none := by decide
  have hblank : initializer? Line.blank.text = none := by decide
  rw [memberLines, scan_bracedLines hbrace, hclass, Line.scan_append, Line.scan_append, hfields,
    Line.scan_cons, hblank, scan_bracedLines hbrace, hbody, initializer?_heading,
    scan_initializer?_requiredLines]
  rfl

def neededObject? (t : TypeRef) : Option String :=
  if t.isNonNull && !t.hasList && t.leaf.kind == .object then some t.leaf.name else none

def IsClassName (type : String) : Prop :=
  before? "?" type = none ∧ after? "[" type = none ∧ type ∉ ["Bool", "Int", "Float", "String"]

instance (type : String) : Decidable (IsClassName type) := inferInstanceAs (Decidable (_ ∧ _ ∧ _))

theorem root_of_isStored {n : TypeNaming} {c : Classified} {root : String}
    (hroot : n.root c = .ok root) (hstored : isStored c = true) (hlist : c.isList = false) :
    if c.shape = .object then root = c.typeName else root ∈ ["Bool", "Int", "Float", "String"] := by
  rw [isStored, hlist] at hstored
  rw [TypeNaming.root] at hroot
  cases hshape : c.shape with
  | object =>
    rw [hshape] at hroot
    simpa using (Except.ok.inj hroot).symm
  | enum =>
    rw [hshape] at hroot
    simp [← Except.ok.inj hroot]
  | abstract => simp [hshape] at hstored
  | scalar kind =>
    rw [hshape] at hroot
    cases kind with
    | custom => simp [Classified.isUncaught, hshape] at hstored
    | _ => simp [← Except.ok.inj hroot]

theorem isNonNull_of_mark {name type : String} {isNonNull : Bool}
    (h : optionalMark (!isNonNull) name = type) (htype : before? "?" type = none) :
    isNonNull = true := by
  cases isNonNull with
  | true => rfl
  | false =>
    have hmark : optionalMark (!false) name = name ++ "?" := rfl
    rw [← h, hmark, before?_append] at htype
    cases htype

theorem depth_of_bracketed {k : ℕ} {name type : String} (h : bracketed k name = type)
    (htype : after? "[" type = none) : k = 0 := by
  cases k with
  | zero => rfl
  | succ k =>
    rw [← h, bracketed, String.append_assoc, after?_append] at htype
    cases htype

theorem shape_eq_object_iff (t : TypeRef) : t.classified.shape = .object ↔ t.leaf.kind = .object := by
  have hshape : t.classified.shape = t.leaf.shape?.getD .abstract := rfl
  rw [hshape, Named.shape?]
  cases t.leaf.kind <;> simp

theorem fullName_eq_iff {n : TypeNaming} {t : TypeRef} (h : n.Names t)
    (hstored : isStored t.classified = true) {type : String} (htype : IsClassName type) :
    n.fullName true t = type ↔ neededObject? t = some type := by
  obtain ⟨hmark, hbracket, hbuiltin⟩ := htype
  have hlist : t.hasList = decide (t.listDepth ≠ 0) := t.hasList_eq
  have hsame : t.classified.isList = t.hasList := rfl
  have hleaf : t.classified.typeName = t.leaf.name := rfl
  rw [TypeNaming.fullName_eq h, neededObject?, Bool.true_and]
  constructor
  · intro hfull
    have hneeded := isNonNull_of_mark hfull hmark
    rw [hneeded] at hfull
    have hdepth : t.listDepth = 0 := depth_of_bracketed hfull hbracket
    have hname : n.rootName t = type := by rwa [hdepth] at hfull
    have hsingle : t.classified.isList = false := by simp [hsame, hlist, hdepth]
    have hroot := root_of_isStored (TypeNaming.rootOf_eq h) hstored hsingle
    split at hroot
    · next hobject =>
      have hkind := (shape_eq_object_iff t).mp hobject
      simp [hneeded, hlist, hdepth, hkind, ← hname, hroot, hleaf]
    · rw [hname] at hroot
      exact absurd hroot hbuiltin
  · intro hobject
    obtain ⟨hneeds, hname⟩ := Option.ite_none_right_eq_some.mp hobject
    obtain ⟨⟨hneeded, hsingle⟩, hkind⟩ : (t.isNonNull = true ∧ t.hasList = false) ∧
        t.leaf.kind = .object := by simpa using hneeds
    have hdepth : t.listDepth = 0 := by simpa [hsingle] using hlist
    have hroot := root_of_isStored (TypeNaming.rootOf_eq h) hstored (hsame.trans hsingle)
    rw [if_pos ((shape_eq_object_iff t).mpr hkind), hleaf, Option.some.inj hname] at hroot
    rw [hneeded, hdepth, hroot]
    rfl

theorem map_eq_map_iff {α β γ δ : Type} {f : α → γ} {g : β → γ} {f' : α → δ} {g' : β → δ}
    {as : List α} {bs : List β} (h : ∀ a ∈ as, ∀ b ∈ bs, f a = g b ↔ f' a = g' b) :
    as.map f = bs.map g ↔ as.map f' = bs.map g' := by
  induction as generalizing bs with
  | nil => simp
  | cons a as ih =>
    cases bs with
    | nil => simp
    | cons b bs =>
      have hrest := ih fun a' ha' b' hb' =>
        h a' (List.mem_cons_of_mem _ ha') b' (List.mem_cons_of_mem _ hb')
      simp only [List.map_cons, List.cons.injEq, hrest,
        h a List.mem_cons_self b List.mem_cons_self]

def signature (ps : List Parameter) : List (String × String) := ps.map fun q => (q.label, q.type)

/-- The stored properties are named and typed like the parameters of a required initializer. -/
def RepeatsRequired (xs : List (Field × String)) : Prop :=
  ∃ ps ∈ requiredParameters, (storedFields xs).map (fun x => (x.2, neededObject? x.1.type)) =
    ps.map fun q => (q.label, some q.type)

instance (xs : List (Field × String)) : Decidable (RepeatsRequired xs) :=
  inferInstanceAs (Decidable (∃ _ ∈ _, _))

theorem nodup_initializers_iff {n : TypeNaming} {xs : List (Field × String)}
    (hxs : ∀ x ∈ xs, n.Names x.1.type) :
    ((initializers ((storedFields xs).map (parameterOf n))).map signature).Nodup ↔
      ¬ RepeatsRequired xs := by
  have hrequired : (requiredParameters.map signature).Nodup := by decide
  have hclasses : ∀ ps ∈ requiredParameters, ∀ q ∈ ps, IsClassName q.type := by decide
  rw [initializers, List.map_cons, List.nodup_cons, and_iff_left hrequired, not_iff_not, List.mem_map,
    RepeatsRequired]
  apply exists_congr
  intro ps
  apply and_congr_right
  intro hps
  rw [eq_comm, signature, signature, List.map_map]
  apply map_eq_map_iff
  intro x hx q hq
  obtain ⟨hmem, hstored⟩ := List.mem_filter.mp hx
  have htype := fullName_eq_iff (hxs x hmem) hstored (hclasses ps hps q hq)
  simp [parameterOf, htype]

/-- The initializers of a class are told apart by their parameters unless its stored properties, of
which there may be none, are just those that a required initializer has as parameters. -/
theorem initializers_distinct_iff {style : Style} (hon : style.initializers = true) (name : String)
    (fs : List Field) (s : Session) :
    (ClassFits style s.printer fs → ∃ t, declareClass style name (some fs) s = .ok () t) ∧
    ∀ t, declareClass style name (some fs) s = .ok () t →
      ∃ (names : List String) (members : List (Parameter × String)),
        PrintsMembers style name fs s t names members ∧
        members.map Prod.fst = (storedFields (fs.zip names)).map (parameterOf style.typeNaming) ∧
        Line.scan initializer? (memberLines style name (fs.zip names) members) =
          (initializers (members.map Prod.fst)).map parameterText ∧
        (((initializers (members.map Prod.fst)).map signature).Nodup ↔
          ¬ RepeatsRequired (fs.zip names)) := by
  refine ⟨fun h => h.declareClass name, fun t hrun => ?_⟩
  have hmembers : ((storedFields (namedFields fs)).map (memberOf style)).map Prod.fst =
      (storedFields (namedFields fs)).map (parameterOf style.typeNaming) := by
    rw [List.map_map]
    rfl
  refine ⟨_, _, printsMembers hon hrun, ?_, ?_, ?_⟩
  · rw [zip_namedFields]
    exact hmembers
  · apply scan_initializer?_memberLines
    intro m hm
    obtain ⟨x, -, rfl⟩ := List.mem_map.mp hm
    exact opens_assignment _ _
  · rw [zip_namedFields, hmembers]
    exact nodup_initializers_iff fun x hx => names_namedFields hrun hx

theorem band_initializers_distinct :
    ∃ (t : Session) (names : List String) (members : List (Parameter × String)),
      declareClass { initializers := true } "Band" (some band) Settings.default.session = .ok () t ∧
      PrintsMembers { initializers := true } "Band" band Settings.default.session t names members ∧
      ((initializers (members.map Prod.fst)).map signature).Nodup := by
  let style : Style := { initializers := true }
  have hon : style.initializers = true := rfl
  obtain ⟨hwritten, hmembers⟩ := initializers_distinct_iff hon "Band" band Settings.default.session
  obtain ⟨t, hrun⟩ := hwritten classFits_band
  obtain ⟨names, members, hprints, -, -, hdistinct⟩ := hmembers t hrun
  refine ⟨t, names, members, hrun, hprints, hdistinct.mpr ?_⟩
  rw [zip_of_answers hprints.named]
  decide

def leaf : List Field := [⟨"node", .named ⟨"Node", .interface⟩, [], .absent, .absent⟩]

theorem leaf_initializers_repeat :
    ∃ (t : Session) (ls : List Line),
      declareClass { initializers := true } "Leaf" (some leaf) Settings.default.session = .ok () t ∧
      t.printer = Settings.default.session.printer.putAll ls ∧
      (Line.scan initializer? ls).count "" = 2 := by
  have hfits : ClassFits { initializers := true } Settings.default.session.printer leaf :=
    ⟨by decide, by decide, rfl⟩
  obtain ⟨t, hrun⟩ := hfits.declareClass "Leaf"
  obtain ⟨-, -, rfl⟩ := (gives_declareClass _ _ _ () t).mp hrun
  refine ⟨_, classLines { initializers := true } "Leaf" leaf, hrun, rfl, ?_⟩
  have hstored : storedFields (namedFields leaf) = [] := by decide
  rw [classLines_eq_memberLines rfl, hstored, List.map_nil,
    scan_initializer?_memberLines _ _ _ (List.forall_mem_nil _)]
  decide

end RealmModels.Model
