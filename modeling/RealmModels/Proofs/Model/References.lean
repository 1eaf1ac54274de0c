import Mathlib
import RealmModels.Proofs.Model.Memberwise
import RealmModels.Proofs.Model.Totality

/-!
The classes that declarations name. A class of that name is in the same source, unless the type gets
no model: an object type of introspection, or an interface or a union, which only a list can hold.
-/

namespace RealmModels

namespace GraphQL

def Kind.isComposite : Kind → Bool
  | .object | .interface | .union => true
  | _ => false

/-- Each type that a field of a model refers to is listed, and has the kind that it is taken for. -/
def Schema.Closed (s : Schema) : Prop :=
  ∀ m ∈ s.models, ∀ f ∈ m.fields, ∃ t ∈ s.types, t.named = f.type.leaf

/-- A declaration of this type names a class that is not there. -/
def TypeRef.Dangles (t : TypeRef) : Prop :=
  if t.leaf.kind = .object then isIntrospectionName t.leaf.name = true else t.hasList = true

instance (t : TypeRef) : Decidable t.Dangles := by
  unfold TypeRef.Dangles
  infer_instance

theorem TypeDef.name_of_model? {t : TypeDef} {m : ObjectType} (h : t.model? = some m) :
    m.name = t.name := (fields?_of_model? h).1

theorem TypeDef.isSome_model?_iff (t : TypeDef) :
    t.model?.isSome = true ↔ t.kind = .object ∧ isIntrospectionName t.name = false := by
  obtain ⟨name, body⟩ := t
  cases body with
  | object interfaces fields =>
    cases h : isIntrospectionName name <;> simp [model?, kind, Body.kind, h]
  | _ => simp [model?, kind, Body.kind]

theorem Schema.Keyed.mem_models_iff {s : Schema} (h : s.Keyed) {t : TypeDef} (ht : t ∈ s.types) :
    t.name ∈ s.models.map ObjectType.name ↔
      t.kind = .object ∧ isIntrospectionName t.name = false := by
  rw [← t.isSome_model?_iff]
  constructor
  · intro hname
    obtain ⟨m, hm, hname⟩ := List.mem_map.mp hname
    obtain ⟨t', ht', hmodel⟩ := List.mem_filterMap.mp hm
    have hsame : t'.name = t.name := (TypeDef.name_of_model? hmodel).symm.trans hname
    obtain rfl := List.inj_on_of_nodup_map h.types ht' ht hsame
    exact Option.isSome_of_eq_some hmodel
  · intro hmodel
    obtain ⟨m, hm⟩ := Option.isSome_iff_exists.mp hmodel
    refine List.mem_map.mpr ⟨m, List.mem_filterMap.mpr ⟨t, ht, hm⟩, ?_⟩
    exact TypeDef.name_of_model? hm

end GraphQL

namespace Model

open GraphQL Swift Writing

variable {settings : Settings} {s : Schema} {w t : Session}

def Holding.named? : Holding → Option String
  | list item => some item
  | value type => some type
  | box _ => none

def reference? (text : String) : Option (String × String) :=
  (declaredName? text).bind fun name =>
    ((holding? name text).bind Holding.named?).map fun type => (name, type)

def openedName? (text : String) : Option String := (openedClass? text).bind (before? ": Object \x7b")

theorem IsQuiet.reference? {text : String} (h : IsQuiet text) : reference? text = none := by
  rw [Model.reference?, h.declaredName?]
  rfl

theorem scan_openedName?_sourceLines (settings : Settings) (s : Schema) :
    Line.scan openedName? (sourceLines settings.style s) = s.models.map ObjectType.name := by
  have hopened : Line.scan openedName? (sourceLines settings.style s) =
      (Line.scan openedClass? (sourceLines settings.style s)).filterMap (before? ": Object \x7b") :=
    List.filterMap_filterMap.symm
  rw [hopened, scan_sourceLines (fun _ h => h.openedClass?) (isQuiet_namespace settings)]
  simp only [scan_openedClass?_classLines, List.filterMap_flatMap, List.filterMap_cons,
    before?_append, List.filterMap_nil]
  exact List.map_eq_flatMap.symm

theorem scan_propertyLines_of_quiet {α : Type} {g : String → Option α}
    (hg : ∀ text, IsQuiet text → g text = none) (n : TypeNaming) (t : TypeRef) (name : String) :
    Line.scan g (propertyLines n t name) =
      ((propertyLine? t.classified name (n.rootName t)).bind g).toList := by
  rw [propertyLines]
  cases propertyLine? t.classified name (n.rootName t) with
  | none => rfl
  | some declared =>
    have hkey : Line.scan g (if isPrimaryKey t.classified then keyLines name else []) = [] := by
      split
      · exact scan_of_allQuiet hg (allQuiet_keyLines name)
      · rfl
    rw [Line.scan_cons, hkey, List.append_nil]
    rfl

theorem bind_reference? {n : TypeNaming} {t : TypeRef} {name : String} (hnames : n.Names t)
    (hname : ∀ c ∈ name.toList, isInName c = true) :
    (propertyLine? t.classified name (n.rootName t)).bind reference? =
      if isStored t.classified then
        (heldAs t.classified (n.rootName t)).named?.map fun type => (name, type)
      else none := by
  cases hstored : isStored t.classified with
  | true =>
    obtain ⟨declared, hline, hheld⟩ := exists_holding (TypeNaming.rootOf_eq hnames) hstored name
    obtain ⟨line, hline', hdeclares⟩ := isDeclaration_of_isStored name (n.rootName t) hstored
    obtain rfl := Option.some.inj (hline.symm.trans hline')
    rw [hline, Option.bind_some, reference?, hdeclares.declaredName? hname, Option.bind_some, hheld]
    rfl
  | false =>
    rw [propertyLine?_of_not_isStored name (n.rootName t) hstored]
    have hmarked : reference? ("UNCAUGHT SCALAR " ++ t.classified.typeName) = none := by
      rw [reference?, declaredName?_of_apart (by decide) (by decide)]
      rfl
    cases t.classified.isUncaught with
    | true => exact hmarked
    | false => rfl

theorem named?_heldAs {n : TypeNaming} {t : TypeRef} (hnames : n.Names t)
    (hkind : t.leaf.kind.isComposite = true) :
    (heldAs t.classified (n.rootName t)).named? = some t.leaf.name := by
  have hshape : t.classified.shape = .object ∨ t.classified.shape = .abstract := by
    change t.leaf.shape?.getD .abstract = _ ∨ t.leaf.shape?.getD .abstract = _
    cases hk : t.leaf.kind <;> simp [Named.shape?, hk, Kind.isComposite] at hkind ⊢
  have hroot : n.rootName t = t.leaf.name := by
    have hleaf : n.root t.classified = .ok t.leaf.name := by
      rw [TypeNaming.root]
      rcases hshape with h | h <;> (rw [h]; rfl)
    exact Except.ok.inj ((TypeNaming.rootOf_eq hnames).symm.trans hleaf)
  have hboxed : isBoxed t.classified = false := by
    rcases hshape with h | h <;> simp [isBoxed, h]
  rw [heldAs, hboxed, hroot]
  split <;> rfl

theorem isStored_of_isComposite {t : TypeRef} (hkind : t.leaf.kind.isComposite = true) :
    isStored t.classified = true ↔ t.leaf.kind = .object ∨ t.hasList = true := by
  have hlist : t.classified.isList = t.hasList := rfl
  have hshape : t.classified.shape = t.leaf.shape?.getD .abstract := rfl
  cases hk : t.leaf.kind <;>
    simp [isStored, Classified.isUncaught, hlist, hshape, Named.shape?, hk, Kind.isComposite]
      at hkind ⊢

def references (style : Style) (m : ObjectType) : List (String × String) :=
  Line.scan reference? (classLines style m.name m.fields)

theorem nodup_namedFields {fs : List Field} (h : (fs.map Field.name).Nodup) :
    ((namedFields fs).map Prod.snd).Nodup := by
  refine List.Nodup.of_map unquoted ?_
  rw [List.map_map]
  exact nodup_unquoted_namedFields h

theorem mem_references_iff {style : Style} {m : ObjectType} (hfields : (m.fields.map Field.name).Nodup)
    (hnames : ∀ x ∈ namedFields m.fields, style.typeNaming.Names x.1.type) {x : Field × String}
    (hx : x ∈ namedFields m.fields) (hkind : x.1.type.leaf.kind.isComposite = true) (type : String) :
    (x.2, type) ∈ references style m ↔
      isStored x.1.type.classified = true ∧ type = x.1.type.leaf.name := by
  have hopen : reference? (classHeader m.name ++ " \x7b") = none := by
    rw [reference?, classHeader_brace, declaredName?_of_apart (by decide) (by decide)]
    rfl
  have hreference {y : Field × String} (hy : y ∈ namedFields m.fields) :=
    bind_reference? (hnames y hy) (isInName_namedFields hy)
  rw [references, scan_classLines (fun _ h => h.reference?), hopen, Option.toList_none, List.nil_append,
    List.mem_flatMap]
  constructor
  · rintro ⟨y, hy, hmem⟩
    rw [scan_propertyLines_of_quiet (fun _ h => h.reference?), hreference hy, Option.mem_toList] at hmem
    split at hmem
    · next hstored =>
      obtain ⟨found, hfound, heq⟩ := Option.map_eq_some_iff.mp hmem
      obtain ⟨hname, rfl⟩ := Prod.mk.inj heq
      -- the names of properties are distinct, so that the line is that of the field itself
      obtain rfl := List.inj_on_of_nodup_map (nodup_namedFields hfields) hy hx hname
      rw [named?_heldAs (hnames y hy) hkind] at hfound
      exact ⟨hstored, (Option.some.inj hfound).symm⟩
    · cases hmem
  · rintro ⟨hstored, rfl⟩
    refine ⟨x, hx, ?_⟩
    rw [scan_propertyLines_of_quiet (fun _ h => h.reference?), hreference hx, if_pos hstored,
      named?_heldAs (hnames x hx) hkind]
    exact List.mem_singleton_self _

theorem site?_checkNamespace {v : Json} {reserved : List String} {ws : List Warning}
    (h : Settings.checkNamespace v reserved = .ok ws) : ws.filterMap Warning.site? = [] := by
  cases v with
  | null =>
    obtain rfl := Except.ok.inj h
    rfl
  | str name =>
    obtain rfl := Except.ok.inj h
    split
    · rfl
    · split <;> rfl
  | _ => cases h

theorem site?_checkIndent {v : Json} {ws : List Warning} (h : Settings.checkIndent v = .ok ws) :
    ws.filterMap Warning.site? = [] := by
  unfold Settings.checkIndent at h
  extract_lets small at h
  cases hsmall : small with
  | none =>
    rw [hsmall] at h
    cases h
  | some isSmall =>
    rw [hsmall] at h
    cases isSmall with
    | false =>
      obtain rfl := Except.ok.inj h
      rfl
    | true =>
      dsimp only at h
      split at h
      · obtain rfl := Except.ok.inj h
        rfl
      · cases h

theorem site?_settingsWarnings {ws : List Warning} (h : settingsWarnings settings = .ok ws) :
    ws.filterMap Warning.site? = [] := by
  have hcheck : settings.check reservedWords = .ok ws := by
    rw [settingsWarnings] at h
    split at h
    · next ws' hws =>
      obtain rfl := Except.ok.inj h
      exact hws
    · cases h
  rw [Settings.check] at hcheck
  cases hnamespace : Settings.checkNamespace (settings.value .namespaceName) reservedWords with
  | error e =>
    rw [hnamespace] at hcheck
    cases hcheck
  | ok aboutNamespace =>
    cases hindent : Settings.checkIndent (settings.value .indentSize) with
    | error e =>
      rw [hnamespace, hindent] at hcheck
      cases hcheck
    | ok aboutIndent =>
      rw [hnamespace, hindent] at hcheck
      obtain rfl := Except.ok.inj hcheck
      rw [List.filterMap_append, List.filterMap_append, site?_checkNamespace hnamespace,
        site?_checkIndent hindent]
      split <;> rfl

theorem dangles_iff_of_isComposite {s : Schema} (hkeyed : s.Keyed) (hclosed : s.Closed)
    {m : ObjectType} (hm : m ∈ s.models) {f : Field} (hf : f ∈ m.fields)
    (hkind : f.type.leaf.kind.isComposite = true) (hstored : isStored f.type.classified = true) :
    f.type.leaf.name ∈ s.models.map ObjectType.name ↔ ¬ f.type.Dangles := by
  obtain ⟨target, htarget, hnamed⟩ := hclosed m hm f hf
  have hmodel := hkeyed.mem_models_iff htarget
  have hname : target.name = f.type.leaf.name := congrArg Named.name hnamed
  have htargetKind : target.kind = f.type.leaf.kind := congrArg Named.kind hnamed
  rw [hname, htargetKind] at hmodel
  rw [hmodel, TypeRef.Dangles]
  split
  · next hobject => simp [hobject]
  · next hobject =>
    have hlist := ((isStored_of_isComposite hkind).mp hstored).resolve_left hobject
    simp [hobject, hlist]

/-- The class that a declaration names is in the same source, or else a warning names the field, just
unless the type is an object type of introspection, or an interface or a union in a list. -/
theorem references_resolve_iff (hkeyed : s.Keyed) (hclosed : s.Closed) {code : String}
    {ws : List Warning} {facts : Metadata}
    (hrun : Report.generate settings s w = .ok (.success code ws facts) t) :
    code = Text.tidy (Line.textOf w.printer.indent (sourceLines settings.style s)) ∧
    ∀ m ∈ s.models,
      (classLines settings.style m.name m.fields).map
          Line.deeper^[settings.style.scope.toList.length] <:+: sourceLines settings.style s ∧
      ∃ names scope,
        Naming.Scope.empty.answers naming (nameRequests m.fields) = .ok (names.map some, scope) ∧
        names.length = m.fields.length ∧
        ∀ x ∈ m.fields.zip names, x.1.type.leaf.kind.isComposite = true →
          ((∃ type, (x.2, type) ∈ references settings.style m) ∨
            0 < warningsAbout ws m.name x.1.name) ∧
          ∀ type, (x.2, type) ∈ references settings.style m →
            type = x.1.type.leaf.name ∧
            ((type ∈ Line.scan openedName? (sourceLines settings.style s) ∨
                0 < warningsAbout ws m.name x.1.name) ↔ ¬ x.1.type.Dangles) := by
  obtain ⟨ws₁, ws₂, raw, u, hws₁, hws₂, rfl, hraw, rfl, -⟩ := generate_success hrun
  obtain ⟨houtput, rfl⟩ := (schemaWarnings_eq_ok_iff s ws₂).mp hws₂
  obtain ⟨p, n, e⟩ := w
  obtain ⟨⟨-, hcan⟩, rfl, -⟩ := (gives_source s raw u).mp hraw
  refine ⟨rfl, fun m hm => ⟨classLines_in_source settings.style hm, ?_⟩⟩
  refine ⟨(namedFields m.fields).map Prod.snd, _, answers_nameRequests m.fields, ?_, ?_⟩
  · rw [List.length_map, length_namedFields]
  rw [zip_namedFields]
  intro x hx hkind
  have hfield : x.1 ∈ m.fields := mem_of_mem_namedFields hx
  have hnames : ∀ y ∈ namedFields m.fields, settings.style.typeNaming.Names y.1.type :=
    fun y hy => (hcan m hm y hy).1.type
  have hmem := mem_references_iff (hkeyed.fieldsOf hm) hnames hx hkind
  have hwarned : warningsAbout (ws₁ ++ s.models.flatMap warningsOn) m.name x.1.name =
      if !isStored x.1.type.classified then 1 else 0 := by
    rw [← warningsAbout_eq hkeyed hm hfield, warningsAbout, warningsAbout, List.filterMap_append,
      site?_settingsWarnings hws₁, List.nil_append]
  rw [hwarned, scan_openedName?_sourceLines]
  constructor
  · cases hstored : isStored x.1.type.classified with
    | true => exact .inl ⟨_, (hmem _).mpr ⟨hstored, rfl⟩⟩
    | false => exact .inr Nat.one_pos
  · intro type htype
    obtain ⟨hstored, rfl⟩ := (hmem type).mp htype
    refine ⟨rfl, ?_⟩
    rw [← dangles_iff_of_isComposite hkeyed hclosed hm hfield hkind hstored, hstored]
    simp

def leader : Field := ⟨"leader", .named ⟨"Person", .object⟩, [], .absent, .absent⟩

def allies : Field := ⟨"allies", .list (.named ⟨"Node", .interface⟩), [], .absent, .absent⟩

def guildModel : ObjectType where
  name := "Guild"
  fields := [leader, allies, ⟨"shape", .named ⟨"__Type", .object⟩, [], .absent, .absent⟩, friend]

def guild : Schema where
  types := people.types ++
    [⟨"Date", .scalar⟩, ⟨"ID", .scalar⟩, ⟨"String", .scalar⟩, ⟨"__Type", .object [] []⟩,
      ⟨"Guild", .object [] guildModel.fields⟩]

theorem guildModel_mem_models : guildModel ∈ guild.models := by decide

theorem keyed_guild : guild.Keyed where
  types := by decide
  fields := by
    intro t ht fs hfs
    fin_cases ht <;> cases hfs <;> decide

theorem closed_guild : guild.Closed := by
  unfold Schema.Closed
  decide

theorem generate_guild : ∃ ws code t, schemaWarnings guild = .ok ws ∧
    Report.generate Settings.default guild Settings.default.session =
      .ok (.success code ws (metadata Settings.default guild)) t :=
  generate_default guild ⟨by decide, by decide⟩

theorem guild_references_resolve :
    guild.Keyed ∧ guild.Closed ∧
    ∃ code ws facts t, Report.generate Settings.default guild Settings.default.session =
        .ok (.success code ws facts) t ∧
      ∃ names, (leader, "leader") ∈ guildModel.fields.zip names ∧
        ∃ type, ("leader", type) ∈ references Settings.default.style guildModel ∧
          type ∈ Line.scan openedName? (sourceLines Settings.default.style guild) := by
  obtain ⟨ws, code, t, hws, hrun⟩ := generate_guild
  obtain ⟨-, hmodels⟩ := references_resolve_iff keyed_guild closed_guild hrun
  obtain ⟨-, names, scope, hnames, -, hfields⟩ := hmodels guildModel guildModel_mem_models
  have hmem : (leader, "leader") ∈ guildModel.fields.zip names := by
    rw [zip_of_answers hnames]
    decide
  obtain ⟨hsome, hall⟩ := hfields _ hmem rfl
  obtain ⟨-, rfl⟩ := (schemaWarnings_eq_ok_iff guild ws).mp hws
  have hwarned : ¬ 0 < warningsAbout (guild.models.flatMap warningsOn) "Guild" "leader" := by decide
  obtain ⟨type, htype⟩ := hsome.resolve_right hwarned
  obtain ⟨-, hresolves⟩ := hall type htype
  refine ⟨keyed_guild, closed_guild, code, _, _, t, hrun, names, hmem, type, htype, ?_⟩
  exact (hresolves.mpr (by decide)).resolve_right hwarned

theorem allies_reference_dangles :
    ∃ code ws facts t, Report.generate Settings.default guild Settings.default.session =
        .ok (.success code ws facts) t ∧
      guildModel ∈ guild.models ∧ allies ∈ guildModel.fields ∧
      ("allies", "Node") ∈ references Settings.default.style guildModel ∧
      "Node" ∉ Line.scan openedName? (sourceLines Settings.default.style guild) ∧
      warningsAbout ws "Guild" "allies" = 0 := by
  obtain ⟨ws, code, t, hws, hrun⟩ := generate_guild
  obtain ⟨-, rfl⟩ := (schemaWarnings_eq_ok_iff guild ws).mp hws
  refine ⟨code, _, _, t, hrun, guildModel_mem_models, by decide, by decide, ?_, by decide⟩
  rw [scan_openedName?_sourceLines]
  decide

end Model

end RealmModels
